import BinaryCoverage.Proofs.Correlation.Observation
import BinaryCoverage.Proofs.Correlation.Placement
import BinaryCoverage.Proofs.Correlation.Registry
import BinaryCoverage.Proofs.Coverage.Merge

/-!
# Reachable correlators

A correlator starts without a document, takes binaries and places functions, and each of these may
be cut short.  This file defines:

* `Correlator.Reachable` — what can be reached that way;
* `Correlator.Indexed` — the binaries are numbered, and every instruction belongs to one of them;
* `Operation`, `Correlator.performAll` — what is done to a correlator, step by step;
* `Document.Finished` — a document that a reachable correlator has finished.
-/

namespace BinaryCoverage

namespace Correlator

inductive Reachable : Correlator → Prop where
  | fresh (index : Option DeclarationIndex) : Reachable { index }
  | take {c : Correlator} (v : SourceView) (b : BinaryInput) :
      Reachable c → Reachable (c.take v b).2.correlator
  | placeUnmapped {c : Correlator} (v : SourceView) (functions : FunctionTable)
      (traces : TraceStore) (search : SourceSearch) :
      Reachable c → Reachable (c.placeUnmapped v functions traces search).2.correlator

structure Indexed (c : Correlator) : Prop where
  numbers : ∃ names, c.registry.Numbers names
  named : ∀ key n binary, (c.document.line? key n).any (·.hasBinary binary) →
    ∃ name : String, c.registry.assigned[name]? = some binary

theorem indexed_fresh (index : Option DeclarationIndex) : Indexed { index } := by
  refine ⟨⟨[], BinaryRegistry.numbers_empty⟩, ?_⟩
  intro key n binary h
  simp [Document.line?, Document.file?] at h

/-- The notes of a binary are about its own index. -/
theorem eq_of_namesBinary {m : SourceMapping} {b : BinaryInput} {i : UInt32} {x : Note}
    {key : String} {n binary : UInt32}
    (hx : x ∈ (b.counted i).flatMap (CountedBlock.notes m)) (hnames : x.NamesBinary key n binary) :
    i = binary := by
  rcases List.mem_flatMap.1 hx with ⟨block, hblock, hx⟩
  rcases (block.exists_namesBinary_iff key n binary).1 ⟨x, hx, hnames⟩ with ⟨o, ho, _, _, hbinary⟩
  rw [← (BinaryInput.mem_counted_iff.1 hblock).2.1, ← block.binary_of_mem_observations ho, hbinary]

/-- What the transcript adds, even when cut short, has been planned for its own index. -/
theorem hasBinary_take {c : Correlator} {v : SourceView} {b : BinaryInput} {key : String}
    {n binary : UInt32}
    (h : ((c.take v b).2.correlator.document.line? key n).any (·.hasBinary binary)) :
    (c.document.line? key n).any (·.hasBinary binary) ∨ (c.registry.index b.name).1 = binary := by
  rcases (c.take_spec v b).document with ⟨xs, hxs, hdocument⟩
  rw [hdocument, Document.noteAll_iff
    (P := fun d => (d.line? key n).any (·.hasBinary binary) = true)
    (fun d x => d.hasBinary_note x key n binary)] at h
  refine h.imp_right ?_
  rintro ⟨x, hx, hnew⟩
  have hplanned := hxs.begins.mem (List.mem_map_of_mem hx)
  exact eq_of_namesBinary hplanned ((x.namesBinary_bare key n binary).2 hnew)

theorem indexed_take {c : Correlator} (h : c.Indexed) (v : SourceView) (b : BinaryInput) :
    (c.take v b).2.correlator.Indexed := by
  have hspec := c.take_spec v b
  rcases h.numbers with ⟨names, hnames⟩
  refine ⟨?_, ?_⟩
  · rw [hspec.registry]
    exact ⟨_, BinaryRegistry.numbers_index hnames b.name⟩
  · intro key n binary hbinary
    simp only [hspec.registry]
    rcases hasBinary_take hbinary with hold | hnew
    · -- An earlier binary keeps its name, even if it is this one.
      rcases h.named key n binary hold with ⟨name, hname⟩
      exact ⟨name, BinaryRegistry.assigned_index_of_assigned hname b.name⟩
    · refine ⟨b.name, ?_⟩
      rw [BinaryRegistry.assigned_index, if_pos rfl, hnew]

theorem indexed_placeUnmapped {c : Correlator} (h : c.Indexed) (v : SourceView)
    (functions : FunctionTable) (traces : TraceStore) (search : SourceSearch) :
    (c.placeUnmapped v functions traces search).2.correlator.Indexed := by
  have hkeeps := c.keeps_placeUnmapped v functions traces search
  refine ⟨?_, ?_⟩
  · rw [hkeeps.registry]
    exact h.numbers
  · intro key n binary
    rw [hkeeps.line, hkeeps.registry]
    exact h.named key n binary

theorem Reachable.indexed {c : Correlator} (h : c.Reachable) : c.Indexed := by
  induction h with
  | fresh index =>
      exact indexed_fresh index
  | take v b _ ih =>
      exact indexed_take ih v b
  | placeUnmapped v functions traces search _ ih =>
      exact indexed_placeUnmapped ih v functions traces search

end Correlator

/-! ## Operations -/

/-- Taking a binary or placing functions, with what the sources look like at the time. -/
inductive Operation where
  | take (v : SourceView) (b : BinaryInput)
  | placeUnmapped (v : SourceView) (functions : FunctionTable) (traces : TraceStore)
      (search : SourceSearch)

/-- The binary that is taken, if any is. -/
def Operation.name? : Operation → Option String
  | .take _ b => some b.name
  | .placeUnmapped _ _ _ _ => none

namespace Correlator

/-- The correlator after an operation, whether that has come to its end or has failed. -/
def perform (c : Correlator) : Operation → Correlator
  | .take v b => (c.take v b).2.correlator
  | .placeUnmapped v functions traces search =>
      (c.placeUnmapped v functions traces search).2.correlator

def performAll (c : Correlator) (ops : List Operation) : Correlator := ops.foldl perform c

theorem reachable_performAll {c : Correlator} (h : c.Reachable) (ops : List Operation) :
    (c.performAll ops).Reachable := by
  induction ops generalizing c with
  | nil =>
      exact h
  | cons op ops ih =>
      cases op with
      | take v b =>
          exact ih (h.take v b)
      | placeUnmapped v functions traces search =>
          exact ih (h.placeUnmapped v functions traces search)

end Correlator

/-! ## Finished documents -/

def Document.Finished (d : Document) : Prop :=
  ∃ (c : Correlator) (sources : List Payload) (metadata : Option Payload),
    c.Reachable ∧ c.finish sources metadata = d

namespace Document.Finished

variable {d : Document}

/-- The binaries of a finished document are numbered. -/
theorem numbering (h : d.Finished) : ∃ names, Numbering d.provenance.binaries names := by
  rcases h with ⟨c, sources, metadata, hreachable, rfl⟩
  rcases hreachable.indexed.numbers with ⟨names, hnames⟩
  exact ⟨names, hnames.numbering⟩

/-- Every record of a finished document belongs to a binary that it names. -/
theorem named (h : d.Finished) {key : String} {n binary : UInt32} {address : UInt64}
    {r : InstructionRecord} (hr : d.record? key n binary address = some r) :
    ∃ name, d.index? name = some binary := by
  rcases h with ⟨c, sources, metadata, hreachable, rfl⟩
  refine hreachable.indexed.named key n binary ?_
  -- Finishing adds to the provenance only, so the record is one of the correlator.
  have hline : c.document.record? key n binary address = some r := hr
  unfold record? at hline
  rcases Option.bind_eq_some_iff.1 hline with ⟨l, hl, hrecord⟩
  rcases Option.bind_eq_some_iff.1 hrecord with ⟨byAddress, hbinary, _⟩
  simp [hl, LineCoverage.hasBinary, Std.ExtTreeMap.mem_iff_isSome_getElem?, hbinary]

end Document.Finished

end BinaryCoverage
