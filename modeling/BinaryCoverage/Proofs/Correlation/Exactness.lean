import BinaryCoverage.Proofs.Correlation.Observation
import BinaryCoverage.Proofs.Correlation.Progress

/-!
# What a correlation comes to

Correlating any binaries one after the other gives the document that their counted blocks
describe, and nothing else.  This file defines:

* `Document.Shows` — a document holds what a history says, entry by entry;
* `Correlator.correlateAll` — several binaries, one after the other;

and shows that a history determines all but the declaration lines of a document
(`Document.Shows.unique`), and that the document after all binaries shows their history
(`correlateAll_shows`).
-/

namespace BinaryCoverage

/-! ## Descriptions -/

/-- A document holds what a history says, entry by entry.  What the functions of the document say
about their declaration lines is left open. -/
structure Document.Shows (m : SourceMapping) (blocks : List CountedBlock) (d : Document) :
    Prop where
  file : ∀ key, (d.file? key).isSome ↔ ∃ b ∈ blocks, ∃ run ∈ b.block.runs, run.key m = key
  line : ∀ key n, (d.line? key n).isSome ↔
    ∃ b ∈ blocks, ∃ run ∈ b.block.runs, run.key m = key ∧ run.line = n
  record : ∀ key n binary address, d.record? key n binary address =
    ((blocks.flatMap (·.observations m)).filter
      (Observation.isAt key n binary address)).getLast?.map (·.record)
  binary : ∀ key n binary, (d.line? key n).any (·.hasBinary binary) ↔
    ∃ o ∈ blocks.flatMap (·.observations m), o.key = key ∧ o.line = n ∧ o.binary = binary
  lineCovered : ∀ key n, d.isLineCovered key n ↔
    ∃ o ∈ blocks.flatMap (·.observations m), o.key = key ∧ o.line = n ∧ 0 < o.record.count
  function : ∀ key name, (d.function? key name).isSome ↔ ∃ b ∈ blocks,
    (b.home.key m = key ∧ b.block.label = name) ∨
      ∃ owned ∈ b.block.resolvedRuns, owned.2.key m = key ∧ owned.1 = name
  functionCovered : ∀ key name, d.isFunctionCovered key name ↔ ∃ b ∈ blocks,
    (b.home.key m = key ∧ b.block.label = name ∧ ∃ run ∈ b.block.runs, run.Ran b.traces) ∨
      ∃ owned ∈ b.block.resolvedRuns,
        owned.2.key m = key ∧ owned.1 = name ∧ owned.2.Ran b.traces
  provenance : d.provenance = {}

namespace Document.Shows

variable {m : SourceMapping} {blocks : List CountedBlock} {d e : Document}

theorem line?_eq (h : d.Shows m blocks) (h' : e.Shows m blocks) (key : String) (n : UInt32) :
    d.line? key n = e.line? key n := by
  have hthere : (d.line? key n).isSome = (e.line? key n).isSome :=
    Bool.eq_iff_iff.2 ((h.line key n).trans (h'.line key n).symm)
  cases hd : d.line? key n with
  | none =>
      cases he : e.line? key n with
      | none =>
          rfl
      | some l' =>
          simp [hd, he] at hthere
  | some l =>
      cases he : e.line? key n with
      | none =>
          simp [hd, he] at hthere
      | some l' =>
          -- Both have the line, and the history answers every look-up into it.
          refine congrArg some (LineCoverage.eq_of_lookups ?_ ?_ ?_)
          · have hcovered := (h.lineCovered key n).trans (h'.lineCovered key n).symm
            simpa [isLineCovered, hd, he, ← Bool.eq_iff_iff] using hcovered
          · intro binary
            have hbinary := (h.binary key n binary).trans (h'.binary key n binary).symm
            simpa [hd, he, ← Bool.eq_iff_iff] using hbinary
          · intro binary address
            have hrecord := (h.record key n binary address).trans
              (h'.record key n binary address).symm
            simpa [record?, hd, he] using hrecord

theorem coverage?_eq (h : d.Shows m blocks) (h' : e.Shows m blocks) (key name : String) :
    d.coverage? key name = e.coverage? key name := by
  have hthere := (h.function key name).trans (h'.function key name).symm
  have hcovered := (h.functionCovered key name).trans (h'.functionCovered key name).symm
  unfold isFunctionCovered at hcovered
  unfold coverage?
  cases hd : d.function? key name <;> cases he : e.function? key name <;>
    simp_all

/-- Two documents that show the same history differ in declaration lines at most. -/
theorem unique (h : d.Shows m blocks) (h' : e.Shows m blocks) :
    (∀ key, (d.file? key).isSome = (e.file? key).isSome) ∧
      (∀ key n, d.line? key n = e.line? key n) ∧
      (∀ key name, d.coverage? key name = e.coverage? key name) ∧ d.provenance = e.provenance := by
  refine ⟨?_, h.line?_eq h', h.coverage?_eq h', h.provenance.trans h'.provenance.symm⟩
  intro key
  exact Bool.eq_iff_iff.2 ((h.file key).trans (h'.file key).symm)

end Document.Shows

/-! ## Documents after notes -/

namespace Document

variable {m : SourceMapping} {blocks : List CountedBlock} {xs : List Note}

/-- What notes bring about in an empty document depends on the blocks that they come from. -/
theorem noteAll_blocks_iff {P : Document → Prop} {Q : Note → Prop}
    (hstep : ∀ d x, P (d.note x) ↔ P d ∨ Q x) (hempty : ¬ P {}) (hbare : ∀ x, Q x.bare ↔ Q x)
    (hxs : xs.map Note.bare = blocks.flatMap (CountedBlock.notes m)) :
    P (({} : Document).noteAll xs) ↔ ∃ b ∈ blocks, ∃ x ∈ b.notes m, Q x := by
  -- The blocks do not know the declaration lines, and `Q` does not ask for them.
  have hmap : (∃ x ∈ xs, Q x) ↔ ∃ x ∈ xs.map Note.bare, Q x := by
    simp only [List.mem_map, exists_exists_and_eq_and, hbare]
  rw [noteAll_iff hstep, hmap, hxs, exists_mem_flatMap_iff]
  exact or_iff_right hempty

/-- The last observation of an address tells its record, whatever stood there before. -/
theorem record?_blocks (d : Document)
    (hxs : xs.map Note.bare = blocks.flatMap (CountedBlock.notes m)) (key : String)
    (n binary : UInt32) (address : UInt64) :
    (d.noteAll xs).record? key n binary address =
      (((blocks.flatMap (·.observations m)).filter
        (Observation.isAt key n binary address)).getLast?.map (·.record)).or
          (d.record? key n binary address) := by
  have hbare : xs.filterMap (Note.recordAt? key n binary address) =
      (xs.map Note.bare).filterMap (Note.recordAt? key n binary address) := by
    rw [List.filterMap_map]
    congr 1
    funext x
    exact (x.recordAt?_bare key n binary address).symm
  have hblocks : (xs.map Note.bare).filterMap (Note.recordAt? key n binary address) =
      ((blocks.flatMap (·.observations m)).filter
        (Observation.isAt key n binary address)).map (·.record) := by
    rw [hxs, List.filterMap_flatMap, List.filter_flatMap, List.map_flatMap]
    congr 1
    funext b
    exact b.filterMap_recordAt?_notes key n binary address
  rw [record?_noteAll, hbare, hblocks, List.getLast?_map]

theorem shows_noteAll (hxs : xs.map Note.bare = blocks.flatMap (CountedBlock.notes m)) :
    (({} : Document).noteAll xs).Shows m blocks where
  file key := by
    rw [noteAll_blocks_iff (P := fun d => (d.file? key).isSome = true)
      (fun d x => d.isSome_file?_note x key) (by simp [file?]) (fun x => by rw [x.key_bare]) hxs]
    simp only [CountedBlock.exists_key_iff]
  line key n := by
    rw [noteAll_blocks_iff (P := fun d => (d.line? key n).isSome = true)
      (fun d x => d.isSome_line?_note x key n) (by simp [line?, file?])
      (fun x => x.namesLine_bare key n) hxs]
    simp only [CountedBlock.exists_namesLine_iff]
  record key n binary address := by
    rw [record?_blocks {} hxs]
    simp [record?, line?, file?]
  binary key n binary := by
    rw [noteAll_blocks_iff (P := fun d => (d.line? key n).any (·.hasBinary binary) = true)
      (fun d x => d.hasBinary_note x key n binary) (by simp [line?, file?])
      (fun x => x.namesBinary_bare key n binary) hxs]
    simp only [CountedBlock.exists_namesBinary_iff, exists_mem_flatMap_iff]
  lineCovered key n := by
    rw [noteAll_blocks_iff (P := fun d => d.isLineCovered key n = true)
      (fun d x => d.isLineCovered_note x key n) (by simp [isLineCovered, line?, file?])
      (fun x => x.coversLine_bare key n) hxs]
    simp only [CountedBlock.exists_coversLine_iff, exists_mem_flatMap_iff]
  function key name := by
    rw [noteAll_blocks_iff (P := fun d => (d.function? key name).isSome = true)
      (fun d x => d.isSome_function?_note x key name) (by simp [function?, file?])
      (fun x => x.namesFunction_bare key name) hxs]
    simp only [CountedBlock.exists_namesFunction_iff]
  functionCovered key name := by
    rw [noteAll_blocks_iff (P := fun d => d.isFunctionCovered key name = true)
      (fun d x => d.isFunctionCovered_note x key name)
      (by simp [isFunctionCovered, function?, file?]) (fun x => x.coversFunction_bare key name) hxs]
    simp only [CountedBlock.exists_coversFunction_iff]
  provenance := provenance_noteAll {} xs

end Document

/-! ## Several binaries -/

namespace Correlator

/-- Correlates binaries one after the other, each with the declarations of its time. -/
def correlateAll (m : SourceMapping) :
    Correlator → List (DeclarationSource × BinaryInput) → Option Failure × Correlator :=
  attemptEach fun c (declarations, b) =>
    let (failure, p) := c.take ⟨m, declarations⟩ b
    (failure, p.correlator)

section Cons

variable {m : SourceMapping} {c : Correlator} {declarations : DeclarationSource} {b : BinaryInput}
  {rest : List (DeclarationSource × BinaryInput)}

theorem correlateAll_cons_of_none (h : (c.take ⟨m, declarations⟩ b).1 = none)
    (rest : List (DeclarationSource × BinaryInput)) :
    c.correlateAll m ((declarations, b) :: rest) =
      (c.take ⟨m, declarations⟩ b).2.correlator.correlateAll m rest :=
  attemptEach_cons_of_none (a := (declarations, b)) h rest

theorem correlateAll_cons_of_some {e : Failure} (h : (c.take ⟨m, declarations⟩ b).1 = some e)
    (rest : List (DeclarationSource × BinaryInput)) :
    c.correlateAll m ((declarations, b) :: rest) =
      (some e, (c.take ⟨m, declarations⟩ b).2.correlator) :=
  attemptEach_cons_of_some (a := (declarations, b)) h rest

theorem first_of_correlateAll_cons
    (h : (c.correlateAll m ((declarations, b) :: rest)).1 = none) :
    (c.take ⟨m, declarations⟩ b).1 = none :=
  first_of_attemptEach_cons (a := (declarations, b)) h

end Cons

theorem correlateAll_notes (m : SourceMapping) (c : Correlator)
    (inputs : List (DeclarationSource × BinaryInput))
    (hsucceeds : (c.correlateAll m inputs).1 = none) :
    ∃ xs, xs.map Note.bare =
        (countedBlocks c.registry (inputs.map (·.2))).flatMap (CountedBlock.notes m) ∧
      (c.correlateAll m inputs).2.document = c.document.noteAll xs := by
  induction inputs generalizing c with
  | nil =>
      exact ⟨[], rfl, rfl⟩
  | cons input rest ih =>
      rcases input with ⟨declarations, b⟩
      have hfirst := c.take_spec ⟨m, declarations⟩ b
      have htake := first_of_correlateAll_cons hsucceeds
      rw [correlateAll_cons_of_none htake] at hsucceeds ⊢
      rcases hfirst.document with ⟨xs, hxs, hdocument⟩
      rcases ih _ hsucceeds with ⟨ys, hys, hrest⟩
      -- The registry left by the first binary gives the indices of the rest.
      refine ⟨xs ++ ys, ?_, ?_⟩
      · rw [hfirst.registry] at hys
        rw [List.map_append, hxs.complete htake, hys, ← List.flatMap_append]
        rfl
      · rw [Document.noteAll_append, ← hdocument]
        exact hrest

/-- Binaries that have all been correlated leave exactly what their counted blocks say. -/
theorem correlateAll_shows (m : SourceMapping) (index : Option DeclarationIndex)
    (inputs : List (DeclarationSource × BinaryInput))
    (hsucceeds : (({ index } : Correlator).correlateAll m inputs).1 = none) :
    (({ index } : Correlator).correlateAll m inputs).2.document.Shows m
      (countedBlocks {} (inputs.map (·.2))) := by
  rcases correlateAll_notes m { index } inputs hsucceeds with ⟨xs, hxs, hdocument⟩
  rw [hdocument]
  exact Document.shows_noteAll hxs

/-- Two binaries with the same inlined function, which has run in the second one. -/
def sharedInline : List (DeclarationSource × BinaryInput) :=
  let declarations : DeclarationSource := ⟨{}, fun _ => .ok ∅⟩
  let transcript :=
    "00001000 <main>:\nmain():\n/w/m.c:3\n 1000:\tnop\nhelp():\n/w/h.h:7\n 1004:\tret\n"
  let functions := FunctionTable.ofSymbols [⟨"main", 4096, 4104, false⟩]
  [(declarations, ⟨"bl1", transcript, functions, {}⟩),
    (declarations, ⟨"boot", transcript, functions, TraceStore.ingest {} "1004 2 4"⟩)]

theorem correlateAll_shows_sharedInline :
    let r := ({} : Correlator).correlateAll ⟨⟨"/w"⟩, ⟨"tree"⟩, true⟩ sharedInline
    r.1 = none ∧
      r.2.document.isLineCovered "h.h" 7 = true ∧
      r.2.document.Shows ⟨⟨"/w"⟩, ⟨"tree"⟩, true⟩ (countedBlocks {} (sharedInline.map (·.2))) := by
  refine ⟨by decide +kernel, by decide +kernel, ?_⟩
  exact correlateAll_shows _ none sharedInline (by decide +kernel)

end Correlator

end BinaryCoverage
