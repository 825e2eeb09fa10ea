import BinaryCoverage.Proofs.Correlation.Growth

/-!
# Consistent documents

A record with a positive count stands on a covered line, and a covered line stands in a file with a
covered function.  Counts may fall when an address is observed again, and flags never do, so both
are facts about how a document has come about.  This file defines:

* `Note.Backed` — notes that cover a line cover a function of its file first;
* `Document.Consistent` — counts are backed by lines, and lines by functions;
* `Assembly` — runs whose documents are merged in any order;

and shows that whatever has been assembled is consistent (`Assembly.consistent_document`).
-/

namespace BinaryCoverage

/-! ## Notes -/

theorem Note.coversLine_of_recordAt? {x : Note} {key : String} {n binary : UInt32}
    {address : UInt64} {r : InstructionRecord} (h : x.recordAt? key n binary address = some r)
    (hpositive : 0 < r.count) : x.CoversLine key n := by
  rcases x with ⟨k, _ | _ | ⟨m, b, a, r'⟩⟩
  · cases h
  · cases h
  · simp only [recordAt?, Option.ite_none_right_eq_some, Option.some.injEq] at h
    obtain ⟨⟨rfl, rfl, rfl, rfl⟩, rfl⟩ := h
    exact ⟨b, a, r', rfl, hpositive⟩

/-- However many of the notes have been taken down, where they cover a line of a file they cover a
function of it too. -/
def Note.Backed (xs : List Note) : Prop :=
  ∀ done, done <+: xs → ∀ key n, (∃ x ∈ done, x.CoversLine key n) →
    ∃ name, ∃ x ∈ done, x.CoversFunction key name

namespace Note.Backed

variable {xs ys : List Note}

theorem of_prefix (h : Backed ys) (hxs : xs <+: ys) : Backed xs := by
  intro done hdone
  exact h done (hdone.trans hxs)

theorem of_no_line (h : ∀ x ∈ xs, ∀ key n, ¬ x.CoversLine key n) : Backed xs := by
  intro done hdone key n hline
  obtain ⟨x, hx, hcovers⟩ := hline
  exact absurd hcovers (h x (hdone.subset hx) key n)

theorem append (hxs : Backed xs) (hys : Backed ys) : Backed (xs ++ ys) := by
  intro done hdone key n hline
  -- Either the second list has not been reached, or all of the first one has been taken down.
  rcases List.prefix_or_prefix_of_prefix hdone (List.prefix_append xs ys) with hfirst | hall
  · exact hxs done hfirst key n hline
  · obtain ⟨rest, rfl⟩ := hall
    have hrest : rest <+: ys := (List.prefix_append_right_inj xs).1 hdone
    obtain ⟨x, hx, hcovers⟩ := hline
    have hback : ∃ name, (∃ y ∈ xs, y.CoversFunction key name) ∨
        ∃ y ∈ rest, y.CoversFunction key name := by
      rcases List.mem_append.1 hx with hx | hx
      · have hfunction := hxs xs (List.prefix_refl xs) key n ⟨x, hx, hcovers⟩
        exact hfunction.imp fun _ => Or.inl
      · have hfunction := hys rest hrest key n ⟨x, hx, hcovers⟩
        exact hfunction.imp fun _ => Or.inr
    obtain ⟨name, ⟨y, hy, hfunction⟩ | ⟨y, hy, hfunction⟩⟩ := hback
    · exact ⟨name, y, List.mem_append_left rest hy, hfunction⟩
    · exact ⟨name, y, List.mem_append_right xs hy, hfunction⟩

theorem flatMap {α : Type} {notes : α → List Note} (items : List α)
    (h : ∀ a ∈ items, Backed (notes a)) : Backed (items.flatMap notes) := by
  induction items with
  | nil =>
      exact of_no_line nofun
  | cons a rest ih =>
      have hfirst := h a (by simp)
      have hrest := ih fun b hb => h b (by simp [hb])
      rw [List.flatMap_cons]
      exact hfirst.append hrest

end Note.Backed

/-! ## Runs and blocks -/

/-- The note on its function comes first among those of a run. -/
theorem SourceRun.backed_notes (m : SourceMapping) (binary : UInt32) (traces : TraceStore)
    (owner : String) (run : SourceRun) :
    Note.Backed (run.notes m binary traces owner 0) := by
  intro done hdone key n hline
  obtain ⟨x, hx, hcovers⟩ := hline
  -- A line of the run is covered by an instruction of it that has run.
  have hran : run.key m = key ∧ traces.hasRun run := by
    have hobserved := (run.exists_instruction_iff m binary traces owner 0
      (Q := Note.CoversLine key n) (by simp [Note.CoversLine]) (by simp [Note.CoversLine])).1
      ⟨x, hdone.subset hx, hcovers⟩
    obtain ⟨o, ho, binary', address, r, heq, hpositive⟩ := hobserved
    obtain ⟨i, hi, rfl⟩ := List.mem_map.1 ho
    simp only [Note.mk.injEq, Finding.instruction.injEq] at heq
    obtain ⟨hkey, _, _, _, rfl⟩ := heq
    exact ⟨hkey, (traces.hasRun_iff run).2 ⟨i, hi, hpositive⟩⟩
  obtain ⟨rfl, hrun⟩ := hran
  cases done with
  | nil =>
      cases hx
  | cons first rest =>
      have hfirst := (List.cons_prefix_cons.1 hdone).1
      refine ⟨owner, first, List.mem_cons_self, 0, ?_⟩
      rw [hfirst, hrun]

theorem CountedBlock.backed_notes (m : SourceMapping) (b : CountedBlock) :
    Note.Backed (b.notes m) := by
  have hlabel : ∀ covered,
      Note.Backed [⟨b.home.key m, .function b.block.label 0 covered⟩] := by
    intro covered
    refine Note.Backed.of_no_line ?_
    intro x hx key n
    rw [List.mem_singleton.1 hx]
    simp [Note.CoversLine]
  have hruns : Note.Backed
      (b.block.resolvedRuns.flatMap fun owned => owned.2.notes m b.binary b.traces owned.1 0) := by
    refine Note.Backed.flatMap _ ?_
    intro owned _
    exact owned.2.backed_notes m b.binary b.traces owned.1
  have hlast : Note.Backed
      (if b.hasRun then [⟨b.home.key m, .function b.block.label 0 true⟩] else []) := by
    split
    · exact hlabel true
    · exact Note.Backed.of_no_line (List.forall_mem_nil _)
  exact ((hlabel false).append hruns).append hlast

/-! ## Documents -/

structure Document.Consistent (d : Document) : Prop where
  /-- What has been counted stands on a covered line. -/
  counted (key : String) (n binary : UInt32) (address : UInt64) (r : InstructionRecord) :
    d.record? key n binary address = some r → 0 < r.count → d.isLineCovered key n
  /-- A file with a covered line has been entered through one of its functions. -/
  entered (key : String) (n : UInt32) :
    d.isLineCovered key n → ∃ name, d.isFunctionCovered key name

namespace Document

variable {d e : Document}

theorem consistent_empty : Consistent {} := by
  refine ⟨?_, ?_⟩
  · intro key n binary address r hr
    simp [record?, line?, file?] at hr
  · intro key n hline
    simp [isLineCovered, line?, file?] at hline

theorem consistent_noteAll {xs : List Note} (h : d.Consistent)
    (hxs : ∀ key n, (∃ x ∈ xs, x.CoversLine key n) → ∃ name, ∃ x ∈ xs, x.CoversFunction key name) :
    (d.noteAll xs).Consistent := by
  have hline : ∀ key n, (d.noteAll xs).isLineCovered key n ↔
      d.isLineCovered key n ∨ ∃ x ∈ xs, x.CoversLine key n := by
    intro key n
    exact noteAll_iff (P := fun d => d.isLineCovered key n = true)
      (fun d x => d.isLineCovered_note x key n) d xs
  have hfunction : ∀ key name, (d.noteAll xs).isFunctionCovered key name ↔
      d.isFunctionCovered key name ∨ ∃ x ∈ xs, x.CoversFunction key name := by
    intro key name
    exact noteAll_iff (P := fun d => d.isFunctionCovered key name = true)
      (fun d x => d.isFunctionCovered_note x key name) d xs
  refine ⟨?_, ?_⟩
  · intro key n binary address r hr hpositive
    rw [hline]
    rw [record?_noteAll] at hr
    -- The record is the last one noted at its address, or has been there before.
    rcases Option.or_eq_some_iff.1 hr with hlast | ⟨_, hold⟩
    · obtain ⟨x, hx, hrecord⟩ := List.mem_filterMap.1 (List.mem_of_getLast? hlast)
      exact Or.inr ⟨x, hx, Note.coversLine_of_recordAt? hrecord hpositive⟩
    · exact Or.inl (h.counted key n binary address r hold hpositive)
  · intro key n hcovered
    rcases (hline key n).1 hcovered with hold | hnew
    · obtain ⟨name, hname⟩ := h.entered key n hold
      exact ⟨name, (hfunction key name).2 (Or.inl hname)⟩
    · obtain ⟨name, hname⟩ := hxs key n hnew
      exact ⟨name, (hfunction key name).2 (Or.inr hname)⟩

/-- A merged line has its records from either document and the flags of both. -/
theorem consistent_merge (hd : d.Consistent) (he : e.Consistent) : (d.merge e).Consistent := by
  refine ⟨?_, ?_⟩
  · intro key n binary address r hr hpositive
    rw [record?_merge] at hr
    rw [isLineCovered_merge]
    rcases Option.or_eq_some_iff.1 hr with hsecond | ⟨_, hfirst⟩
    · exact Or.inr (he.counted key n binary address r hsecond hpositive)
    · exact Or.inl (hd.counted key n binary address r hfirst hpositive)
  · intro key n hcovered
    rcases (isLineCovered_merge d e key n).1 hcovered with hfirst | hsecond
    · obtain ⟨name, hname⟩ := hd.entered key n hfirst
      exact ⟨name, (isFunctionCovered_merge d e key name).2 (Or.inl hname)⟩
    · obtain ⟨name, hname⟩ := he.entered key n hsecond
      exact ⟨name, (isFunctionCovered_merge d e key name).2 (Or.inr hname)⟩

end Document

/-! ## Operations -/

namespace Correlator

variable {c : Correlator}

/-- A transcript that is cut short has still covered its functions before their lines. -/
theorem consistent_take (h : c.document.Consistent) (v : SourceView) (b : BinaryInput) :
    (c.take v b).2.correlator.document.Consistent := by
  obtain ⟨xs, hxs, hdocument⟩ := (c.take_spec v b).document
  have hbacked : Note.Backed (xs.map Note.bare) := by
    refine Note.Backed.of_prefix ?_ hxs.begins
    exact Note.Backed.flatMap _ fun block _ => block.backed_notes v.mapping
  rw [hdocument]
  refine Document.consistent_noteAll h ?_
  intro key n hline
  -- The plan leaves the declaration lines out, on which coverage does not depend.
  have hplanned := hbacked _ (List.prefix_refl _) key n
  simp only [List.mem_map, exists_exists_and_eq_and, Note.coversLine_bare,
    Note.coversFunction_bare] at hplanned
  exact hplanned hline

/-- Placing functions touches no line and uncovers no function. -/
theorem consistent_placeUnmapped (h : c.document.Consistent) (v : SourceView)
    (functions : FunctionTable) (traces : TraceStore) (search : SourceSearch) :
    (c.placeUnmapped v functions traces search).2.correlator.document.Consistent := by
  have hline := (c.keeps_placeUnmapped v functions traces search).line
  have hgrows := c.growsTo_placeUnmapped v functions traces search
  refine ⟨?_, ?_⟩
  · intro key n binary address r hr hpositive
    have hold : c.document.record? key n binary address = some r := by
      rw [Document.record?, ← hline]
      exact hr
    rw [Document.isLineCovered, hline]
    exact h.counted key n binary address r hold hpositive
  · intro key n hcovered
    rw [Document.isLineCovered, hline] at hcovered
    obtain ⟨name, hname⟩ := h.entered key n hcovered
    exact ⟨name, hgrows.functionCovered key name hname⟩

theorem consistent_performAll (h : c.document.Consistent) (ops : List Operation) :
    (c.performAll ops).document.Consistent := by
  induction ops generalizing c with
  | nil =>
      exact h
  | cons op ops ih =>
      refine ih (c := c.perform op) ?_
      cases op with
      | take v b =>
          exact consistent_take h v b
      | placeUnmapped v functions traces search =>
          exact consistent_placeUnmapped h v functions traces search

end Correlator

/-! ## Assemblies -/

/-- Runs, each of any operations, whose documents are merged in any order. -/
inductive Assembly where
  | run (index : Option DeclarationIndex) (ops : List Operation) (sources : List Payload)
      (metadata : Option Payload)
  | merged (first second : Assembly)

namespace Assembly

/-- The document that the runs come to. -/
def document : Assembly → Document
  | .run index ops sources metadata =>
      (({ index } : Correlator).performAll ops).finish sources metadata
  | .merged first second => first.document.merge second.document

theorem consistent_document (a : Assembly) : a.document.Consistent := by
  induction a with
  | run index ops sources metadata =>
      have hperformed := Correlator.consistent_performAll (c := { index })
        Document.consistent_empty ops
      -- Finishing adds to the provenance only.
      exact ⟨hperformed.counted, hperformed.entered⟩
  | merged first second hfirst hsecond =>
      exact Document.consistent_merge hfirst hsecond

/-- An address may be observed again without having run, which takes its count back and leaves the
line covered. -/
example :
    let view : SourceView := ⟨⟨⟨"/w"⟩, ⟨"tree"⟩, true⟩, ⟨{}, fun _ => .ok ∅⟩⟩
    let image := FunctionTable.ofSymbols [⟨"f", 4096, 4100, false⟩]
    let transcript := "1000 <f>:\n/w/f.c:3\n1000:\tret\n"
    let d := document (.merged
      (.run none [.take view ⟨"bl1", transcript, image, TraceStore.ingest {} "1000 2 4"⟩] [] none)
      (.run none [.take view ⟨"bl1", transcript, image, {}⟩] [] none))
    d.record? "f.c" 3 0 4096 = some ⟨"ret", 0⟩ ∧ d.isLineCovered "f.c" 3 = true := by
  decide +kernel

end Assembly

end BinaryCoverage
