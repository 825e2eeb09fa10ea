import BinaryCoverage.Proofs.Correlation.Identity
import BinaryCoverage.Proofs.Correlation.Incremental
import BinaryCoverage.Proofs.Coverage.Algebra

/-!
# Binaries in either order

Two binaries with indices of their own share files, functions and lines, but no records.  This file
defines:

* `Document.AddedBy` — a document has records of one binary, and functions at given lines;
* `Correlator.EitherOrder` — two binaries come to the same in either order;

and shows that such binaries may be taken in either order (`eitherOrder_performAll`), as long as no
file of the one is a file of the other that is spelled differently and answered differently.
-/

namespace BinaryCoverage

/-! ## Documents of single binaries -/

namespace Document

/-- The document has records of one binary only, and its functions have the lines that are told. -/
structure AddedBy (e : Document) (binary : UInt32) (line : String → String → UInt32 → Prop) :
    Prop where
  binaries : ∀ key n i, (e.line? key n).any (·.hasBinary i) → binary = i
  lines : ∀ key name f, e.function? key name = some f → line key name f.declaredAt
  provenance : e.provenance = {}

variable {v : SourceView} {keys others : List String} {x : Option DeclarationIndex}
  {d e : Document} {i j : UInt32}

theorem AddedBy.not_linesConflict (hd : d.AddedBy i (v.CommonLine keys others x))
    (he : e.AddedBy j (v.CommonLine others keys x)) (key name : String) :
    ¬ d.LinesConflict e key name := by
  rintro ⟨m, hm, n, hn, -, -, hne⟩
  rcases Option.map_eq_some_iff.1 hm with ⟨f, hf, rfl⟩
  rcases Option.map_eq_some_iff.1 hn with ⟨g, hg, rfl⟩
  -- The function is in a file of both lists.
  rcases hd.lines key name f hf with ⟨hkey, hline⟩
  rcases he.lines key name g hg with ⟨hother, hline'⟩
  have hsame := (hline hother).symm.trans (hline' hkey)
  exact hne (Except.ok.inj hsame)

theorem AddedBy.merge_comm (hd : d.AddedBy i (v.CommonLine keys others x))
    (he : e.AddedBy j (v.CommonLine others keys x)) (hindex : i ≠ j) : d.merge e = e.merge d := by
  have hfiles : (d.merge e).files = (e.merge d).files := by
    refine files_merge_comm ?_ (hd.not_linesConflict he)
    intro key n binary hdn hen
    exact hindex ((hd.binaries key n binary hdn).trans (he.binaries key n binary hen).symm)
  have hprovenance : (d.merge e).provenance = (e.merge d).provenance := by
    unfold merge
    rw [hd.provenance, he.provenance]
  cases hleft : d.merge e
  cases hright : e.merge d
  rw [hleft, hright] at hfiles hprovenance
  cases hfiles
  cases hprovenance
  rfl

end Document

/-! ## Correlators -/

namespace Correlator

variable {c : Correlator} {v : SourceView} {a b : BinaryInput} {others : List String}

/-- A binary adds the same to a correlator that gives it the same index and the same answers. -/
theorem take_elsewhere (c' : Correlator)
    (halike : v.AnswersAlike c.index (b.keys v.mapping) others)
    (hsame : v.SameAnswers (b.keys v.mapping) c.index c'.index)
    (hindex : (c'.registry.index b.name).1 = (c.registry.index b.name).1) :
    (c'.take v b).1 = (c.take v b).1 ∧ ∃ e : Document,
      e.AddedBy (c.registry.index b.name).1 (v.CommonLine (b.keys v.mapping) others c.index) ∧
      (c.take v b).2.correlator.document = c.document.merge e ∧
      (c'.take v b).2.correlator.document = c'.document.merge e := by
  rcases take_writes (SourceView.answers_commonLine c.index) ⟨hsame, halike.steady⟩
    (fun _ hkey => hkey) with ⟨xs, y, hxs, hdocument, -, htake⟩
  have hempty := htake { c' with document := {} } rfl hindex
  refine ⟨?_, ({} : Document).noteAll xs, ⟨?_, ?_, ?_⟩, ?_, ?_⟩
  · rw [htake c' rfl hindex]
  · intro key n i hi
    -- From an empty document, the binary comes to just what it adds.
    have htaken : ((({ c' with document := {} } : Correlator).take v b).2.correlator.document.line?
        key n).any (·.hasBinary i) := by
      rw [hempty]
      exact hi
    rcases hasBinary_take htaken with hnone | hown
    · simp [Document.line?, Document.file?] at hnone
    · exact hindex.symm.trans hown
  · intro key name f hf
    rcases Document.declaredAt_noteAll hf with ⟨g, hg, -⟩ | ⟨covered, hmem⟩
    · simp [Document.function?, Document.file?] at hg
    · exact hxs _ hmem name f.declaredAt covered rfl
  · exact Document.provenance_noteAll {} xs
  · rw [hdocument, Document.noteAll_eq_merge]
  · rw [htake c' rfl hindex]
    exact c'.document.noteAll_eq_merge xs

/-- It makes no difference which of two binaries is taken first, to whether each of them succeeds
and to what both come to. -/
structure EitherOrder (c : Correlator) (v : SourceView) (a b : BinaryInput) : Prop where
  first : ((c.perform (.take v b)).take v a).1 = (c.take v a).1
  second : ((c.perform (.take v a)).take v b).1 = (c.take v b).1
  document : (c.performAll [.take v a, .take v b]).document =
    (c.performAll [.take v b, .take v a]).document
  registry : (c.performAll [.take v a, .take v b]).registry =
    (c.performAll [.take v b, .take v a]).registry

/-- Binaries with indices of their own may be taken in either order. -/
theorem eitherOrder_of_index_ne (ha : c.registry.Knows a.name) (hb : c.registry.Knows b.name)
    (hindex : (c.registry.index a.name).1 ≠ (c.registry.index b.name).1)
    (halike : v.AnswersAlike c.index (a.keys v.mapping) (b.keys v.mapping)) :
    c.EitherOrder v a b := by
  have hname : a.name ≠ b.name := by
    intro hsame
    rw [hsame] at hindex
    exact hindex rfl
  have hra := (c.take_spec v a).registry
  have hrb := (c.take_spec v b).registry
  -- Neither the indices nor the answers depend on the binary that comes first.
  have hia : ((c.take v b).2.correlator.registry.index a.name).1 =
      (c.registry.index a.name).1 := by
    rw [hrb]
    exact BinaryRegistry.fst_index_index hname.symm ha
  have hib : ((c.take v a).2.correlator.registry.index b.name).1 =
      (c.registry.index b.name).1 := by
    rw [hra]
    exact BinaryRegistry.fst_index_index hname hb
  have hsa := (steady_take halike.symm.steady fun _ hkey => hkey).sameAnswers
  have hsb := (steady_take halike.steady fun _ hkey => hkey).sameAnswers
  rcases take_elsewhere (c.take v b).2.correlator halike hsa hia with ⟨hfirst, d, hd, hda, hdb⟩
  rcases take_elsewhere (c.take v a).2.correlator halike.symm hsb hib with
    ⟨hsecond, e, he, heb, hea⟩
  refine ⟨hfirst, hsecond, ?_, ?_⟩
  · change ((c.take v a).2.correlator.take v b).2.correlator.document =
      ((c.take v b).2.correlator.take v a).2.correlator.document
    calc
      _ = (c.document.merge d).merge e := by rw [hea, hda]
      _ = c.document.merge (d.merge e) := Std.Associative.assoc _ _ _
      _ = c.document.merge (e.merge d) := by rw [hd.merge_comm he hindex]
      _ = (c.document.merge e).merge d := (Std.Associative.assoc _ _ _).symm
      _ = _ := by rw [hdb, heb]
  · change ((c.take v a).2.correlator.take v b).2.correlator.registry =
      ((c.take v b).2.correlator.take v a).2.correlator.registry
    rw [(take_spec _ v b).registry, hra, (take_spec _ v a).registry, hrb]
    exact BinaryRegistry.index_comm hname ha hb

/-- Binaries of different names may be taken in either order after any run, where both are numbered
or well-known and what their files have in common is answered alike. -/
theorem eitherOrder_performAll {index : Option DeclarationIndex} {ops : List Operation}
    (hfew : (unreservedNames (ops.filterMap Operation.name?)).length ≤ numberLimit)
    (hname : a.name ≠ b.name)
    (ha : (({ index } : Correlator).performAll ops).registry.Knows a.name)
    (hb : (({ index } : Correlator).performAll ops).registry.Knows b.name)
    (halike : v.AnswersAlike (({ index } : Correlator).performAll ops).index
      (a.keys v.mapping) (b.keys v.mapping)) :
    (({ index } : Correlator).performAll ops).EitherOrder v a b := by
  have hnumbers := numbers_performAll index ops
  exact eitherOrder_of_index_ne ha hb (BinaryRegistry.fst_index_ne hnumbers hfew hname ha hb) halike

end Correlator

namespace SourceView

open Correlator (EitherOrder)

/-- The binary `boot` has been taken, and is taken again after or before the binary `bl1`, which
has other instructions at the same line and address. -/
theorem eitherOrder_performAll_shared :
    let ops : List Operation := [.take loneSource (ofLocation "boot" "/f.c:2" "nop" "")]
    let a := ofLocation "boot" "/f.c:1" "ret" "1000 2 4"
    let b := ofLocation "bl1" "/f.c:1" "nop" ""
    let c := ({ index := some {} } : Correlator).performAll ops
    (unreservedNames (ops.filterMap Operation.name?)).length ≤ numberLimit ∧
      a.name ≠ b.name ∧ c.registry.Knows a.name ∧ c.registry.Knows b.name ∧
      loneSource.AnswersAlike c.index (a.keys loneSource.mapping) (b.keys loneSource.mapping) ∧
      EitherOrder c loneSource a b := by
  intro ops a b c
  have hfew : (unreservedNames (ops.filterMap Operation.name?)).length ≤ numberLimit := by
    decide +kernel
  have hname : a.name ≠ b.name := by
    decide
  have hboot : c.registry.Knows a.name := by
    refine Or.inl ?_
    rw [Correlator.registry_performAll]
    decide +kernel
  have hbl1 : c.registry.Knows b.name := Or.inr (by decide)
  have halike : loneSource.AnswersAlike c.index (a.keys loneSource.mapping)
      (b.keys loneSource.mapping) := by
    have hkeys : ∀ k ∈ a.keys loneSource.mapping, ∀ l ∈ b.keys loneSource.mapping, k = l := by
      decide +kernel
    intro k hk l hl _
    rw [hkeys k hk l hl]
  exact ⟨hfew, hname, hboot, hbl1, halike,
    Correlator.eitherOrder_performAll hfew hname hboot hbl1 halike⟩

/-- Whichever of `/f.c` and `/f.c/` is asked for first decides on the lines of both. -/
theorem not_eitherOrder_trailing_slash :
    let a := ofLocation "bl1" "/f.c:1" "nop" ""
    let b := ofLocation "bl2" "/f.c/:1" "nop" ""
    let c : Correlator := { index := some {} }
    a.name ≠ b.name ∧ c.registry.Knows a.name ∧ c.registry.Knows b.name ∧
      (c.take loneSource a).1 = none ∧
      ((c.perform (.take loneSource a)).take loneSource b).1 = none ∧
      (c.take loneSource b).1 = none ∧
      ((c.perform (.take loneSource b)).take loneSource a).1 = none ∧
      (c.performAll [.take loneSource a, .take loneSource b]).document ≠
        (c.performAll [.take loneSource b, .take loneSource a]).document := by
  intro a b c
  have htotal : loneSource.declarations.Total := fun _ => ⟨_, rfl⟩
  refine ⟨by decide, Or.inr (by decide), Or.inr (by decide), Correlator.take_succeeds htotal _ _,
    Correlator.take_succeeds htotal _ _, Correlator.take_succeeds htotal _ _,
    Correlator.take_succeeds htotal _ _, ?_⟩
  have hforth : (c.performAll [.take loneSource a, .take loneSource b]).document.function?
      "/f.c" "f" = some ⟨false, 5⟩ := by
    unfold Correlator.performAll
    rw [List.foldl_cons, Correlator.perform, take_loneAsked]
    decide +kernel
  have hback : (c.performAll [.take loneSource b, .take loneSource a]).document.function?
      "/f.c" "f" = some ⟨false, 0⟩ := by
    unfold Correlator.performAll
    rw [List.foldl_cons, Correlator.perform, take_slashAsked]
    decide +kernel
  intro hsame
  rw [hsame, hback] at hforth
  exact absurd hforth (by decide)

end SourceView

end BinaryCoverage
