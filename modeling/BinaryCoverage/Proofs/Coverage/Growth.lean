import BinaryCoverage.Proofs.Coverage.Addition
import BinaryCoverage.Proofs.Coverage.Algebra

/-!
# Growing documents

Coverage never goes back: entries stay, flags that are set stay set, and known declaration lines
and indices stay what they are.  This file defines:

* `Document.GrowsTo` — all that one document holds another one holds too, up to the opcodes and
  counts of instructions;

and shows that a document grows by whatever is merged into it (`growsTo_merge`), hence by notes.
-/

namespace BinaryCoverage.Document

structure GrowsTo (d e : Document) : Prop where
  file (key : String) : (d.file? key).isSome → (e.file? key).isSome
  function (key name : String) : (d.function? key name).isSome → (e.function? key name).isSome
  functionCovered (key name : String) : d.isFunctionCovered key name → e.isFunctionCovered key name
  declared (key name : String) (n : UInt32) : n ≠ 0 →
    d.declaredAt? key name = some n → e.declaredAt? key name = some n
  line (key : String) (n : UInt32) : (d.line? key n).isSome → (e.line? key n).isSome
  lineCovered (key : String) (n : UInt32) : d.isLineCovered key n → e.isLineCovered key n
  binary (key : String) (n binary : UInt32) :
    (d.line? key n).any (·.hasBinary binary) → (e.line? key n).any (·.hasBinary binary)
  address (key : String) (n binary : UInt32) (address : UInt64) :
    (d.record? key n binary address).isSome → (e.record? key n binary address).isSome
  index (name : String) (i : UInt32) : d.index? name = some i → e.index? name = some i

theorem GrowsTo.refl (d : Document) : d.GrowsTo d where
  file _ h := h
  function _ _ h := h
  functionCovered _ _ h := h
  declared _ _ _ _ h := h
  line _ _ h := h
  lineCovered _ _ h := h
  binary _ _ _ h := h
  address _ _ _ _ h := h
  index _ _ h := h

theorem GrowsTo.trans {d e f : Document} (h : d.GrowsTo e) (h' : e.GrowsTo f) : d.GrowsTo f where
  file key hd := h'.file key (h.file key hd)
  function key name hd := h'.function key name (h.function key name hd)
  functionCovered key name hd := h'.functionCovered key name (h.functionCovered key name hd)
  declared key name n hn hd := h'.declared key name n hn (h.declared key name n hn hd)
  line key n hd := h'.line key n (h.line key n hd)
  lineCovered key n hd := h'.lineCovered key n (h.lineCovered key n hd)
  binary key n binary hd := h'.binary key n binary (h.binary key n binary hd)
  address key n binary address hd :=
    h'.address key n binary address (h.address key n binary address hd)
  index name i hd := h'.index name i (h.index name i hd)

/-- The first of two known declaration lines is kept. -/
theorem declaredAt?_merge_of_known {d : Document} {key name : String} {n : UInt32} (hn : n ≠ 0)
    (h : d.declaredAt? key name = some n) (e : Document) :
    (d.merge e).declaredAt? key name = some n := by
  unfold declaredAt? at h ⊢
  rcases Option.map_eq_some_iff.1 h with ⟨f, hf, rfl⟩
  rw [function?_merge, hf]
  cases e.function? key name with
  | none =>
      rfl
  | some g =>
      simp [FunctionCoverage.merge, FunctionCoverage.declare, hn]

theorem growsTo_merge (d e : Document) : d.GrowsTo (d.merge e) where
  file key h := (isSome_file?_merge d e key).2 (Or.inl h)
  function key name h := (isSome_function?_merge d e key name).2 (Or.inl h)
  functionCovered key name h := (isFunctionCovered_merge d e key name).2 (Or.inl h)
  declared _ _ _ hn h := declaredAt?_merge_of_known hn h e
  line key n h := (isSome_line?_merge d e key n).2 (Or.inl h)
  lineCovered key n h := (isLineCovered_merge d e key n).2 (Or.inl h)
  binary key n binary h := (hasBinary_merge d e key n binary).2 (Or.inl h)
  address key n binary address h := by
    -- The record of the second document may take the place of this one.
    rw [record?_merge, Option.isSome_or, h, Bool.or_true]
  index name i h := by
    rw [index?_merge, h]
    rfl

theorem growsTo_noteAll (d : Document) (xs : List Note) : d.GrowsTo (d.noteAll xs) := by
  rw [noteAll_eq_merge]
  exact growsTo_merge d _

theorem growsTo_foldl_merge (d : Document) (es : List Document) :
    d.GrowsTo (es.foldl merge d) := by
  induction es generalizing d with
  | nil =>
      exact GrowsTo.refl d
  | cons e es ih =>
      exact (growsTo_merge d e).trans (ih (d.merge e))

end BinaryCoverage.Document
