import BinaryCoverage.Coverage.Merge
import BinaryCoverage.Proofs.Coverage.Lookup

/-!
# Looking up in merged documents

A look-up in a merged document is answered by the answers of the two documents.  This file
defines:

* `Document.index?` — the index that a document gives a binary;
* `Document.recordOf?` — the instruction that a binary, known by its name, has at an address of a
  line.
-/

namespace BinaryCoverage

namespace LineCoverage

theorem record?_merge (l m : LineCoverage) (binary : UInt32) (address : UInt64) :
    (l.merge m).record? binary address =
      (m.record? binary address).or (l.record? binary address) := by
  unfold record? merge
  rw [Table.getElem?_unionWith]
  cases l.records[binary]? with
  | none =>
      simp
  | some byAddress =>
      cases m.records[binary]? with
      | none =>
          simp
      | some byAddress' =>
          simp only [Option.merge_some_some, Option.bind_some]
          -- Both have the binary, whose addresses are united in favour of the second document.
          unfold Table.override
          rw [Table.getElem?_unionWith]
          cases byAddress[address]? <;> cases byAddress'[address]? <;> rfl

theorem hasBinary_merge (l m : LineCoverage) (binary : UInt32) :
    (l.merge m).hasBinary binary = (l.hasBinary binary || m.hasBinary binary) := by
  unfold hasBinary merge
  simp only [Std.ExtTreeMap.contains_eq_isSome_getElem?, Table.getElem?_unionWith]
  cases l.records[binary]? <;> cases m.records[binary]? <;> rfl

end LineCoverage

namespace Document

def index? (d : Document) (name : String) : Option UInt32 := d.provenance.binaries[name]?

def recordOf? (d : Document) (name key : String) (n : UInt32) (address : UInt64) :
    Option InstructionRecord :=
  (d.index? name).bind fun binary => d.record? key n binary address

theorem index?_merge (d e : Document) (name : String) :
    (d.merge e).index? name = (d.index? name).or (e.index? name) := by
  unfold index? merge Provenance.merge Table.complete
  dsimp only
  rw [Table.getElem?_unionWith]
  cases d.provenance.binaries[name]? <;> cases e.provenance.binaries[name]? <;> rfl

theorem file?_merge (d e : Document) (key : String) :
    (d.merge e).file? key = Option.merge FileCoverage.merge (d.file? key) (e.file? key) :=
  Table.getElem?_unionWith FileCoverage.merge d.files e.files key

theorem line?_merge (d e : Document) (key : String) (n : UInt32) :
    (d.merge e).line? key n = Option.merge LineCoverage.merge (d.line? key n) (e.line? key n) := by
  unfold line?
  rw [file?_merge]
  cases d.file? key with
  | none =>
      cases e.file? key <;> simp
  | some c =>
      cases e.file? key with
      | none =>
          simp
      | some c' =>
          exact Table.getElem?_unionWith LineCoverage.merge c.lines c'.lines n

theorem function?_merge (d e : Document) (key name : String) :
    (d.merge e).function? key name =
      Option.merge FunctionCoverage.merge (d.function? key name) (e.function? key name) := by
  unfold function?
  rw [file?_merge]
  cases d.file? key with
  | none =>
      cases e.file? key <;> simp
  | some c =>
      cases e.file? key with
      | none =>
          simp
      | some c' =>
          exact Table.getElem?_unionWith FunctionCoverage.merge c.functions c'.functions name

/-- Where both documents have a record, that of the second one is kept. -/
theorem record?_merge (d e : Document) (key : String) (n binary : UInt32) (address : UInt64) :
    (d.merge e).record? key n binary address =
      (e.record? key n binary address).or (d.record? key n binary address) := by
  unfold record?
  rw [line?_merge]
  cases d.line? key n with
  | none =>
      cases e.line? key n <;> simp
  | some l =>
      cases e.line? key n with
      | none =>
          simp
      | some l' =>
          exact l.record?_merge l' binary address

/-! ## What there is in a merged document -/

section Merged

variable (d e : Document) (key name : String) (n binary : UInt32)

theorem isSome_file?_merge :
    ((d.merge e).file? key).isSome ↔ (d.file? key).isSome ∨ (e.file? key).isSome := by
  rw [file?_merge]
  cases d.file? key <;> cases e.file? key <;> simp

theorem isSome_line?_merge :
    ((d.merge e).line? key n).isSome ↔ (d.line? key n).isSome ∨ (e.line? key n).isSome := by
  rw [line?_merge]
  cases d.line? key n <;> cases e.line? key n <;> simp

theorem isSome_function?_merge :
    ((d.merge e).function? key name).isSome ↔
      (d.function? key name).isSome ∨ (e.function? key name).isSome := by
  rw [function?_merge]
  cases d.function? key name <;> cases e.function? key name <;> simp

theorem isLineCovered_merge :
    (d.merge e).isLineCovered key n ↔ d.isLineCovered key n ∨ e.isLineCovered key n := by
  unfold isLineCovered
  rw [line?_merge]
  cases d.line? key n <;> cases e.line? key n <;> simp [LineCoverage.merge]

theorem isFunctionCovered_merge :
    (d.merge e).isFunctionCovered key name ↔
      d.isFunctionCovered key name ∨ e.isFunctionCovered key name := by
  unfold isFunctionCovered
  rw [function?_merge]
  cases d.function? key name <;> cases e.function? key name <;>
    simp [FunctionCoverage.merge, FunctionCoverage.covered_declare]

theorem hasBinary_merge :
    ((d.merge e).line? key n).any (·.hasBinary binary) ↔
      (d.line? key n).any (·.hasBinary binary) ∨ (e.line? key n).any (·.hasBinary binary) := by
  rw [line?_merge]
  cases d.line? key n with
  | none =>
      cases e.line? key n <;> simp
  | some l =>
      cases e.line? key n with
      | none =>
          simp
      | some l' =>
          simp [l.hasBinary_merge l' binary]

end Merged

end Document

end BinaryCoverage
