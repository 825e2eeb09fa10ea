import BinaryCoverage.Coverage.Basic
import BinaryCoverage.Proofs.Table

/-!
# Looking up in documents

A document is read through three look-ups, and two documents that answer them alike hold the same
coverage data.  This file defines:

* `Document.function?` — the entry of a function in a file;
* `Document.coverage?` — whether a function of a file is covered;
* `Document.line?` — the entry of a line in a file;
* `Document.record?` — the instruction that a binary has at an address of a line.
-/

namespace BinaryCoverage

def LineCoverage.record? (l : LineCoverage) (binary : UInt32) (address : UInt64) :
    Option InstructionRecord :=
  (l.records[binary]?).bind fun byAddress => byAddress[address]?

/-- Whether the line has an instruction of a binary. -/
def LineCoverage.hasBinary (l : LineCoverage) (binary : UInt32) : Bool := l.records.contains binary

namespace Document

def function? (d : Document) (key name : String) : Option FunctionCoverage :=
  (d.file? key).bind fun c => c.functions[name]?

def line? (d : Document) (key : String) (n : UInt32) : Option LineCoverage :=
  (d.file? key).bind fun c => c.lines[n]?

def record? (d : Document) (key : String) (n binary : UInt32) (address : UInt64) :
    Option InstructionRecord :=
  (d.line? key n).bind fun l => l.record? binary address

def coverage? (d : Document) (key name : String) : Option Bool :=
  (d.function? key name).map (·.covered)

def isFunctionCovered (d : Document) (key name : String) : Bool :=
  (d.function? key name).any (·.covered)

def isLineCovered (d : Document) (key : String) (n : UInt32) : Bool :=
  (d.line? key n).any (·.covered)

/-- A line that is not there has no records. -/
theorem record?_eq_getD (d : Document) (key : String) (n binary : UInt32) (address : UInt64) :
    d.record? key n binary address = ((d.line? key n).getD {}).record? binary address := by
  unfold record?
  cases d.line? key n with
  | none =>
      simp [LineCoverage.record?]
  | some l =>
      rfl

theorem file?_updateFile (d : Document) (key k : String) (f : FileCoverage → FileCoverage) :
    (d.updateFile key f).file? k =
      if key = k then some (f ((d.file? key).getD {})) else d.file? k :=
  Table.getElem?_update d.files key k {} f

/-- A file that is not there has no functions. -/
theorem function?_eq_getD (d : Document) (key name : String) :
    d.function? key name = ((d.file? key).getD {}).functions[name]? := by
  unfold function?
  cases d.file? key with
  | none =>
      simp
  | some c =>
      rfl

theorem isSome_file?_of_function? {d : Document} {key name : String}
    (h : (d.function? key name).isSome) : (d.file? key).isSome := by
  rw [function?, Option.isSome_bind] at h
  exact Option.isSome_of_any h

theorem line?_eq_getD (d : Document) (key : String) (n : UInt32) :
    d.line? key n = ((d.file? key).getD {}).lines[n]? := by
  unfold line?
  cases d.file? key with
  | none =>
      simp
  | some c =>
      rfl

theorem function?_updateFile (d : Document) (key k name : String)
    (f : FileCoverage → FileCoverage) :
    (d.updateFile key f).function? k name =
      if key = k then (f ((d.file? key).getD {})).functions[name]? else d.function? k name := by
  rw [function?, file?_updateFile]
  split <;> rfl

theorem line?_updateFile (d : Document) (key k : String) (n : UInt32)
    (f : FileCoverage → FileCoverage) :
    (d.updateFile key f).line? k n =
      if key = k then (f ((d.file? key).getD {})).lines[n]? else d.line? k n := by
  rw [line?, file?_updateFile]
  split <;> rfl

theorem function?_updateFunction (d : Document) (key k name m : String) (line : UInt32)
    (f : FunctionCoverage → FunctionCoverage) :
    (d.updateFile key (·.updateFunction name line f)).function? k m =
      if key = k ∧ name = m then some (f (((d.function? k m).getD {}).declare line))
      else d.function? k m := by
  unfold FileCoverage.updateFunction
  rw [function?_updateFile]
  by_cases hkey : key = k
  · -- A new file has no functions, and neither does the one it starts as.
    subst hkey
    rw [if_pos rfl, Table.getElem?_update, function?_eq_getD]
    by_cases hname : name = m
    · subst hname
      simp
    · simp [hname]
  · simp [hkey]

theorem line?_updateFunction (d : Document) (key k name : String) (n line : UInt32)
    (f : FunctionCoverage → FunctionCoverage) :
    (d.updateFile key (·.updateFunction name line f)).line? k n = d.line? k n := by
  rw [line?_updateFile, line?_eq_getD d k n]
  split
  · rename_i hkey
    subst hkey
    rfl
  · rfl

theorem line?_updateLine (d : Document) (key k : String) (m n : UInt32)
    (f : LineCoverage → LineCoverage) :
    (d.updateFile key (·.updateLine m f)).line? k n =
      if key = k ∧ m = n then some (f ((d.line? k n).getD {})) else d.line? k n := by
  unfold FileCoverage.updateLine
  rw [line?_updateFile]
  by_cases hkey : key = k
  · subst hkey
    rw [if_pos rfl, Table.getElem?_update, line?_eq_getD]
    by_cases hline : m = n
    · subst hline
      simp
    · simp [hline]
  · simp [hkey]

theorem function?_updateLine (d : Document) (key k name : String) (m : UInt32)
    (f : LineCoverage → LineCoverage) :
    (d.updateFile key (·.updateLine m f)).function? k name = d.function? k name := by
  rw [function?_updateFile, function?_eq_getD d k name]
  split
  · rename_i hkey
    subst hkey
    rfl
  · rfl

end Document

theorem FunctionCoverage.covered_declare (f : FunctionCoverage) (line : UInt32) :
    (f.declare line).covered = f.covered := by
  unfold declare
  split <;> rfl

namespace LineCoverage

theorem hasBinary_empty (binary : UInt32) : ({} : LineCoverage).hasBinary binary = false := by
  simp [hasBinary]

theorem record?_record (l : LineCoverage) (binary b : UInt32) (address a : UInt64) (opcode : String)
    (count : UInt64) :
    (l.record binary address opcode count).record? b a =
      if binary = b ∧ address = a then some ⟨opcode, count⟩ else l.record? b a := by
  -- A binary that is new on the line starts without addresses.
  unfold record? record
  rw [Table.getElem?_update]
  by_cases hb : binary = b
  · subst hb
    by_cases ha : address = a
    · subst ha
      simp
    · cases l.records[binary]? <;> simp [ha, Std.ExtTreeMap.getElem?_insert]
  · simp [hb]

theorem hasBinary_record (l : LineCoverage) (binary b : UInt32) (address : UInt64) (opcode : String)
    (count : UInt64) :
    (l.record binary address opcode count).hasBinary b =
      (decide (binary = b) || l.hasBinary b) := by
  unfold hasBinary record
  rw [Std.ExtTreeMap.contains_eq_isSome_getElem?, Table.getElem?_update,
    Std.ExtTreeMap.contains_eq_isSome_getElem?]
  by_cases hb : binary = b <;> simp [hb]

/-- The look-ups into a line tell all that it holds. -/
theorem eq_of_lookups {l m : LineCoverage} (hcovered : l.covered = m.covered)
    (hbinary : ∀ binary, l.hasBinary binary = m.hasBinary binary)
    (hrecord : ∀ binary address, l.record? binary address = m.record? binary address) : l = m := by
  rcases l with ⟨covered, records⟩
  rcases m with ⟨covered', records'⟩
  -- A binary without instructions still counts, which `record?` alone would not tell.
  have hrecords : records = records' := by
    ext1 binary
    have hboth : (records[binary]?).isSome = (records'[binary]?).isSome := by
      simpa [hasBinary] using hbinary binary
    cases hleft : records[binary]? with
    | none =>
        cases hright : records'[binary]? with
        | none =>
            rfl
        | some byAddress' =>
            simp [hleft, hright] at hboth
    | some byAddress =>
        cases hright : records'[binary]? with
        | none =>
            simp [hleft, hright] at hboth
        | some byAddress' =>
            have hsame : byAddress = byAddress' := by
              ext1 address
              simpa [record?, hleft, hright] using hrecord binary address
            rw [hsame]
  simpa [hrecords] using hcovered

end LineCoverage

end BinaryCoverage
