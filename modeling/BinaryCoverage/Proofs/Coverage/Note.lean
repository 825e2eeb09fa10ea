import BinaryCoverage.Proofs.Coverage.Lookup

/-!
# Notes

Whatever is done to a document on the way is a sequence of notes: that a file has a function, a
line, or an instruction of a line.  This file defines:

* `Finding`, `Note` — what can be noted, and about which file;
* `Document.noteAll` — the document after a sequence of notes;

and says, look-up by look-up, what a document holds after a sequence of notes.  Entries and flags
only depend on which notes there are; of the records of one address the last one stays.
-/

namespace BinaryCoverage

inductive Finding where
  /-- A function, perhaps with its declaration line, and whether it is covered. -/
  | function (name : String) (declaredAt : UInt32) (covered : Bool)
  | line (n : UInt32)
  | instruction (n binary : UInt32) (address : UInt64) (record : InstructionRecord)
  deriving DecidableEq

structure Note where
  key : String
  finding : Finding
  deriving DecidableEq

/-- Gives the declaration line where it is unknown, and the coverage in any case. -/
def FunctionCoverage.note (f : FunctionCoverage) (line : UInt32) (covered : Bool) :
    FunctionCoverage :=
  { f.declare line with covered := (f.declare line).covered || covered }

def FileCoverage.note (c : FileCoverage) : Finding → FileCoverage
  | .function name line covered =>
      c.updateFunction name line fun f => { f with covered := f.covered || covered }
  | .line n => c.updateLine n id
  | .instruction n binary address r => c.updateLine n (·.record binary address r.opcode r.count)

theorem FileCoverage.note_line (c : FileCoverage) (n : UInt32) :
    c.note (.line n) = c.updateLine n id := rfl

theorem FileCoverage.note_instruction (c : FileCoverage) (n binary : UInt32) (address : UInt64)
    (r : InstructionRecord) :
    c.note (.instruction n binary address r) =
      c.updateLine n (·.record binary address r.opcode r.count) := rfl

namespace Document

def note (d : Document) (x : Note) : Document := d.updateFile x.key (·.note x.finding)

def noteAll (d : Document) (xs : List Note) : Document := xs.foldl note d

@[simp] theorem noteAll_nil (d : Document) : d.noteAll [] = d := rfl

@[simp] theorem noteAll_cons (d : Document) (x : Note) (xs : List Note) :
    d.noteAll (x :: xs) = (d.note x).noteAll xs := rfl

theorem noteAll_append (d : Document) (xs ys : List Note) :
    d.noteAll (xs ++ ys) = (d.noteAll xs).noteAll ys :=
  List.foldl_append

theorem provenance_noteAll (d : Document) (xs : List Note) :
    (d.noteAll xs).provenance = d.provenance := by
  induction xs generalizing d with
  | nil =>
      rfl
  | cons x xs ih =>
      exact ih (d.note x)

theorem updateFile_updateFile (d : Document) (key : String) (f g : FileCoverage → FileCoverage) :
    (d.updateFile key f).updateFile key g = d.updateFile key (g ∘ f) := by
  unfold updateFile
  rw [Table.update_update]

/-- Declaring a function is noting it uncovered, which takes no coverage away. -/
theorem updateFile_declareFunction (d : Document) (key name : String) (line : UInt32) :
    d.updateFile key (·.declareFunction name line) = d.note ⟨key, .function name line false⟩ := by
  simp only [note, FileCoverage.note, FileCoverage.declareFunction, Bool.or_false]
  rfl

theorem updateFile_setFunction (d : Document) (key name : String) (line : UInt32) :
    d.updateFile key (·.setFunction name line true) = d.note ⟨key, .function name line true⟩ := by
  simp only [note, FileCoverage.note, FileCoverage.setFunction, Bool.or_true]

/-- Notes about one file change that file only. -/
theorem noteAll_map_key (d : Document) (key : String) (x : Finding) (xs : List Finding) :
    d.noteAll ((x :: xs).map (⟨key, ·⟩)) =
      d.updateFile key fun c => xs.foldl FileCoverage.note (c.note x) := by
  induction xs generalizing d x with
  | nil =>
      rfl
  | cons y ys ih =>
      -- Two updates of one file are one update, the second after the first.
      rw [List.map_cons, noteAll_cons, ih, note, updateFile_updateFile]
      rfl

/-- A property that each note either brings about or leaves as it is holds after a sequence of
notes when it held before or when one of them brings it about. -/
theorem noteAll_iff {P : Document → Prop} {Q : Note → Prop}
    (hstep : ∀ d x, P (d.note x) ↔ P d ∨ Q x) (d : Document) (xs : List Note) :
    P (d.noteAll xs) ↔ P d ∨ ∃ x ∈ xs, Q x := by
  induction xs generalizing d with
  | nil =>
      simp
  | cons x xs ih =>
      rw [noteAll_cons, ih, hstep]
      simp [or_assoc]

end Document

/-! ## What a note is about -/

namespace Note

def NamesFunction (key name : String) (x : Note) : Prop :=
  ∃ line covered, x = ⟨key, .function name line covered⟩

def CoversFunction (key name : String) (x : Note) : Prop :=
  ∃ line, x = ⟨key, .function name line true⟩

def NamesLine (key : String) (n : UInt32) (x : Note) : Prop :=
  x = ⟨key, .line n⟩ ∨ ∃ binary address r, x = ⟨key, .instruction n binary address r⟩

def NamesBinary (key : String) (n binary : UInt32) (x : Note) : Prop :=
  ∃ address r, x = ⟨key, .instruction n binary address r⟩

def CoversLine (key : String) (n : UInt32) (x : Note) : Prop :=
  ∃ binary address r, x = ⟨key, .instruction n binary address r⟩ ∧ 0 < r.count

/-- The record that a note makes at an address. -/
def recordAt? (key : String) (n binary : UInt32) (address : UInt64) (x : Note) :
    Option InstructionRecord :=
  match x.finding with
  | .instruction m b a r =>
      if x.key = key ∧ m = n ∧ b = binary ∧ a = address then some r else none
  | _ => none

/-- The note without its declaration line. -/
def bare (x : Note) : Note :=
  match x.finding with
  | .function name _ covered => ⟨x.key, .function name 0 covered⟩
  | _ => x

end Note

/-! The declaration line of a note decides none of these. -/

namespace Note

variable (x : Note)

theorem key_bare : x.bare.key = x.key := by
  rcases x with ⟨k, _ | _ | _⟩ <;> rfl

theorem namesFunction_bare (key name : String) :
    x.bare.NamesFunction key name ↔ x.NamesFunction key name := by
  rcases x with ⟨k, _ | _ | _⟩ <;> simp [bare, NamesFunction]

theorem coversFunction_bare (key name : String) :
    x.bare.CoversFunction key name ↔ x.CoversFunction key name := by
  rcases x with ⟨k, _ | _ | _⟩ <;> simp [bare, CoversFunction]

theorem namesLine_bare (key : String) (n : UInt32) :
    x.bare.NamesLine key n ↔ x.NamesLine key n := by
  rcases x with ⟨k, _ | _ | _⟩ <;> simp [bare, NamesLine]

theorem namesBinary_bare (key : String) (n binary : UInt32) :
    x.bare.NamesBinary key n binary ↔ x.NamesBinary key n binary := by
  rcases x with ⟨k, _ | _ | _⟩ <;> simp [bare, NamesBinary]

theorem coversLine_bare (key : String) (n : UInt32) :
    x.bare.CoversLine key n ↔ x.CoversLine key n := by
  rcases x with ⟨k, _ | _ | _⟩ <;> simp [bare, CoversLine]

theorem recordAt?_bare (key : String) (n binary : UInt32) (address : UInt64) :
    x.bare.recordAt? key n binary address = x.recordAt? key n binary address := by
  rcases x with ⟨k, _ | _ | _⟩ <;> rfl

end Note

namespace Document

variable (d : Document) (x : Note)

/-! ## Files after notes -/

theorem isSome_file?_note (key : String) :
    ((d.note x).file? key).isSome ↔ (d.file? key).isSome ∨ x.key = key := by
  rw [note, file?_updateFile]
  by_cases hkey : x.key = key <;> simp [hkey]

/-! ## Functions after notes -/

theorem function?_note_function (key k m name : String) (line : UInt32) (covered : Bool) :
    (d.note ⟨key, .function m line covered⟩).function? k name =
      if key = k ∧ m = name then some (((d.function? k name).getD {}).note line covered)
      else d.function? k name :=
  function?_updateFunction d key k m name line fun f => { f with covered := f.covered || covered }

theorem function?_note_line (key k name : String) (n : UInt32) :
    (d.note ⟨key, .line n⟩).function? k name = d.function? k name :=
  function?_updateLine d key k name n id

theorem function?_note_instruction (key k name : String) (n binary : UInt32) (address : UInt64)
    (r : InstructionRecord) :
    (d.note ⟨key, .instruction n binary address r⟩).function? k name = d.function? k name :=
  function?_updateLine d key k name n (·.record binary address r.opcode r.count)

theorem isSome_function?_note (key name : String) :
    ((d.note x).function? key name).isSome ↔
      (d.function? key name).isSome ∨ x.NamesFunction key name := by
  rcases x with ⟨k, _ | _ | _⟩
  · rw [function?_note_function]
    split <;> simp_all [Note.NamesFunction]
  · simp [function?_note_line, Note.NamesFunction]
  · simp [function?_note_instruction, Note.NamesFunction]

theorem function?_note_of_not_names {key name : String} (hx : ¬ x.NamesFunction key name) :
    (d.note x).function? key name = d.function? key name := by
  rcases x with ⟨k, _ | _ | _⟩
  · rw [function?_note_function]
    refine if_neg ?_
    rintro ⟨rfl, rfl⟩
    exact hx ⟨_, _, rfl⟩
  · exact function?_note_line d k key name _
  · exact function?_note_instruction d k key name _ _ _ _

theorem isFunctionCovered_note (key name : String) :
    (d.note x).isFunctionCovered key name ↔
      d.isFunctionCovered key name ∨ x.CoversFunction key name := by
  unfold isFunctionCovered
  rcases x with ⟨k, _ | _ | _⟩
  · rw [function?_note_function]
    cases d.function? key name <;> split <;>
      simp_all [Note.CoversFunction, FunctionCoverage.note, FunctionCoverage.covered_declare]
  · simp [function?_note_line, Note.CoversFunction]
  · simp [function?_note_instruction, Note.CoversFunction]

/-! ## Lines after notes -/

theorem line?_note_function (key k m : String) (n line : UInt32) (covered : Bool) :
    (d.note ⟨key, .function m line covered⟩).line? k n = d.line? k n :=
  line?_updateFunction d key k m n line fun f => { f with covered := f.covered || covered }

theorem line?_note_line (key k : String) (m n : UInt32) :
    (d.note ⟨key, .line m⟩).line? k n =
      if key = k ∧ m = n then some ((d.line? k n).getD {}) else d.line? k n :=
  line?_updateLine d key k m n id

theorem line?_note_instruction (key k : String) (m n binary : UInt32) (address : UInt64)
    (r : InstructionRecord) :
    (d.note ⟨key, .instruction m binary address r⟩).line? k n =
      if key = k ∧ m = n then
        some (((d.line? k n).getD {}).record binary address r.opcode r.count)
      else d.line? k n :=
  line?_updateLine d key k m n (·.record binary address r.opcode r.count)

theorem isSome_line?_note (key : String) (n : UInt32) :
    ((d.note x).line? key n).isSome ↔ (d.line? key n).isSome ∨ x.NamesLine key n := by
  rcases x with ⟨k, _ | _ | _⟩
  · simp [line?_note_function, Note.NamesLine]
  · rw [line?_note_line]
    split <;> simp_all [Note.NamesLine]
  · rw [line?_note_instruction]
    split <;> simp_all [Note.NamesLine]

theorem isLineCovered_note (key : String) (n : UInt32) :
    (d.note x).isLineCovered key n ↔ d.isLineCovered key n ∨ x.CoversLine key n := by
  unfold isLineCovered
  rcases x with ⟨k, _ | _ | _⟩
  · simp [line?_note_function, Note.CoversLine]
  · rw [line?_note_line]
    cases d.line? key n <;> split <;> simp_all [Note.CoversLine]
  · rw [line?_note_instruction]
    cases d.line? key n <;> split <;> simp_all [Note.CoversLine, LineCoverage.record]

theorem hasBinary_note (key : String) (n binary : UInt32) :
    ((d.note x).line? key n).any (·.hasBinary binary) ↔
      (d.line? key n).any (·.hasBinary binary) ∨ x.NamesBinary key n binary := by
  rcases x with ⟨k, _ | _ | _⟩
  · simp [line?_note_function, Note.NamesBinary]
  · rw [line?_note_line]
    cases d.line? key n <;> split <;> simp_all [Note.NamesBinary, LineCoverage.hasBinary]
  · rw [line?_note_instruction]
    cases d.line? key n <;> split <;>
      simp_all [Note.NamesBinary, LineCoverage.hasBinary_record, LineCoverage.hasBinary_empty,
        or_comm]

theorem record?_note (key : String) (n binary : UInt32) (address : UInt64) :
    (d.note x).record? key n binary address =
      (x.recordAt? key n binary address).or (d.record? key n binary address) := by
  simp only [record?_eq_getD]
  rcases x with ⟨k, _ | _ | ⟨m, b, a, r⟩⟩
  · simp [line?_note_function, Note.recordAt?]
  · rw [line?_note_line]
    split <;> simp [Note.recordAt?]
  · rw [line?_note_instruction]
    by_cases hline : k = key ∧ m = n
    · rw [if_pos hline, Option.getD_some, LineCoverage.record?_record]
      by_cases hrecord : b = binary ∧ a = address
      · simp [Note.recordAt?, hline, hrecord]
      · simp [Note.recordAt?, hline, hrecord]
    · -- A note on another line says nothing here, whatever its binary and address.
      have hskip : ¬ (k = key ∧ m = n ∧ b = binary ∧ a = address) :=
        fun h => hline ⟨h.1, h.2.1⟩
      simp [Note.recordAt?, hline, hskip]

/-! ## Sequences of notes -/

theorem function?_noteAll_of_not_names {xs : List Note} {key name : String}
    (hxs : ∀ x ∈ xs, ¬ x.NamesFunction key name) :
    (d.noteAll xs).function? key name = d.function? key name := by
  induction xs generalizing d with
  | nil =>
      rfl
  | cons x xs ih =>
      rw [noteAll_cons, ih (d.note x) fun y hy => hxs y (by simp [hy])]
      exact d.function?_note_of_not_names x (hxs x (by simp))

/-- The line of a function is that of a note about it, or has been there before. -/
theorem declaredAt_noteAll {d : Document} {xs : List Note} {key name : String}
    {f : FunctionCoverage} (hf : (d.noteAll xs).function? key name = some f) :
    (∃ g, d.function? key name = some g ∧ g.declaredAt = f.declaredAt) ∨
      ∃ covered, ⟨key, .function name f.declaredAt covered⟩ ∈ xs := by
  induction xs generalizing d with
  | nil =>
      exact Or.inl ⟨f, hf, rfl⟩
  | cons x xs ih =>
      rcases ih hf with ⟨g, hg, hline⟩ | ⟨covered, hmem⟩
      · by_cases hnames : x.NamesFunction key name
        · rcases hnames with ⟨line, covered, rfl⟩
          rw [function?_note_function, if_pos ⟨rfl, rfl⟩] at hg
          have hg := congrArg FunctionCoverage.declaredAt (Option.some.inj hg)
          -- The note gives its line to an entry that has none.
          by_cases hzero : ((d.function? key name).getD {}).declaredAt = 0
          · have hf : line = f.declaredAt := by
              simpa [FunctionCoverage.note, FunctionCoverage.declare, hzero, hline] using hg
            exact Or.inr ⟨covered, by simp [hf]⟩
          · cases hfound : d.function? key name with
            | none =>
                simp [hfound] at hzero
            | some g' =>
                rw [hfound, Option.getD_some] at hzero hg
                refine Or.inl ⟨g', rfl, ?_⟩
                simpa [FunctionCoverage.note, FunctionCoverage.declare, hzero, hline] using hg
        · rw [function?_note_of_not_names d x hnames] at hg
          exact Or.inl ⟨g, hg, hline⟩
      · exact Or.inr ⟨covered, List.mem_cons_of_mem x hmem⟩

/-- Of the records noted at an address the last one stays. -/
theorem record?_noteAll (xs : List Note) (key : String) (n binary : UInt32) (address : UInt64) :
    (d.noteAll xs).record? key n binary address =
      ((xs.filterMap (Note.recordAt? key n binary address)).getLast?).or
        (d.record? key n binary address) := by
  induction xs generalizing d with
  | nil =>
      simp
  | cons x xs ih =>
      rw [noteAll_cons, ih, record?_note]
      cases hx : x.recordAt? key n binary address with
      | none =>
          simp [hx]
      | some r =>
          -- A record of the rest replaces this one, which replaces that of the document.
          rw [List.filterMap_cons_some hx, List.getLast?_cons]
          cases (xs.filterMap (Note.recordAt? key n binary address)).getLast? <;> simp

end Document

end BinaryCoverage
