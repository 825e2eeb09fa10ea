import BinaryCoverage.Disassembly.Transcript
import BinaryCoverage.Proofs.Text.Lines
import Mathlib.Data.List.DropRight

/-!
# What a transcript says

The lines of a transcript fall into stretches, one for each header, and the lines of such a stretch
into stretches again, one for each location.  This file defines:

* `Stretch` — a line that opens something, the lines before it and the lines that it governs;
* `Stretch.run`, `Stretch.block` — what a location and a header say with the lines they govern;
* `Transcript.complete` — the block that an open block becomes with the lines that are left.

The blocks of a transcript are those of its stretches, although it is read line by line.
-/

namespace BinaryCoverage.Disassembly

/-! ## Kinds of lines -/

namespace Line

def header? : Line → Option (UInt64 × String)
  | .header address label => some (address, label)
  | _ => none

def marker? : Line → Option String
  | .marker function => some function
  | _ => none

def location? : Line → Option (String × UInt32)
  | .location file line => some (file, line)
  | _ => none

def instruction? : Line → Option Instruction
  | .instruction i => some i
  | _ => none

end Line

/-! ## Stretches -/

/-- A line of some kind with the lines before it and those after it, up to the next of its kind. -/
structure Stretch (α : Type) where
  before : List Line
  opening : α
  body : List Line

/-- The lines up to the first of a kind. -/
def upTo {α : Type} (kind? : Line → Option α) (lines : List Line) : List Line :=
  lines.takeWhile fun line => (kind? line).isNone

/-- The stretches that lines of a kind open, where `before` has been passed already. -/
def stretchesFrom {α : Type} (kind? : Line → Option α) (before : List Line) :
    List Line → List (Stretch α)
  | [] => []
  | line :: rest =>
      match kind? line with
      | none => stretchesFrom kind? (before ++ [line]) rest
      | some opening =>
          ⟨before, opening, upTo kind? rest⟩ :: stretchesFrom kind? (before ++ [line]) rest

def stretches {α : Type} (kind? : Line → Option α) (lines : List Line) : List (Stretch α) :=
  stretchesFrom kind? [] lines

/-- The function that the lines name last. -/
def lastMarker? (lines : List Line) : Option String := (lines.filterMap Line.marker?).getLast?

/-- The function that the lines name last after their last location. -/
def openMarker? (lines : List Line) : Option String :=
  lastMarker? (lines.rtakeWhile fun line => line.location?.isNone)

namespace Stretch

/-- The run of a location: the marker right before it names its function, and the instructions up
to the next location are its own. -/
def run (s : Stretch (String × UInt32)) : SourceRun where
  function := openMarker? s.before
  file := s.opening.1
  line := s.opening.2
  instructions := s.body.filterMap Line.instruction?

/-- The function of a location: the one named last before it in a block with the given label. -/
def owner (label : String) (s : Stretch (String × UInt32)) : String :=
  (lastMarker? s.before).getD label

/-- The block of a header: a run for each location below it, and the instructions above these. -/
def block (s : Stretch (UInt64 × String)) : FunctionBlock where
  address := s.opening.1
  label := s.opening.2
  runs := (stretches Line.location? s.body).map run
  unattributed := (upTo Line.location? s.body).filterMap Line.instruction?

end Stretch

section Kind

variable {α β : Type} {kind? : Line → Option α}

section Cons

variable {line : Line} {opening : α} (before rest : List Line)

theorem upTo_cons (h : kind? line = none) : upTo kind? (line :: rest) = line :: upTo kind? rest := by
  simp [upTo, h]

theorem upTo_opening (h : kind? line = some opening) : upTo kind? (line :: rest) = [] := by
  simp [upTo, h]

theorem stretchesFrom_cons (h : kind? line = none) :
    stretchesFrom kind? before (line :: rest) = stretchesFrom kind? (before ++ [line]) rest := by
  simp [stretchesFrom, h]

theorem stretchesFrom_opening (h : kind? line = some opening) :
    stretchesFrom kind? before (line :: rest) =
      ⟨before, opening, upTo kind? rest⟩ :: stretchesFrom kind? (before ++ [line]) rest := by
  simp [stretchesFrom, h]

end Cons

theorem map_opening_stretchesFrom (before lines : List Line) :
    (stretchesFrom kind? before lines).map (·.opening) = lines.filterMap kind? := by
  induction lines generalizing before with
  | nil =>
      rfl
  | cons line rest ih =>
      cases hline : kind? line with
      | none =>
          rw [stretchesFrom_cons before rest hline, ih, List.filterMap_cons_none hline]
      | some opening =>
          rw [stretchesFrom_opening before rest hline, List.map_cons, ih,
            List.filterMap_cons_some hline]

/-- What the lines say in another way is said in the order of the stretches. -/
theorem filterMap_stretchesFrom {f : Line → Option β} (hf : ∀ l, (kind? l).isSome → f l = none)
    (before lines : List Line) :
    (upTo kind? lines).filterMap f ++
        (stretchesFrom kind? before lines).flatMap (·.body.filterMap f) =
      lines.filterMap f := by
  induction lines generalizing before with
  | nil =>
      rfl
  | cons line rest ih =>
      have hrest := ih (before ++ [line])
      cases hline : kind? line with
      | none =>
          rw [upTo_cons rest hline, stretchesFrom_cons before rest hline, List.filterMap_cons,
            List.filterMap_cons, ← hrest]
          cases f line <;> rfl
      | some opening =>
          -- The line that opens a stretch says nothing else, and what follows it is its body.
          have hsilent : f line = none := hf line (by simp [hline])
          rw [upTo_opening rest hline, stretchesFrom_opening before rest hline, List.flatMap_cons,
            hrest, List.filterMap_cons_none hsilent]
          rfl

end Kind

/-! ## The markers that count -/

section Markers

variable {lines : List Line} {line : Line}

theorem lastMarker?_append_marker (function : String) :
    lastMarker? (lines ++ [.marker function]) = some function := by
  simp [lastMarker?, Line.marker?]

theorem lastMarker?_append (h : line.marker? = none) :
    lastMarker? (lines ++ [line]) = lastMarker? lines := by
  simp [lastMarker?, h]

theorem openMarker?_append_location (file : String) (n : UInt32) :
    openMarker? (lines ++ [.location file n]) = none := by
  unfold openMarker?
  rw [List.rtakeWhile_concat_neg]
  · rfl
  · simp [Line.location?]

theorem openMarker?_append_marker (function : String) :
    openMarker? (lines ++ [.marker function]) = some function := by
  unfold openMarker?
  rw [List.rtakeWhile_concat_pos]
  · exact lastMarker?_append_marker function
  · rfl

theorem openMarker?_append (hlocation : line.location? = none) (hmarker : line.marker? = none) :
    openMarker? (lines ++ [line]) = openMarker? lines := by
  unfold openMarker?
  rw [List.rtakeWhile_concat_pos]
  · exact lastMarker?_append hmarker
  · simp [hlocation]

/-- The second reading of the markers: the runs take over the names of those before them. -/
theorem resolve_map_run (label : String) (before lines : List Line) {current : String}
    (hcurrent : (openMarker? before).getD current = (lastMarker? before).getD label) :
    FunctionBlock.resolve current ((stretchesFrom Line.location? before lines).map Stretch.run) =
      (stretchesFrom Line.location? before lines).map fun s => (s.owner label, s.run) := by
  induction lines generalizing before current with
  | nil =>
      rfl
  | cons line rest ih =>
      cases line with
      | location file n =>
          have hnext : (openMarker? (before ++ [.location file n])).getD
                ((lastMarker? before).getD label) =
              (lastMarker? (before ++ [.location file n])).getD label := by
            rw [openMarker?_append_location, lastMarker?_append rfl, Option.getD_none]
          have howner : (Stretch.run ⟨before, (file, n), upTo Line.location? rest⟩).function.getD
              current = (lastMarker? before).getD label := hcurrent
          simp only [stretchesFrom, Line.location?, List.map_cons, FunctionBlock.resolve]
          rw [howner, ih _ hnext]
          rfl
      | marker function =>
          refine ih (before ++ [.marker function]) ?_
          rw [openMarker?_append_marker, lastMarker?_append_marker]
          rfl
      | header address label' =>
          refine ih (before ++ [.header address label']) ?_
          rwa [openMarker?_append rfl rfl, lastMarker?_append rfl]
      | instruction i =>
          refine ih (before ++ [.instruction i]) ?_
          rwa [openMarker?_append rfl rfl, lastMarker?_append rfl]
      | other =>
          refine ih (before ++ [.other]) ?_
          rwa [openMarker?_append rfl rfl, lastMarker?_append rfl]

end Markers

/-! ## One line after the other -/

namespace Transcript

theorem foldl_addInstruction_nil (is : List Instruction) {b : FunctionBlock} (h : b.runs = []) :
    is.foldl addInstruction b = { b with unattributed := is.reverse ++ b.unattributed } := by
  induction is generalizing b with
  | nil =>
      rfl
  | cons i is ih =>
      have hstep : addInstruction b i = { b with unattributed := i :: b.unattributed } := by
        simp [addInstruction, h]
      have hrest := ih (b := { b with unattributed := i :: b.unattributed }) h
      rw [List.foldl_cons, hstep, hrest]
      simp

theorem foldl_addInstruction_cons (is : List Instruction) (b : FunctionBlock) (run : SourceRun)
    (rest : List SourceRun) :
    is.foldl addInstruction { b with runs := run :: rest } =
      { b with runs := { run with instructions := is.reverse ++ run.instructions } :: rest } := by
  induction is generalizing run with
  | nil =>
      rfl
  | cons i is ih =>
      have hrest := ih { run with instructions := i :: run.instructions }
      rw [List.foldl_cons]
      simp only [addInstruction]
      rw [hrest]
      simp

/-- The block that an open block becomes, where `before` are the lines below its header that have
been read and `body` are the lines below it that have not. -/
def complete (b : FunctionBlock) (before body : List Line) : FunctionBlock :=
  let open' :=
    straighten (((upTo Line.location? body).filterMap Line.instruction?).foldl addInstruction b)
  { open' with runs := open'.runs ++ (stretchesFrom Line.location? before body).map Stretch.run }

section Complete

variable (b : FunctionBlock) (before body : List Line)

theorem complete_nil : complete b before [] = straighten b := by
  simp [complete, stretchesFrom, upTo]

/-- A line that only names a function, or says nothing, is passed over. -/
theorem complete_cons {line : Line} (hlocation : line.location? = none)
    (hinstruction : line.instruction? = none) :
    complete b before (line :: body) = complete b (before ++ [line]) body := by
  simp [complete, stretchesFrom, upTo, hlocation, hinstruction]

theorem complete_instruction (i : Instruction) :
    complete b before (.instruction i :: body) =
      complete (addInstruction b i) (before ++ [.instruction i]) body := by
  simp [complete, stretchesFrom, upTo, Line.location?, Line.instruction?]

/-- The instructions below a location go to the run that it opens. -/
theorem complete_location (file : String) (n : UInt32) :
    complete b before (.location file n :: body) =
      complete { b with runs := ⟨openMarker? before, file, n, []⟩ :: b.runs }
        (before ++ [.location file n]) body := by
  have hlead := foldl_addInstruction_cons
    ((upTo Line.location? body).filterMap Line.instruction?) b ⟨openMarker? before, file, n, []⟩
    b.runs
  unfold complete
  rw [hlead]
  simp [stretchesFrom, upTo, Line.location?, straighten, straightenRun, Stretch.run]

theorem complete_new (address : UInt64) (label : String) :
    complete { address, label } [] body = (Stretch.mk before (address, label) body).block := by
  have hlead := foldl_addInstruction_nil
    ((upTo Line.location? body).filterMap Line.instruction?)
    (b := { address, label }) rfl
  unfold complete
  rw [hlead]
  simp [straighten, Stretch.block, stretches]

end Complete

/-- While a block is open, the finished blocks stay, the open one is completed by the lines up to
the next header, and each header after them opens a block of its own. -/
theorem close_foldl_step (lines : List Line) (finished : List FunctionBlock) (b : FunctionBlock)
    (before passed : List Line) :
    (lines.foldl step ⟨finished, some b, openMarker? before⟩).close.reverse =
      finished.reverse ++ complete b before (upTo Line.header? lines) ::
        (stretchesFrom Line.header? passed lines).map Stretch.block := by
  induction lines generalizing finished b before passed with
  | nil =>
      have hopen : complete b before (upTo Line.header? []) = straighten b := complete_nil b before
      rw [hopen]
      simp [close, stretchesFrom]
  | cons line rest ih =>
      cases line with
      | header address label =>
          -- The open block is complete, and no line below the new header has been read.
          have hstep : step ⟨finished, some b, openMarker? before⟩ (.header address label) =
              ⟨straighten b :: finished, some { address, label }, openMarker? []⟩ := rfl
          have hopen : complete b before (upTo Line.header? (.header address label :: rest)) =
              straighten b := complete_nil b before
          rw [List.foldl_cons, hstep,
            ih (straighten b :: finished) { address, label } [] (passed ++ [.header address label]),
            hopen, complete_new passed]
          simp [stretchesFrom, Line.header?]
      | marker function =>
          -- The pending name is that of the last marker after the last location.
          have hstep : step ⟨finished, some b, openMarker? before⟩ (.marker function) =
              ⟨finished, some b, openMarker? (before ++ [.marker function])⟩ := by
            rw [openMarker?_append_marker]
            rfl
          rw [List.foldl_cons, hstep, ih _ _ _ (passed ++ [.marker function]),
            ← complete_cons b before _ rfl rfl]
          rfl
      | location file n =>
          have hstep : step ⟨finished, some b, openMarker? before⟩ (.location file n) =
              ⟨finished, some { b with runs := ⟨openMarker? before, file, n, []⟩ :: b.runs },
                openMarker? (before ++ [.location file n])⟩ := by
            rw [openMarker?_append_location]
            rfl
          rw [List.foldl_cons, hstep, ih _ _ _ (passed ++ [.location file n]),
            ← complete_location]
          rfl
      | instruction i =>
          have hstep : step ⟨finished, some b, openMarker? before⟩ (.instruction i) =
              ⟨finished, some (addInstruction b i),
                openMarker? (before ++ [.instruction i])⟩ := by
            rw [openMarker?_append rfl rfl]
            rfl
          rw [List.foldl_cons, hstep, ih _ _ _ (passed ++ [.instruction i]),
            ← complete_instruction]
          rfl
      | other =>
          have hstep : step ⟨finished, some b, openMarker? before⟩ .other =
              ⟨finished, some b, openMarker? (before ++ [.other])⟩ := by
            rw [openMarker?_append rfl rfl]
            rfl
          rw [List.foldl_cons, hstep, ih _ _ _ (passed ++ [.other]),
            ← complete_cons b before _ rfl rfl]
          rfl

theorem close_foldl_step_nothing (lines passed : List Line) :
    (lines.foldl step {}).close.reverse =
      (stretchesFrom Line.header? passed lines).map Stretch.block := by
  induction lines generalizing passed with
  | nil =>
      rfl
  | cons line rest ih =>
      cases line with
      | header address label =>
          have hstep : step {} (.header address label) =
              ⟨[], some { address, label }, openMarker? []⟩ := rfl
          rw [List.foldl_cons, hstep,
            close_foldl_step rest [] { address, label } [] (passed ++ [.header address label]),
            complete_new passed]
          rfl
      | marker function =>
          exact ih (passed ++ [.marker function])
      | location file n =>
          exact ih (passed ++ [.location file n])
      | instruction i =>
          exact ih (passed ++ [.instruction i])
      | other =>
          exact ih (passed ++ [.other])

theorem blocksOfLines_eq (lines : List Line) :
    blocksOfLines lines = (stretches Line.header? lines).map Stretch.block :=
  close_foldl_step_nothing lines []

end Transcript
end BinaryCoverage.Disassembly
