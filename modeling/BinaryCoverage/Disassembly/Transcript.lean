import BinaryCoverage.Disassembly.Line
import BinaryCoverage.Text.Lines

/-!
# Reading a transcript

Lines are read one by one.  A header opens a block, a marker names the function of the next
location, a location opens a run and an instruction goes to the run that is open.  Whatever stands
before the first header is skipped.  This file defines:

* `Transcript.step` — the effect of one line;
* `Transcript.blocksOf` — the blocks of a transcript.
-/

namespace BinaryCoverage.Disassembly

/-- What has been read so far. -/
structure Transcript where
  /-- The finished blocks, the latest first. -/
  finished : List FunctionBlock := []
  /-- The block that is open; its runs and their instructions are kept the latest first. -/
  current : Option FunctionBlock := none
  /-- The function named by a marker that no location has followed yet. -/
  pending : Option String := none

namespace Transcript

def straightenRun (r : SourceRun) : SourceRun := { r with instructions := r.instructions.reverse }

/-- The block with its parts in the order of the transcript. -/
def straighten (b : FunctionBlock) : FunctionBlock :=
  { b with
    runs := (b.runs.map straightenRun).reverse
    unattributed := b.unattributed.reverse }

/-- The blocks read so far, the latest first. -/
def close (t : Transcript) : List FunctionBlock :=
  match t.current with
  | none => t.finished
  | some b => straighten b :: t.finished

/-- Adds an instruction to the open run of a block. -/
def addInstruction (b : FunctionBlock) (i : Instruction) : FunctionBlock :=
  match b.runs with
  | [] => { b with unattributed := i :: b.unattributed }
  | run :: rest => { b with runs := { run with instructions := i :: run.instructions } :: rest }

def step (t : Transcript) : Line → Transcript
  -- A pending name does not outlive its block.
  | .header address label => { finished := t.close, current := some { address, label } }
  | .other => t
  -- Of several markers in a row the last one counts.
  | .marker function => if t.current.isSome then { t with pending := some function } else t
  | .location file line =>
      match t.current with
      | none => t
      | some b =>
          { t with
            current := some { b with runs := ⟨t.pending, file, line, []⟩ :: b.runs }
            pending := none }
  | .instruction i => { t with current := t.current.map (addInstruction · i) }

def ofLines (lines : List Line) : Transcript := lines.foldl step {}

/-- The blocks of the given lines, in order. -/
def blocksOfLines (lines : List Line) : List FunctionBlock := (ofLines lines).close.reverse

/-- The lines of a transcript, without the carriage returns at their ends. -/
def linesOf (text : String) : List Line :=
  (Text.lines text.toList).map fun line => Line.ofChars (Text.dropReturns line)

def blocksOf (text : String) : List FunctionBlock := blocksOfLines (linesOf text)

end Transcript

end BinaryCoverage.Disassembly
