import BinaryCoverage.Branch.Arms
import BinaryCoverage.Coverage.Basic
import BinaryCoverage.Diagnostic
import BinaryCoverage.Opcode

/-!
# Branches of a source file

Every branch line of a source becomes a branch point, judged by the coverage of its file, or a
diagnostic: a line without a control-transfer instruction is no branch, and a construct without
an end has no arms.
-/

namespace BinaryCoverage

/-- Some opcode of the line has a control-transfer mnemonic. -/
def LineCoverage.transfersControl (l : LineCoverage) : Bool :=
  (l.opcodes.filterMap Opcode.mnemonic?).any Opcode.isControlTransfer

namespace FileCoverage

/-- The entry of a line, whatever its number. -/
def line? (c : FileCoverage) (n : Nat) : Option LineCoverage :=
  if n < UInt32.size then c.lines[UInt32.ofNat n]? else none

def coversLine (c : FileCoverage) (n : Nat) : Bool := (c.line? n).any (·.covered)

def transfersControl (c : FileCoverage) (n : Nat) : Bool := (c.line? n).any (·.transfersControl)

end FileCoverage

structure BranchAnalysis where
  points : List BranchPoint
  diagnostics : List Diagnostic

namespace BranchAnalysis

/-- The coverage of the arms of a branch line. -/
def arms (s : MaskedSource) (c : FileCoverage) (line : Nat) :
    BranchKind → Except ScanFailure (List Bool)
  | .conditional => (s.conditionalArms c.coversLine line).map fun (first, second) => [first, second]
  | .selection => s.selectionArms c.coversLine line

/-- The branch point of a branch line, or the diagnostic that it is dropped for. -/
def judge (file : String) (s : MaskedSource) (c : FileCoverage) (line : Nat) (kind : BranchKind) :
    Except Diagnostic BranchPoint :=
  -- The compiler may have left no branch of the construct.
  if c.transfersControl line then
    match arms s c line kind with
    | .ok arms => .ok ⟨line, kind, arms⟩
    | .error e => .error ⟨file, some line, .unterminated, e.message⟩
  else
    .error
      { file, line := some line, kind := .branchMismatch
        message := s!"line {line} looks like {kind.phrase} but no branch " ++
          "instruction was recorded for it" }

/-- The branch points and the diagnostics of the judged lines. -/
def ofJudgements : List (Except Diagnostic BranchPoint) → BranchAnalysis
  | [] => ⟨[], []⟩
  | .ok point :: rest =>
      let a := ofJudgements rest
      { a with points := point :: a.points }
  | .error diagnostic :: rest =>
      let a := ofJudgements rest
      { a with diagnostics := diagnostic :: a.diagnostics }

def ofMasked (file : String) (s : MaskedSource) (c : FileCoverage) : BranchAnalysis :=
  ofJudgements (s.branchLines.map fun (line, kind) => judge file s c line kind)

/-- The branches of a file with a given text. -/
def ofSource (file : String) (text : String) (c : FileCoverage) : BranchAnalysis :=
  ofMasked file (MaskedSource.ofText text) c

end BranchAnalysis

end BinaryCoverage
