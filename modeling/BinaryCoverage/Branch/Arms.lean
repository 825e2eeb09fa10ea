import BinaryCoverage.Branch.Detect
import BinaryCoverage.Source.Scan

/-!
# The arms of a branch

The arms of an `if` and of a `switch` are delimited in the masked source and judged by the lines
that are covered.  This file defines:

* `arm` — the coverage and the end of the arm that starts after a position;
* `conditionalArms` — the two arms of an `if`; a missing second one counts as covered;
* `selectionArms` — one arm per line of a `switch` body that starts with a label.
-/

namespace BinaryCoverage.MaskedSource

open Source (findWord? labelTail?)
open Text (isBlankText)

variable (s : MaskedSource) (covered : Nat → Bool)

/-- Whether a line from `first` to `last` is covered. -/
def anyCovered (first last : Nat) : Bool := (List.range' first (last + 1 - first)).any covered

/-- Coverage of a braced arm: that of the lines between the braces, of the closing line when code
stands before its brace, and of the line of both braces when they share one. -/
def isBlockCovered (start close : Position) : Bool :=
  if close.line = start.line then covered start.line
  else
    -- What stands right behind the opening brace does not count.
    let codeBeforeClose := !isBlankText (((s.line? close.line).getD []).take close.column)
    let last := if codeBeforeClose then close.line else close.line - 1
    anyCovered covered (start.line + 1) last

/-- Coverage and end of the arm that starts right after `p`.  A block has to open on the line of
`p` or the next; any other arm is the statement that comes next. -/
def arm (p : Position) : Except ScanFailure (Bool × Position) :=
  match s.nextToken? p with
  | none => .error .unterminatedStatement
  | some (start, c) =>
      -- A brace further down is no arm of this branch; it is scanned as part of a statement.
      if c = '{' ∧ start.line ≤ p.line + 1 then
        match s.blockEnd? start with
        | none => .error .unterminatedBlock
        | some close => .ok (s.isBlockCovered covered start close, ⟨close.line, close.column + 1⟩)
      else
        match s.statementEnd? start with
        | none => .error .unterminatedStatement
        | some stop => .ok (covered start.line, ⟨stop.line, stop.column + 1⟩)

/-- The end of the first `else` on the rest of a line or on the line after it. -/
def elseEnd? (p : Position) : Option Position :=
  match findWord? "else".toList false p.column (s.rest p) with
  | some column => some ⟨p.line, column⟩
  | none =>
      match s.line? (p.line + 1) with
      | none => none
      | some line => (findWord? "else".toList false 0 line).map (⟨p.line + 1, ·⟩)

/-- Coverage of the second arm of an `if` whose first arm ends at `p`. -/
def secondArm (p : Position) : Except ScanFailure Bool :=
  match s.elseEnd? p with
  -- An arm that is not written cannot be missed.
  | none => .ok true
  | some q => (s.arm covered q).map (·.1)

/-- Coverage of the two arms of the `if` on a line. -/
def conditionalArms (line : Nat) : Except ScanFailure (Bool × Bool) :=
  match s.conditionEnd? ⟨line, 0⟩ with
  | none => .error .unterminatedCondition
  | some p =>
      match s.arm covered p with
      | .error e => .error e
      | .ok (first, stop) => (s.secondArm covered stop).map (first, ·)

/-! ## Selections -/

/-- The brace depth after a stretch of text; `none` once the body is closed. -/
def depthAfter : Nat → List Char → Option Nat
  | depth, [] => some depth
  | depth, c :: cs =>
      match blockStep depth c with
      | none => none
      | some depth => depthAfter depth cs

/-- The arms, the latest first, after a line of the body that starts at the given depth. -/
def armsAfterLine (depth line : Nat) (segment : List Char) (arms : List Bool) : List Bool :=
  match if depth = 1 then labelTail? segment else none with
  -- A label with nothing behind it leaves its arm to the lines below.
  | some tail => (!isBlankText tail && covered line) :: arms
  | none =>
      match arms with
      -- Code above the first label belongs to no arm.
      | [] => []
      | latest :: rest => (latest || covered line) :: rest

/-- The arms of a body from a line on, where the latest arms come first in `arms`. -/
def armsFrom : Nat → Nat → List (List Char) → List Bool → Except ScanFailure (List Bool)
  | _, _, [], _ => .error .unterminatedBlock
  | depth, line, segment :: rest, arms =>
      -- The line on which the body closes still counts for its last arm.
      let arms := armsAfterLine covered depth line segment arms
      match depthAfter depth segment with
      | none => .ok arms.reverse
      | some depth => armsFrom depth (line + 1) rest arms

/-- Coverage of the arms of the `switch` on a line. -/
def selectionArms (line : Nat) : Except ScanFailure (List Bool) :=
  match s.conditionEnd? ⟨line, 0⟩ with
  | none => .error .unterminatedCondition
  | some p =>
      match s.nextToken? p with
      | some (start, '{') =>
          let body := s.linesFrom start.line
          let segments := (s.rest ⟨start.line, start.column + 1⟩) :: body.drop 1
          armsFrom covered 1 start.line segments []
      | _ => .error .missingBody

end BinaryCoverage.MaskedSource
