import BinaryCoverage.Source.Basic

/-!
# Scanning a masked source

A scan reads the characters from a position on, over line ends, and carries a state along.  A step
either goes on with a new state or stops at the character it was given.  This file defines:

* `scan` — the position and character at which a scan stops;
* `nextToken?` — the first character that is no blank;
* `conditionEnd?` — the end of the parenthesis that opens first;
* `blockEnd?` — the brace that closes a block;
* `statementEnd?` — the semicolon that ends a statement.
-/

namespace BinaryCoverage.MaskedSource

open Text (isBlank)

variable {σ : Type}

/-- Scans the characters of one line, the first of which stands in a given column. -/
def scanLine (step : σ → Char → Option σ) : σ → Nat → List Char → σ ⊕ (Nat × Char)
  | s, _, [] => .inl s
  | s, column, c :: cs =>
      match step s c with
      | none => .inr (column, c)
      | some s => scanLine step s (column + 1) cs

/-- Scans whole lines, the first of which has a given number. -/
def scanLines (step : σ → Char → Option σ) : σ → Nat → List (List Char) → Option (Position × Char)
  | _, _, [] => none
  | s, n, line :: rest =>
      match scanLine step s 0 line with
      | .inr (column, c) => some (⟨n, column⟩, c)
      | .inl s => scanLines step s (n + 1) rest

/-- Where a scan from a position on stops; `none` if it reaches the end of the source. -/
def scan (step : σ → Char → Option σ) (s : MaskedSource) (start : σ) (p : Position) :
    Option (Position × Char) :=
  match s.linesFrom p.line with
  | [] => none
  -- Only the first line is entered behind its start.
  | line :: rest =>
      match scanLine step start p.column (line.drop p.column) with
      | .inr (column, c) => some (⟨p.line, column⟩, c)
      | .inl state => scanLines step state (p.line + 1) rest

/-- The first character at or after `p` that is no blank. -/
def nextToken? (s : MaskedSource) (p : Position) : Option (Position × Char) :=
  s.scan (fun () c => if isBlank c then some () else none) () p

/-- Counts the parentheses that are open; stops at the one that closes the first. -/
def conditionStep (depth : Nat) : Char → Option Nat
  | '(' => some (depth + 1)
  -- Before the first parenthesis opens, one that closes changes nothing.
  | ')' => if depth = 1 then none else some (depth - 1)
  | _ => some depth

/-- Right after the parenthesis that closes the first one opened at or after `p`. -/
def conditionEnd? (s : MaskedSource) (p : Position) : Option Position :=
  (s.scan conditionStep 0 p).map fun (q, _) => ⟨q.line, q.column + 1⟩

/-- Counts the braces that are open; stops where none is left. -/
def blockStep (depth : Nat) : Char → Option Nat
  | '{' => some (depth + 1)
  -- A scan that starts at an opening brace has counted it by now.
  | '}' => if depth ≤ 1 then none else some (depth - 1)
  | _ => some depth

/-- The brace that closes the block opened at `p`. -/
def blockEnd? (s : MaskedSource) (p : Position) : Option Position :=
  (s.scan blockStep 0 p).map (·.1)

/-- Counts the parentheses that are open; stops at a semicolon outside them. -/
def statementStep (depth : Nat) : Char → Option Nat
  | '(' => some (depth + 1)
  -- A parenthesis that closes nothing changes nothing.
  | ')' => some (depth - 1)
  | ';' => if depth = 0 then none else some depth
  | _ => some depth

/-- The semicolon that ends the statement starting at `p`. -/
def statementEnd? (s : MaskedSource) (p : Position) : Option Position :=
  (s.scan statementStep 0 p).map (·.1)

end BinaryCoverage.MaskedSource
