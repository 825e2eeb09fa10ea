import BinaryCoverage.Branch.Basic
import BinaryCoverage.Source.Basic

/-!
# Lines that begin a branch

A branch line starts with a blank.  After its blanks comes `switch` and a parenthesis, or `if` and
a parenthesis, in front of which a closing brace and an `else` may stand.  This file defines:

* `conditionalTail?`, `selectionTail?` — what follows the parenthesis of such a line;
* `labelTail?` — what follows the colon of a line that starts with a `case` or `default` label;
* `findWord?` — the first occurrence of a word that is not part of a longer one;
* `MaskedSource.branchLines` — the branch lines of a source.
-/

namespace BinaryCoverage

namespace Source

open Text (isBlank trimStart dropPrefix?)

/-- A letter or digit of ASCII, or an underscore. -/
def isWordChar (c : Char) : Bool := c.isAlphanum || c == '_'

/-- The text after its blanks, of which there is at least one. -/
def afterBlanks? : List Char → Option (List Char)
  | c :: cs => if isBlank c then some (trimStart cs) else none
  | [] => none

/-- What follows a keyword, perhaps blanks, and a parenthesis. -/
def keywordTail? (keyword : String) (cs : List Char) : Option (List Char) := do
  let rest ← dropPrefix? keyword.toList cs
  dropPrefix? ['('] (trimStart rest)

/-- The text after a closing brace and blanks, if it starts with a brace. -/
def skipBrace (cs : List Char) : List Char :=
  match cs with
  | '}' :: rest => trimStart rest
  | _ => cs

/-- The text after an `else` and blanks, if it starts with these. -/
def skipElse (cs : List Char) : List Char :=
  ((dropPrefix? "else".toList cs).bind afterBlanks?).getD cs

def conditionalTail? (line : List Char) : Option (List Char) := do
  let cs ← afterBlanks? line
  -- The brace and the `else` may each be missing.
  keywordTail? "if" (skipElse (skipBrace cs))

def selectionTail? (line : List Char) : Option (List Char) := do
  let cs ← afterBlanks? line
  keywordTail? "switch" cs

/-- What follows a `case` label. -/
def caseTail? (cs : List Char) : Option (List Char) := do
  let rest ← dropPrefix? "case".toList cs
  -- A longer word is no label.
  guard !(rest.head?.any isWordChar)
  dropPrefix? [':'] (rest.dropWhile (· != ':'))

/-- What follows a `default` label. -/
def defaultTail? (cs : List Char) : Option (List Char) := do
  let rest ← dropPrefix? "default".toList cs
  -- A longer word is no label here either: only blanks may come before the colon.
  dropPrefix? [':'] (trimStart rest)

def labelTail? (segment : List Char) : Option (List Char) :=
  let cs := trimStart segment
  (caseTail? cs).or (defaultTail? cs)

/-- The column after the first whole occurrence of `word`, when the text starts in `column`. -/
def findWord? (word : List Char) : Bool → Nat → List Char → Option Nat
  | _, _, [] => none
  | afterWord, column, c :: cs =>
      match dropPrefix? word (c :: cs) with
      | some rest =>
          -- Part of a longer word on either side does not count, and the search goes on inside it.
          if !afterWord && !(rest.head?.any isWordChar) then some (column + word.length)
          else findWord? word (isWordChar c) (column + 1) cs
      | none => findWord? word (isWordChar c) (column + 1) cs

/-- The kind of branch that a line begins. -/
def branchKind? (line : List Char) : Option BranchKind :=
  if (conditionalTail? line).isSome then some .conditional
  else if (selectionTail? line).isSome then some .selection
  else none

/-- The branch lines among the given lines, the first of which has number `n`. -/
def branchLinesFrom : Nat → List (List Char) → List (Nat × BranchKind)
  | _, [] => []
  | n, line :: rest =>
      match branchKind? line with
      | some kind => (n, kind) :: branchLinesFrom (n + 1) rest
      | none => branchLinesFrom (n + 1) rest

end Source

/-- The branch lines of a source, in order. -/
def MaskedSource.branchLines (s : MaskedSource) : List (Nat × BranchKind) :=
  Source.branchLinesFrom 1 s.lines

end BinaryCoverage
