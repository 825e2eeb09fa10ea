import BinaryCoverage.Pattern.Basic

/-!
# Flags of patterns

A flag changes how the rest of a group is read.  Flags are set in a group of their own or at the
start of a group; those after a hyphen are cleared.  A flag occurs once, and something has to
follow the hyphen.
-/

namespace BinaryCoverage.Pattern

structure Flags where
  ignoreCase : Bool := false
  multiLine : Bool := false
  dotMatchesNewline : Bool := false
  swapGreed : Bool := false
  unicode : Bool := true
  returnEndsLine : Bool := false
  ignoreSpace : Bool := false
  deriving DecidableEq, Repr

namespace Flags

/-- Sets or clears the flag of a letter. -/
def set? (f : Flags) (letter : Char) (value : Bool) : Option Flags :=
  match letter with
  | 'i' => some { f with ignoreCase := value }
  | 'm' => some { f with multiLine := value }
  | 's' => some { f with dotMatchesNewline := value }
  | 'U' => some { f with swapGreed := value }
  | 'u' => some { f with unicode := value }
  | 'R' => some { f with returnEndsLine := value }
  | 'x' => some { f with ignoreSpace := value }
  | _ => none

/-- Reads letters up to a colon or closing parenthesis, which is the first character of the rest.
`seen` holds the letters before, the latest first. -/
def read? (f : Flags) (seen : List Char) : List Char → Option (Flags × List Char × List Char)
  | [] => none
  | c :: rest =>
      if c == ':' || c == ')' then
        -- A hyphen has to clear something.
        if seen.head? == some '-' then none else some (f, seen, c :: rest)
      else if seen.contains c then none
      else if c == '-' then read? f (c :: seen) rest
      else
        match f.set? c (!seen.contains '-') with
        | none => none
        | some f => read? f (c :: seen) rest

def folding (f : Flags) : Folding := if f.unicode then .unicode else .ascii

/-- The set as it is where case is ignored. -/
def fold (f : Flags) (s : CharSet) : CharSet := if f.ignoreCase then .folded f.folding s else s

/-- The text after blanks and comments, where these are ignored. -/
def skipFuel (f : Flags) : Nat → List Char → List Char
  | 0, cs => cs
  | fuel + 1, cs =>
      if !f.ignoreSpace then cs
      else
        match cs with
        | [] => []
        | c :: rest =>
            if Text.isBlank c then skipFuel f fuel rest
            -- A comment reaches to the end of its line.
            else if c == '#' then skipFuel f fuel ((rest.dropWhile (· != '\n')).drop 1)
            else cs

def skip (f : Flags) (cs : List Char) : List Char := f.skipFuel cs.length cs

end Flags

end BinaryCoverage.Pattern
