import BinaryCoverage.Source.Mask
import BinaryCoverage.Text.Lines

/-!
# Masked sources and positions

A masked source is a text as a list of masked lines.  Lines are numbered from 1, columns from 0.
-/

namespace BinaryCoverage

structure Position where
  line : Nat
  column : Nat
  deriving DecidableEq, Repr

structure MaskedSource where
  lines : List (List Char)
  deriving DecidableEq

namespace MaskedSource

def ofChars (text : List Char) : MaskedSource := ⟨(Text.lines text).map Source.maskLine⟩

def ofText (text : String) : MaskedSource := ofChars text.toList

def size (s : MaskedSource) : Nat := s.lines.length

/-- The line with a given number. -/
def line? (s : MaskedSource) : Nat → Option (List Char)
  | 0 => none
  | n + 1 => s.lines[n]?

/-- The lines from a given number on. -/
def linesFrom (s : MaskedSource) : Nat → List (List Char)
  | 0 => []
  | n + 1 => s.lines.drop n

/-- The rest of a line from a position on. -/
def rest (s : MaskedSource) (p : Position) : List Char := ((s.line? p.line).getD []).drop p.column

end MaskedSource

end BinaryCoverage
