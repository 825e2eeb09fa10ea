import BinaryCoverage.Text.Number

/-!
# Places in a YAML text

A cursor is what is left of a text, with its place in it.  Lines end at line feeds, carriage
returns, both together, and three further characters of Unicode.
-/

namespace BinaryCoverage.Yaml

structure Cursor where
  rest : List Char
  index : Nat := 0
  line : Nat := 0
  column : Nat := 0

/-- Blanks within a line. -/
def isSpace (c : Char) : Bool := c == ' ' || c == '\t'

def isBreak (c : Char) : Bool :=
  c == '\n' || c == '\r' || c.toNat == 0x85 || c.toNat == 0x2028 || c.toNat == 0x2029

/-- A blank, a line end or the end of the text. -/
def endsWord (cs : List Char) : Bool :=
  match cs with
  | [] => true
  | c :: _ => isSpace c || isBreak c

/-- A line end or the end of the text. -/
def endsLine (cs : List Char) : Bool :=
  match cs with
  | [] => true
  | c :: _ => isBreak c

namespace Cursor

def head? (c : Cursor) : Option Char := c.rest.head?

/-- Past characters of one line. -/
def skip (c : Cursor) (n : Nat) : Cursor :=
  { c with rest := c.rest.drop n, index := c.index + n, column := c.column + n }

/-- Past the characters of a kind, none of which ends a line. -/
def skipWhile (c : Cursor) (p : Char → Bool) : Cursor := c.skip (c.rest.takeWhile p).length

def skipSpaces (c : Cursor) : Cursor := c.skipWhile isSpace

/-- Past the rest of the line. -/
def skipLine (c : Cursor) : Cursor := c.skipWhile (!isBreak ·)

/-- Past a comment, if one begins here. -/
def skipComment (c : Cursor) : Cursor := if c.head? == some '#' then c.skipLine else c

/-- The start of the next line, after as many characters as its end has. -/
def nextLine (c : Cursor) (n : Nat) : Cursor where
  rest := c.rest.drop n
  index := c.index + n
  line := c.line + 1
  column := 0

/-- A line end as it is kept in text, and the start of the next line. -/
def lineEnd? (c : Cursor) : Option (List Char × Cursor) :=
  match c.rest with
  | '\r' :: '\n' :: _ => some (['\n'], c.nextLine 2)
  | b :: _ =>
      -- These two are kept as they are.
      if b.toNat == 0x2028 || b.toNat == 0x2029 then some ([b], c.nextLine 1)
      else if isBreak b then some (['\n'], c.nextLine 1)
      else none
  | [] => none

/-- Past a line end, if there is one. -/
def skipLineEnd (c : Cursor) : Cursor := (c.lineEnd?.map (·.2)).getD c

/-- Whether a line begins here with three given characters and the end of a word. -/
def atMark (c : Cursor) (mark : Char) : Bool :=
  c.column == 0 && c.rest.take 3 == [mark, mark, mark] && endsWord (c.rest.drop 3)

/-- Whether a document begins or ends here. -/
def atDocument (c : Cursor) : Bool := c.atMark '-' || c.atMark '.'

end Cursor

end BinaryCoverage.Yaml
