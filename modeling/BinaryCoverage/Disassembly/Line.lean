import BinaryCoverage.Disassembly.Basic
import BinaryCoverage.Text.Blank
import BinaryCoverage.Text.Number

/-!
# Lines of a transcript

A line is a function header, a function marker, a source location or an instruction; any other
line, such as source text in between, says nothing.  The forms are tried in this order.

* Header: hexadecimal address, blank, label in angle brackets, colon.
* Marker: a symbol followed by `():`.
* Location: an absolute path, a colon and a line number, perhaps with a discriminator after it.
* Instruction: hexadecimal address, colon, tab, opcode.
-/

namespace BinaryCoverage.Disassembly

open Text (dropPrefix? dropSuffix? splitOnce? isDigit isHexDigit trimStart)

inductive Line where
  | header (address : UInt64) (label : String)
  | marker (function : String)
  | location (file : String) (line : UInt32)
  | instruction (i : Instruction)
  | other
  deriving DecidableEq

/-- An address in hexadecimal digits. -/
def address? (cs : List Char) : Option UInt64 :=
  if cs.isEmpty || !cs.all isHexDigit then none else Text.word64? 16 cs

def header? (cs : List Char) : Option (UInt64 × String) := do
  let body ← dropSuffix? ['>', ':'] cs
  let (address, label) ← splitOnce? [' ', '<'] body
  guard !label.isEmpty
  some (← address? address, String.ofList label)

def isSymbolChar (c : Char) : Bool := c.isAlphanum || c == '_' || c == '.' || c == '$'

def marker? (cs : List Char) : Option String := do
  let name ← dropSuffix? ['(', ')', ':'] cs
  guard (!name.isEmpty && name.all isSymbolChar)
  some (String.ofList name)

/-- The line without the discriminator at its end. -/
def dropDiscriminator (cs : List Char) : List Char :=
  match splitOnce? " (discriminator".toList cs with
  -- The parenthesis has to end the line.
  | some (before, _) => if cs.getLast? == some ')' then before else cs
  | none => cs

/-- The parts before and after the last colon. -/
def splitLastColon? (cs : List Char) : Option (List Char × List Char) :=
  (splitOnce? [':'] cs.reverse).map fun (after, before) => (before.reverse, after.reverse)

def location? (cs : List Char) : Option (String × UInt32) := do
  guard (cs.head? == some '/')
  let (file, number) ← splitLastColon? (dropDiscriminator cs)
  guard (!file.isEmpty && number.all isDigit)
  some (String.ofList file, ← Text.word32? 10 number)

def instruction? (cs : List Char) : Option Instruction := do
  let (address, opcode) ← splitOnce? [':', '\t'] (trimStart cs)
  some ⟨← address? address, String.ofList opcode⟩

/-- What a line without its line end says. -/
def Line.ofChars (cs : List Char) : Line :=
  match header? cs with
  | some (address, label) => .header address label
  | none =>
      match marker? cs with
      | some function => .marker function
      | none =>
          match location? cs with
          | some (file, line) => .location file line
          | none =>
              match instruction? cs with
              | some i => .instruction i
              | none => .other

end BinaryCoverage.Disassembly
