import BinaryCoverage.Decimal.Shortest
import BinaryCoverage.Json.Basic

/-!
# Printing JSON

Values are laid out over lines, two blanks deeper in each array and object; an empty array or
object stays on its line.  Control characters, quotes and backslashes are escaped, everything else
stands for itself.
-/

namespace BinaryCoverage.Json

def hexDigit (n : Nat) : Char := (Nat.toDigits 16 n).headD '0'

/-- The escape of one character inside quotes. -/
def escapeChar (c : Char) : List Char :=
  match c with
  | '"' => ['\\', '"']
  | '\\' => ['\\', '\\']
  | '\n' => ['\\', 'n']
  | '\r' => ['\\', 'r']
  | '\t' => ['\\', 't']
  | '\x08' => ['\\', 'b']
  | '\x0c' => ['\\', 'f']
  | c =>
      if c.toNat < 32 then
        ['\\', 'u', '0', '0', hexDigit (c.toNat / 16), hexDigit (c.toNat % 16)]
      else [c]

def quote (text : String) : List Char := '"' :: (text.toList.flatMap escapeChar ++ ['"'])

def newline (depth : Nat) : List Char := '\n' :: List.replicate (2 * depth) ' '

def integerText (n : Int) : List Char :=
  if n < 0 then '-' :: Text.decimal n.natAbs else Text.decimal n.natAbs

mutual

/-- The text of a value that starts `depth` levels deep. -/
def layout (depth : Nat) : Json → List Char
  | .null => ['n', 'u', 'l', 'l']
  | .bool true => ['t', 'r', 'u', 'e']
  | .bool false => ['f', 'a', 'l', 's', 'e']
  | .integer n => integerText n.value
  | .float x => Decimal.text x
  | .string s => quote s
  | .array [] => ['[', ']']
  | .array (item :: rest) =>
      '[' :: (newline (depth + 1) ++ layout (depth + 1) item ++ layoutItems depth rest)
  | .object [] => ['{', '}']
  | .object ((key, value) :: rest) =>
      '{' :: (newline (depth + 1) ++ quote key ++ ':' :: ' ' :: layout (depth + 1) value ++
        layoutFields depth rest)

/-- The items after the first of an array, and its end. -/
def layoutItems (depth : Nat) : List Json → List Char
  | [] => newline depth ++ [']']
  | item :: rest =>
      ',' :: (newline (depth + 1) ++ layout (depth + 1) item ++ layoutItems depth rest)

/-- The fields after the first of an object, and its end. -/
def layoutFields (depth : Nat) : List (String × Json) → List Char
  | [] => newline depth ++ ['}']
  | (key, value) :: rest =>
      ',' :: (newline (depth + 1) ++ quote key ++ ':' :: ' ' :: layout (depth + 1) value ++
        layoutFields depth rest)

end

/-- The text of a document. -/
def print (value : Json) : String := String.ofList (layout 0 value)

mutual

/-- The text of a value on one line, without blanks. -/
def compact : Json → List Char
  | .null => ['n', 'u', 'l', 'l']
  | .bool true => ['t', 'r', 'u', 'e']
  | .bool false => ['f', 'a', 'l', 's', 'e']
  | .integer n => integerText n.value
  | .float x => Decimal.text x
  | .string s => quote s
  | .array [] => ['[', ']']
  | .array (item :: rest) => '[' :: (compact item ++ compactItems rest)
  | .object [] => ['{', '}']
  | .object ((key, value) :: rest) =>
      '{' :: (quote key ++ ':' :: compact value ++ compactFields rest)

def compactItems : List Json → List Char
  | [] => [']']
  | item :: rest => ',' :: (compact item ++ compactItems rest)

def compactFields : List (String × Json) → List Char
  | [] => ['}']
  | (key, value) :: rest => ',' :: (quote key ++ ':' :: compact value ++ compactFields rest)

end

/-- The text of a value on one line. -/
def printCompact (value : Json) : String := String.ofList (compact value)

end BinaryCoverage.Json
