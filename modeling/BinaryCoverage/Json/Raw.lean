import BinaryCoverage.Text.Number

/-!
# JSON as written

A document is first read for its form alone: numbers keep their digits, strings their escapes and
objects all their fields, and nothing limits the nesting.  What a part of the document means is
decided where it is used; a part that nobody uses is never looked at again.
-/

namespace BinaryCoverage.Json

/-- A character of a string as written. -/
inductive Piece where
  | verbatim (c : Char)
  | escape (c : Char)
  | unit (code : Nat)
  deriving DecidableEq

structure RawNumber where
  negative : Bool
  whole : List Char
  fraction : Option (List Char) := none
  exponent : Option (Bool × List Char) := none
  deriving DecidableEq

inductive Raw where
  | null
  | bool (value : Bool)
  | number (n : RawNumber)
  | string (pieces : List Piece)
  | array (items : List Raw)
  | object (fields : List (List Piece × Raw))
  deriving Inhabited

namespace Raw

def isSpace (c : Char) : Bool := c == ' ' || c == '\n' || c == '\t' || c == '\r'

def skip (cs : List Char) : List Char := cs.dropWhile isSpace

/-- A `u` escape: four hexadecimal digits. -/
def readUnit? : List Char → Option (Nat × List Char)
  | a :: b :: c :: d :: rest =>
      if [a, b, c, d].all Text.isHexDigit then
        (Text.digits? 16 [a, b, c, d]).map (·, rest)
      else none
  | _ => none

/-- The character that a one-letter escape stands for. -/
def escaped? : Char → Option Char
  | '"' => some '"'
  | '\\' => some '\\'
  | '/' => some '/'
  | 'b' => some '\x08'
  | 'f' => some '\x0c'
  | 'n' => some '\n'
  | 'r' => some '\r'
  | 't' => some '\t'
  | _ => none

/-- The string whose opening quote has been read, and what follows its closing quote. -/
def readString? : Nat → List Char → Option (List Piece × List Char)
  | 0, _ => none
  | _ + 1, [] => none
  | _ + 1, '"' :: rest => some ([], rest)
  | fuel + 1, '\\' :: 'u' :: rest => do
      let (code, rest) ← readUnit? rest
      let (pieces, rest) ← readString? fuel rest
      some (.unit code :: pieces, rest)
  | _ + 1, ['\\'] => none
  | fuel + 1, '\\' :: c :: rest => do
      let e ← escaped? c
      let (pieces, rest) ← readString? fuel rest
      some (.escape e :: pieces, rest)
  | fuel + 1, c :: rest => do
      -- Control characters have to be escaped.
      guard (32 ≤ c.toNat)
      let (pieces, rest) ← readString? fuel rest
      some (.verbatim c :: pieces, rest)

/-- A nonempty stretch of digits. -/
def readDigits? (cs : List Char) : Option (List Char × List Char) :=
  let digits := cs.takeWhile Text.isDigit
  if digits.isEmpty then none else some (digits, cs.dropWhile Text.isDigit)

/-- The exponent, if one begins here. -/
def readExponent? (cs : List Char) : Option (Option (Bool × List Char) × List Char) :=
  match cs with
  | e :: rest =>
      if e == 'e' || e == 'E' then
        let (negative, rest) := match rest with
          | '-' :: rest => (true, rest)
          | '+' :: rest => (false, rest)
          | _ => (false, rest)
        (readDigits? rest).map fun (digits, rest) => (some (negative, digits), rest)
      else some (none, cs)
  | [] => some (none, [])

/-- The fraction, if one begins here. -/
def readFraction? (cs : List Char) : Option (Option (List Char) × List Char) :=
  match cs with
  | '.' :: rest => (readDigits? rest).map fun (digits, rest) => (some digits, rest)
  | _ => some (none, cs)

/-- The digits before the fraction: one zero, or digits of which the first is not zero. -/
def readWhole? (cs : List Char) : Option (List Char × List Char) :=
  match cs with
  -- A digit after a leading zero is left, and spoils what comes after it.
  | '0' :: rest => some (['0'], rest)
  | _ => readDigits? cs

def readNumber? (cs : List Char) : Option (RawNumber × List Char) := do
  let (negative, rest) := match cs with
    | '-' :: rest => (true, rest)
    | _ => (false, cs)
  let (whole, rest) ← readWhole? rest
  let (fraction, rest) ← readFraction? rest
  let (exponent, rest) ← readExponent? rest
  some (⟨negative, whole, fraction, exponent⟩, rest)

mutual

/-- The value that begins here, after blanks, and what follows it. -/
def readValue? : Nat → List Char → Option (Raw × List Char)
  | 0, _ => none
  | fuel + 1, cs =>
      match skip cs with
      | 'n' :: 'u' :: 'l' :: 'l' :: rest => some (.null, rest)
      | 't' :: 'r' :: 'u' :: 'e' :: rest => some (.bool true, rest)
      | 'f' :: 'a' :: 'l' :: 's' :: 'e' :: rest => some (.bool false, rest)
      | '"' :: rest => (readString? (rest.length + 1) rest).map fun (p, rest) => (.string p, rest)
      | '[' :: rest =>
          match skip rest with
          | ']' :: rest => some (.array [], rest)
          | rest => (readItems? fuel rest).map fun (items, rest) => (.array items, rest)
      | '{' :: rest =>
          match skip rest with
          | '}' :: rest => some (.object [], rest)
          | rest => (readFields? fuel rest).map fun (fields, rest) => (.object fields, rest)
      | rest => (readNumber? rest).map fun (n, rest) => (.number n, rest)

/-- The items that begin here, up to the end of their array. -/
def readItems? : Nat → List Char → Option (List Raw × List Char)
  | 0, _ => none
  | fuel + 1, cs => do
      let (item, rest) ← readValue? fuel cs
      match skip rest with
      | ',' :: rest =>
          let (items, rest) ← readItems? fuel rest
          some (item :: items, rest)
      | ']' :: rest => some ([item], rest)
      | _ => none

/-- The fields that begin here, up to the end of their object. -/
def readFields? : Nat → List Char → Option (List (List Piece × Raw) × List Char)
  | 0, _ => none
  | fuel + 1, cs =>
      match skip cs with
      | '"' :: rest => do
          let (key, rest) ← readString? (rest.length + 1) rest
          match skip rest with
          | ':' :: rest =>
              let (value, rest) ← readValue? fuel rest
              match skip rest with
              | ',' :: rest =>
                  let (fields, rest) ← readFields? fuel rest
                  some ((key, value) :: fields, rest)
              | '}' :: rest => some ([(key, value)], rest)
              | _ => none
          | _ => none
      | _ => none

end

/-- The document that makes up the whole text. -/
def read? (text : String) : Option Raw := do
  let cs := text.toList
  -- Each value and each list of items or fields takes one step.
  let (value, rest) ← readValue? (2 * cs.length + 2) cs
  guard (skip rest).isEmpty
  some value

end Raw

end BinaryCoverage.Json
