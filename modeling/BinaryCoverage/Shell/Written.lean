import BinaryCoverage.Text.Number

/-!
# Written text

Commands that write text read escapes in it.  This file defines:

* `Shell.Written.echo` — texts in one line;
* `Shell.Written.formatted` — a format that is gone through as long as there are values for it.
-/

namespace BinaryCoverage.Shell.Written

/-- The bytes of a character. -/
def charBytes (c : Char) : List UInt8 := (String.singleton c).toUTF8.toList

/-! ## Escapes -/

def isOctal (c : Char) : Bool := '0' ≤ c && c ≤ '7'

/-- The character that one letter after a backslash stands for. -/
def escape? : Char → Option Nat
  | 'a' => some 7
  | 'b' => some 8
  | 't' => some 9
  | 'n' => some 10
  | 'v' => some 11
  | 'f' => some 12
  | 'r' => some 13
  | '\\' => some 92
  | _ => none

/-- The octal number at the beginning, of at most so many digits, as one byte. -/
def octal (digits : Nat) (cs : List Char) : UInt8 × List Char :=
  let ds := (cs.take digits).takeWhile isOctal
  (UInt8.ofNat ((Text.digits? 8 ds).getD 0), cs.drop ds.length)

/-- Text that ends early where an escape says so. -/
structure Expansion where
  bytes : List UInt8
  isCut : Bool := false

/-- Expands the escapes of values: octal numbers begin with a zero; `c` ends all output.  The
number bounds how many characters there are. -/
def expand : Nat → List Char → Expansion
  | _ + 1, '\\' :: 'c' :: _ => ⟨[], true⟩
  | n + 1, '\\' :: '0' :: rest =>
      let (b, rest) := octal 3 rest
      let e := expand n rest
      { e with bytes := b :: e.bytes }
  | n + 1, '\\' :: c :: rest =>
      let e := expand n rest
      match escape? c with
      | some b => { e with bytes := UInt8.ofNat b :: e.bytes }
      -- The backslash of an unknown escape stays.
      | none => { e with bytes := 92 :: charBytes c ++ e.bytes }
  | n + 1, c :: rest =>
      let e := expand n rest
      { e with bytes := charBytes c ++ e.bytes }
  | _, _ => ⟨[], false⟩

def expandText (text : String) : Expansion := expand (text.length + 1) text.toList

/-! ## One line -/

/-- Texts with blanks between them, up to one that ends all output. -/
def joined : List String → Expansion
  | [] => ⟨[], false⟩
  | a :: rest =>
      let e := expandText a
      if e.isCut || rest.isEmpty then e
      else
        let more := joined rest
        { more with bytes := e.bytes ++ 32 :: more.bytes }

/-- Texts in a line; a first text `-n` leaves out the end of the line. -/
def echo (texts : List String) : List UInt8 :=
  match texts with
  | "-n" :: rest => (joined rest).bytes
  | _ =>
      let e := joined texts
      if e.isCut then e.bytes else e.bytes ++ [10]

/-! ## Formats -/

/-- The number that a value stands for; anything else counts as zero. -/
def number (value : String) : Int :=
  match value.toList with
  | '-' :: cs => -(((Text.digits? 10 cs).getD 0 : Nat) : Int)
  | '+' :: cs => ((Text.digits? 10 cs).getD 0 : Nat)
  | cs => ((Text.digits? 10 cs).getD 0 : Nat)

/-- What one letter after a percent sign makes of a value. -/
def directive? (c : Char) (value : String) : Option Expansion :=
  match c with
  | 's' => some ⟨value.toUTF8.toList, false⟩
  | 'b' => some (expandText value)
  | 'c' => some ⟨(value.toList.take 1).flatMap charBytes, false⟩
  | 'd' => some ⟨(toString (number value)).toUTF8.toList, false⟩
  | 'i' => some ⟨(toString (number value)).toUTF8.toList, false⟩
  | 'u' => some ⟨(toString (number value)).toUTF8.toList, false⟩
  | _ => none

/-- A format once gone through: what it writes, the values it leaves, and whether all its
directives are known. -/
structure Pass where
  bytes : List UInt8 := []
  values : List String
  isCut : Bool := false
  isKnown : Bool := true

def Pass.before (bytes : List UInt8) (p : Pass) : Pass := { p with bytes := bytes ++ p.bytes }

/-- Goes through a format once.  The number bounds how many characters there are. -/
def pass : Nat → List Char → List String → Pass
  | _ + 1, '\\' :: 'c' :: _, values => ⟨[], values, true, true⟩
  | n + 1, '\\' :: c :: rest, values =>
      if isOctal c then
        let (b, rest) := octal 3 (c :: rest)
        (pass n rest values).before [b]
      else
        match escape? c with
        | some b => (pass n rest values).before [UInt8.ofNat b]
        | none =>
            let bytes := if c == '"' || c == '\'' then charBytes c else 92 :: charBytes c
            (pass n rest values).before bytes
  | n + 1, '%' :: '%' :: rest, values => (pass n rest values).before [37]
  | n + 1, '%' :: c :: rest, values =>
      match directive? c (values.head?.getD "") with
      | some e =>
          if e.isCut then ⟨e.bytes, values.drop 1, true, true⟩
          else (pass n rest (values.drop 1)).before e.bytes
      | none => ⟨[], values, false, false⟩
  | n + 1, c :: rest, values => (pass n rest values).before (charBytes c)
  | _, _, values => ⟨[], values, false, true⟩

/-- Goes through a format as long as that uses up values; the number bounds how often. -/
def passes : Nat → List Char → List String → Pass
  | 0, _, values => ⟨[], values, false, true⟩
  | n + 1, format, values =>
      let p := pass (format.length + 1) format values
      -- A format without directives uses up nothing, and is written once.
      if p.isCut || !p.isKnown || p.values.isEmpty || values.length ≤ p.values.length then p
      else (passes n format p.values).before p.bytes

/-- A format filled with values, and whether all its directives are known. -/
def formatted (format : String) (values : List String) : List UInt8 × Bool :=
  let p := passes (values.length + 1) format.toList values
  (p.bytes, p.isKnown)

end BinaryCoverage.Shell.Written
