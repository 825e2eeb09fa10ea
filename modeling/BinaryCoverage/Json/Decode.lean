import BinaryCoverage.Json.Basic
import BinaryCoverage.Json.Raw

/-!
# What a written document means

A decoder turns a part of a document into a value, or refuses it.  It is told how many more arrays
and objects may be open inside one another: a document in which 128 are open at once is refused.

* A record is an object whose known fields occur at most once, or an array of its fields in order.
* A table is an object; the last of several fields with one key counts.
* A number with a fraction, an exponent or too many digits is floating point, and so is `-0`.
-/

namespace BinaryCoverage.Json

/-- Reads a part of a document; the number says how many more levels may be opened. -/
abbrev Decoder (α : Type) : Type := Nat → Raw → Option α

/-- One more level opened, if that leaves one to spare. -/
def descend? : Nat → Option Nat
  | level + 2 => some (level + 1)
  | _ => none

/-- The number of levels that a document starts with. -/
def levels : Nat := 128

/-! ## Strings -/

/-- The characters of a string; a surrogate stands only in a pair. -/
def charsOf? : List Piece → Option (List Char)
  | [] => some []
  | .verbatim c :: rest => (charsOf? rest).map (c :: ·)
  | .escape c :: rest => (charsOf? rest).map (c :: ·)
  | .unit high :: .unit low :: rest =>
      if 0xD800 ≤ high && high < 0xDC00 then
        if 0xDC00 ≤ low && low < 0xE000 then
          (charsOf? rest).map (Char.ofNat (0x10000 + (high - 0xD800) * 0x400 + (low - 0xDC00)) :: ·)
        else none
      else if 0xDC00 ≤ high && high < 0xE000 then none
      else (charsOf? (.unit low :: rest)).map (Char.ofNat high :: ·)
  | .unit code :: rest =>
      if 0xD800 ≤ code && code < 0xE000 then none
      else (charsOf? rest).map (Char.ofNat code :: ·)

def textOf? (pieces : List Piece) : Option String := (charsOf? pieces).map String.ofList

/-- The characters of a string in which nothing is escaped. -/
def plainOf? : List Piece → Option (List Char)
  | [] => some []
  | .verbatim c :: rest => (plainOf? rest).map (c :: ·)
  | _ :: _ => none

/-! ## Numbers -/

/-- A whole number without a sign, below `limit`. -/
def wholeOf? (limit : Nat) (n : RawNumber) : Option Nat :=
  if n.negative || n.fraction.isSome || n.exponent.isSome then none
  else (Text.digits? 10 n.whole).filter (· < limit)

/-- Reads digits into a word of 64 bits; further ones are only counted once it is full. -/
def significandOf : Nat → List Char → Nat × Nat
  | n, [] => (n, 0)
  | n, c :: cs =>
      let next := n * 10 + (c.toNat - '0'.toNat)
      if next < UInt64.size then significandOf next cs else (n, (c :: cs).length)

/-- A word of 64 bits times a power of ten, in steps of one multiplication or division each. -/
def scaleFloat? : Nat → Binary64 → Int → Option Binary64
  | 0, _, _ => none
  | fuel + 1, f, power =>
      -- Powers of ten up to this one are numbers themselves.
      if power.natAbs ≤ 308 then
        let unit := Binary64.ofDecimal false 1 power.natAbs
        if 0 ≤ power then some (f.mul unit) |>.filter (·.isFinite) else some (f.div unit)
      else if f.isZero then some f
      else if 0 ≤ power then none
      else scaleFloat? fuel (f.div (Binary64.ofDecimal false 1 308)) (power + 308)

/-- The floating-point number of a word of 64 bits times a power of ten. -/
def floatOf? (negative : Bool) (significand : Nat) (power : Int) : Option Binary64 :=
  (scaleFloat? (power.natAbs + 1) (Binary64.ofNat significand) power).map fun f =>
    if negative then f.neg else f

/-- The exponent of a number, bounded by what a word of 32 bits holds; `none` beyond it. -/
def exponentOf? (digits : List Char) : Option Nat := (Text.digits? 10 digits).filter (· < 1 <<< 31)

/-- A number as floating point; `none` when it is out of range. -/
def floatNumber? (n : RawNumber) : Option Binary64 :=
  -- Digits before the point that are cut off raise the power; those behind it do not lower it.
  let (whole, cut) := significandOf 0 n.whole
  let (significand, power) : Nat × Int :=
    match n.fraction with
    | none => (whole, cut)
    | some digits =>
        let (significand, rest) := significandOf whole digits
        (significand, (cut : Int) - (digits.length - rest : Nat))
  match n.exponent with
  | none => floatOf? n.negative significand power
  | some (down, digits) =>
      match exponentOf? digits with
      | some e =>
          -- The power stays within a signed word of 32 bits.
          let power := max (-0x80000000) (min 0x7FFFFFFF (if down then power - e else power + e))
          floatOf? n.negative significand power
      | none =>
          if significand ≠ 0 && !down then none else some (Binary64.zero n.negative)

/-- The value of a number: whole where it fits a word, floating point otherwise. -/
def numberOf? (n : RawNumber) : Option Json :=
  match n.fraction, n.exponent, Text.digits? 10 n.whole with
  | none, none, some v =>
      if h : v ≤ 0xFFFFFFFFFFFFFFFF ∧ n.negative = false then
        some (.integer (.ofNat v h.1))
      -- Negative zero is no whole number.
      else if h : n.negative = true ∧ 0 < v ∧ v ≤ 0x8000000000000000 then
        some (.integer (.ofNegative v h.2.2))
      else (floatNumber? n).map .float
  | _, _, _ => (floatNumber? n).map .float

/-! ## Any value -/

mutual

/-- The value of a part of a document, with the fields of objects as they come. -/
def valueOf? (level : Nat) : Raw → Option Json
  | .null => some .null
  | .bool b => some (.bool b)
  | .number n => numberOf? n
  | .string pieces => (textOf? pieces).map .string
  | .array items => (descend? level).bind fun level => (itemsOf? level items).map .array
  | .object fields => (descend? level).bind fun level => (fieldsOf? level fields).map .object

def itemsOf? (level : Nat) : List Raw → Option (List Json)
  | [] => some []
  | item :: rest => do
      let item ← valueOf? level item
      let rest ← itemsOf? level rest
      some (item :: rest)

def fieldsOf? (level : Nat) : List (List Piece × Raw) → Option (List (String × Json))
  | [] => some []
  | (key, value) :: rest => do
      let key ← textOf? key
      let value ← valueOf? level value
      let rest ← fieldsOf? level rest
      some ((key, value) :: rest)

end

namespace Decoder

def any : Decoder Json := fun level raw => valueOf? level raw

def payload : Decoder Payload := fun level raw => (any level raw).map Payload.ofJson

def text : Decoder String
  | _, .string pieces => textOf? pieces
  | _, _ => none

def flag : Decoder Bool
  | _, .bool b => some b
  | _, _ => none

def word32 : Decoder UInt32
  | _, .number n => (wholeOf? UInt32.size n).map UInt32.ofNat
  | _, _ => none

def word64 : Decoder UInt64
  | _, .number n => (wholeOf? UInt64.size n).map UInt64.ofNat
  | _, _ => none

/-- `null`, or a value. -/
def nullable {α : Type} (item : Decoder α) : Decoder (Option α)
  | _, .null => some none
  | level, raw => (item level raw).map some

def list {α : Type} (item : Decoder α) : Decoder (List α)
  | level, .array items => (descend? level).bind fun level => items.mapM (item level)
  | _, _ => none

/-- An array of exactly two parts. -/
def pair {α β : Type} (first : Decoder α) (second : Decoder β) : Decoder (α × β)
  | level, .array [a, b] => do
      let level ← descend? level
      let a ← first level a
      let b ← second level b
      some (a, b)
  | _, _ => none

/-- An object with one entry per key. -/
def table {κ α : Type} [Ord κ] [Std.TransOrd κ] (key : List Piece → Option κ) (item : Decoder α) :
    Decoder (Table κ α)
  | level, .object fields => do
      let level ← descend? level
      let entries ← fields.mapM fun (k, v) => do
        let k ← key k
        let v ← item level v
        some (k, v)
      some (Table.build entries)
  | _, _ => none

/-- The digits of a number as JSON writes them: no zero leads others. -/
def keyDigits? (pieces : List Piece) : Option (List Char) :=
  (plainOf? pieces).filter fun cs => cs.length ≤ 1 || cs.head? ≠ some '0'

/-- A key that is a number of 32 bits. -/
def key32? (pieces : List Piece) : Option UInt32 := do
  let n ← Text.digits? 10 (← keyDigits? pieces)
  if n < UInt32.size then some (UInt32.ofNat n) else none

/-- A key that is a number of 64 bits. -/
def key64? (pieces : List Piece) : Option UInt64 := do
  let n ← Text.digits? 10 (← keyDigits? pieces)
  if n < UInt64.size then some (UInt64.ofNat n) else none

end Decoder

/-! ## Records -/

/-- The known fields of a record that are there, and the level inside it. -/
structure Fields where
  level : Nat
  present : List (String × Raw)

namespace Fields

/-- Collects the fields with a known name, each at most once; the others are skipped. -/
def collect? (names : List String) :
    List (String × Raw) → List (List Piece × Raw) → Option (List (String × Raw))
  | found, [] => some found
  | found, (key, value) :: rest => do
      let name ← textOf? key
      if names.contains name then
        guard !(found.any (·.1 == name))
        collect? names ((name, value) :: found) rest
      else
        collect? names found rest

/-- The fields of a record with the given names. -/
def of? (names : List String) (level : Nat) : Raw → Option Fields
  | .object fields => do
      let level ← descend? level
      let present ← collect? names [] fields
      some ⟨level, present⟩
  | .array items => do
      let level ← descend? level
      -- Fields that are left out at the end may be optional.
      guard (items.length ≤ names.length)
      some ⟨level, names.zip items⟩
  | _ => none

def find? (f : Fields) (name : String) : Option Raw := f.present.lookup name

/-- A field that has to be there. -/
def required {α : Type} (f : Fields) (name : String) (item : Decoder α) : Option α := do
  item f.level (← f.find? name)

/-- A field that may be missing. -/
def optional {α : Type} (f : Fields) (name : String) (missing : α) (item : Decoder α) :
    Option α :=
  match f.find? name with
  | none => some missing
  | some raw => item f.level raw

end Fields

/-- The value that makes up a whole document. -/
def read? (text : String) : Option Json := do valueOf? levels (← Raw.read? text)

end BinaryCoverage.Json
