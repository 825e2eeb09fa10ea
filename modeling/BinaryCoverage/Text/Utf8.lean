/-!
# Reading bytes as text

Well-formed UTF-8 is read as it stands.  In other byte strings each longest beginning of a
character that goes no further is replaced by one replacement character.
-/

namespace BinaryCoverage.Text

/-- What stands for bytes that form no character. -/
def replacement : Char := Char.ofNat 0xFFFD

/-- A continuation byte within the given bounds. -/
private def continues (low high : Nat) : List UInt8 → Option (Nat × List UInt8)
  | [] => none
  | b :: rest => if low ≤ b.toNat && b.toNat ≤ high then some (b.toNat % 64, rest) else none

/-- The character that starts with byte `a` and the number of bytes of `rest` that belong to it. -/
private def sequence (a : UInt8) (rest : List UInt8) : Char × Nat :=
  let n := a.toNat
  if n < 0x80 then
    (Char.ofNat n, 0)
  else if 0xC2 ≤ n && n ≤ 0xDF then
    match continues 0x80 0xBF rest with
    | some (x, _) => (Char.ofNat ((n - 0xC0) * 64 + x), 1)
    | none => (replacement, 0)
  else if 0xE0 ≤ n && n ≤ 0xEF then
    match continues (if n == 0xE0 then 0xA0 else 0x80) (if n == 0xED then 0x9F else 0xBF) rest with
    | none => (replacement, 0)
    | some (x, rest) =>
        match continues 0x80 0xBF rest with
        | some (y, _) => (Char.ofNat (((n - 0xE0) * 64 + x) * 64 + y), 2)
        | none => (replacement, 1)
  else if 0xF0 ≤ n && n ≤ 0xF4 then
    match continues (if n == 0xF0 then 0x90 else 0x80) (if n == 0xF4 then 0x8F else 0xBF) rest with
    | none => (replacement, 0)
    | some (x, rest) =>
        match continues 0x80 0xBF rest with
        | none => (replacement, 1)
        | some (y, rest) =>
            match continues 0x80 0xBF rest with
            | some (z, _) => (Char.ofNat ((((n - 0xF0) * 64 + x) * 64 + y) * 64 + z), 3)
            | none => (replacement, 2)
  else
    (replacement, 0)

/-- Every character of the bytes, with replacements. -/
def lossyChars : List UInt8 → List Char
  | [] => []
  | a :: rest => (sequence a rest).1 :: lossyChars (rest.drop (sequence a rest).2)
termination_by bytes => bytes.length
decreasing_by simp only [List.length_drop, List.length_cons]; omega

/-- The text of bytes that are well-formed. -/
def ofBytes? (bytes : ByteArray) : Option String := String.fromUTF8? bytes

/-- The text of any bytes. -/
def ofBytes (bytes : ByteArray) : String :=
  match ofBytes? bytes with
  | some text => text
  | none => String.ofList (lossyChars bytes.toList)

end BinaryCoverage.Text
