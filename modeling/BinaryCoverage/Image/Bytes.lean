import BinaryCoverage.Text.Utf8

/-!
# Reading numbers and names from bytes

Numbers stand in a fixed number of bytes, in either byte order.  A name table holds names that end
in a zero byte.  Nothing is read beyond the end.
-/

namespace BinaryCoverage

/-- Where bytes are read from, and whether the byte of most weight comes first. -/
structure ByteSource where
  bytes : ByteArray
  bigEndian : Bool

namespace ByteSource

def size (s : ByteSource) : Nat := s.bytes.size

/-- The number that bytes denote when the last of them has most weight. -/
def number : List UInt8 → Nat
  | [] => 0
  | b :: rest => b.toNat + 256 * number rest

/-- The number in `width` bytes. -/
def number? (s : ByteSource) (offset width : Nat) : Option Nat :=
  if offset + width ≤ s.size then
    let bytes := (s.bytes.extract offset (offset + width)).toList
    some (number (if s.bigEndian then bytes.reverse else bytes))
  else none

/-- The numbers in fields of the given widths, one after the other. -/
def numbers? (s : ByteSource) : Nat → List Nat → Option (List Nat)
  | _, [] => some []
  | offset, width :: rest => do
      let n ← s.number? offset width
      let more ← numbers? s (offset + width) rest
      some (n :: more)

/-- Whether a stretch lies within the bytes; it has to begin before their end. -/
def covers (s : ByteSource) (offset length : Nat) : Bool :=
  offset < s.size && offset + length ≤ s.size

end ByteSource

/-- The bytes of a table of names, which are well-formed text. -/
structure NameTable where
  bytes : ByteArray := ByteArray.empty

namespace NameTable

/-- The table in a stretch of bytes. -/
def read? (s : ByteSource) (offset length : Nat) : Option NameTable := do
  guard (offset + length ≤ s.size)
  let bytes := s.bytes.extract offset (offset + length)
  -- One name that is no text spoils the whole table.
  let _ ← Text.ofBytes? bytes
  some ⟨bytes⟩

/-- A byte that begins no character. -/
def isContinuation (b : UInt8) : Bool := 0x80 ≤ b.toNat && b.toNat < 0xC0

/-- The bytes from an offset up to a zero byte. -/
def bytesAt (t : NameTable) (offset : Nat) : List UInt8 :=
  (t.bytes.extract offset t.bytes.size).toList.takeWhile (· != 0)

/-- The name at an offset, which may lie inside a longer name.  The end of a table that ends inside
a name counts as the end of that name. -/
def name? (t : NameTable) (offset : Nat) : Option String := do
  match t.bytes[offset]? with
  | some b =>
      -- An offset into the middle of a character has no name.
      guard (!isContinuation b)
      Text.ofBytes? ⟨(t.bytesAt offset).toArray⟩
  | none =>
      let last ← t.bytes[t.bytes.size - 1]?
      if offset = t.bytes.size ∧ last ≠ 0 then some "" else none

end NameTable

end BinaryCoverage
