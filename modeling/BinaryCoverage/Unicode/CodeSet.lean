/-!
# Sets of code points

A set of code points is kept as its boundaries in increasing order: from the first boundary up to
the second a code point belongs to the set, from there up to the third it does not, and so on.
Tables of a standard are written as the distances between boundaries in base 36.  This file
defines:

* `countUpTo` — the number of boundaries at or below a code point;
* `CodeSet.contains`, `CodeSet.ranges`, `CodeSet.ofText`;
* `CodeMap` — one value per stretch between boundaries.
-/

namespace BinaryCoverage.Unicode

/-- The number of entries of a sorted array that are at most `x`, sought between two indices. -/
def countUpTo (bounds : Array Nat) (x low high : Nat) : Nat :=
  if h : low < high then
    let mid := (low + high) / 2
    if bounds.getD mid 0 ≤ x then countUpTo bounds x (mid + 1) high
    else countUpTo bounds x low mid
  else low
termination_by high - low

structure CodeSet where
  bounds : Array Nat

/-- The value of a digit in base 36. -/
def digit36? (c : Char) : Option Nat :=
  if '0' ≤ c && c ≤ '9' then some (c.toNat - '0'.toNat)
  else if 'a' ≤ c && c ≤ 'z' then some (c.toNat - 'a'.toNat + 10)
  else none

/-- What has been read of a table: the last boundary, the digits after it, all boundaries. -/
structure TableReader where
  last : Nat := 0
  digits : Nat := 0
  bounds : Array Nat := #[]
  marks : Array Char := #[]

/-- A digit extends the distance; any other character ends it and marks what follows. -/
def TableReader.step (r : TableReader) (c : Char) : TableReader :=
  match digit36? c with
  | some d => { r with digits := r.digits * 36 + d }
  | none =>
      let next := r.last + r.digits
      { last := next, digits := 0, bounds := r.bounds.push next, marks := r.marks.push c }

def readTable (text : String) : TableReader := text.foldl TableReader.step {}

namespace CodeSet

/-- The set whose boundaries have the given distances, each ended by a blank. -/
def ofText (text : String) : CodeSet := ⟨(readTable text).bounds⟩

def contains (s : CodeSet) (c : Char) : Bool :=
  countUpTo s.bounds c.toNat 0 s.bounds.size % 2 == 1

/-- The number of stretches of which the set consists. -/
def stretches (s : CodeSet) : Nat := (s.bounds.size + 1) / 2

end CodeSet

/-- A value for every code point; it changes at the boundaries. -/
structure CodeMap where
  bounds : Array Nat
  values : Array Char

namespace CodeMap

/-- The map written as distances, each ended by the value from there on. -/
def ofText (text : String) : CodeMap :=
  let r := readTable text
  ⟨r.bounds, r.marks⟩

def get? (m : CodeMap) (c : Char) : Option Char :=
  m.values[countUpTo m.bounds c.toNat 0 m.bounds.size - 1]?

/-- The number of stretches whose value satisfies `p`. -/
def stretches (m : CodeMap) (p : Char → Bool) : Nat := (m.values.toList.filter p).length

end CodeMap

end BinaryCoverage.Unicode
