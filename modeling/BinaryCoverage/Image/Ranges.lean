import BinaryCoverage.Text.Blank

/-!
# Code and data ranges

Markers divide the addresses of an image: a mapping symbol begins code or data, and the end of an
executable section ends either.  This file defines:

* `MarkerKind.ofSymbol?` — the kind of marker that a symbol name denotes;
* `RangeMarker.sort` — markers by address, section ends first, else in the given order;
* `rangesOf` — the stretches from one kind of marker to the next of another kind.
-/

namespace BinaryCoverage

inductive RangeKind where
  | code
  | data
  deriving DecidableEq, Repr

/-- The addresses from `first` up to `last`, both included. -/
structure AddressRange where
  first : UInt64
  last : UInt64
  kind : RangeKind
  deriving DecidableEq, Repr

def AddressRange.contains (r : AddressRange) (address : UInt64) : Bool :=
  r.first ≤ address && address ≤ r.last

/-- Whether an address lies in one of the ranges of code. -/
def inCode (ranges : List AddressRange) (address : UInt64) : Bool :=
  ranges.any fun r => r.kind = .code && r.contains address

inductive MarkerKind where
  | code
  | data
  | sectionEnd
  deriving DecidableEq, Repr

/-- The kind of range that a marker opens. -/
def MarkerKind.opens? : MarkerKind → Option RangeKind
  | .code => some .code
  | .data => some .data
  | .sectionEnd => none

/-- The kind that a mapping symbol denotes: the part before any dot decides. -/
def MarkerKind.ofSymbol? (name : String) : Option MarkerKind :=
  let base := name.toList.takeWhile (· != '.')
  if base = ['$', 'x'] || base = ['$', 'a'] || base = ['$', 't'] then some .code
  else if base = ['$', 'd'] then some .data
  else none

structure RangeMarker where
  address : UInt64
  kind : MarkerKind
  deriving DecidableEq, Repr

namespace RangeMarker

/-- By address, and a section end before other markers at its address. -/
def precedes (a b : RangeMarker) : Bool :=
  -- Other markers of one address count as equal, so that sorting leaves them in their order.
  a.address < b.address ||
    (a.address == b.address && (a.kind = .sectionEnd || b.kind ≠ .sectionEnd))

def sort (markers : List RangeMarker) : List RangeMarker := markers.mergeSort precedes

end RangeMarker

/-- The range from `start` up to right before `stop`, if it is one and not empty. -/
def rangeBetween? (start : UInt64) (kind : MarkerKind) (stop : UInt64) : Option AddressRange :=
  match kind.opens? with
  | none => none
  | some k => if start < stop then some ⟨start, stop - 1, k⟩ else none

/-- The ranges of sorted markers, where a stretch of `kind` has begun at `start`.  The last
stretch has no end and gives no range. -/
def rangesFrom (start : UInt64) (kind : MarkerKind) : List RangeMarker → List AddressRange
  | [] => []
  | m :: rest =>
      -- A marker of the kind that has begun changes nothing.
      if m.kind = kind then rangesFrom start kind rest
      else (rangeBetween? start kind m.address).toList ++ rangesFrom m.address m.kind rest

/-- The ranges that markers in any order delimit. -/
def rangesOf (markers : List RangeMarker) : List AddressRange :=
  match RangeMarker.sort markers with
  | [] => []
  | m :: rest => rangesFrom m.address m.kind rest

end BinaryCoverage
