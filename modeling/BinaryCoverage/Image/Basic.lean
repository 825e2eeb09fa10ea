import BinaryCoverage.Image.Functions
import BinaryCoverage.Image.Ranges

/-!
# Images

An image is what an ELF file says about its sections and symbols.  This file defines:

* `Image.codeSections` — the executable sections;
* `Image.ranges` — the ranges of code and data that its mapping symbols delimit;
* `Image.functionSymbols` — the functions that it defines.
-/

namespace BinaryCoverage

structure ImageSection where
  name : Option String
  executable : Bool
  start : UInt64
  size : UInt64
  deriving DecidableEq, Repr

structure ImageSymbol where
  name : Option String
  isFunction : Bool
  /-- Whether the symbol belongs to a section of the image. -/
  isDefined : Bool
  value : UInt64
  size : UInt64
  deriving DecidableEq, Repr

structure Image where
  sections : List ImageSection
  symbols : List ImageSymbol
  /-- Whether the lowest bit of a code address is no part of it. -/
  marksThumb : Bool
  deriving DecidableEq, Repr

/-- A stretch of executable addresses. -/
structure CodeSection where
  name : String
  start : UInt64
  size : UInt64
  deriving DecidableEq, Repr

/-- The address right after a stretch; the greatest one where there is none. -/
def stretchEnd (start size : UInt64) : UInt64 :=
  if start.toNat + size.toNat < UInt64.size then start + size else UInt64.ofNat (UInt64.size - 1)

namespace Image

def codeSections (i : Image) : List CodeSection :=
  (i.sections.filter fun s => s.executable && 0 < s.size).map fun s =>
    ⟨s.name.getD "", s.start, s.size⟩

/-- The marker of a mapping symbol. -/
def marker? (s : ImageSymbol) : Option RangeMarker := do
  let kind ← MarkerKind.ofSymbol? (← s.name)
  some ⟨s.value, kind⟩

/-- The mapping symbols, and the ends of the executable sections. -/
def markers (i : Image) : List RangeMarker :=
  i.symbols.filterMap marker? ++
    i.codeSections.map fun s => ⟨stretchEnd s.start s.size, .sectionEnd⟩

def ranges (i : Image) : List AddressRange := rangesOf i.markers

/-- The address that a symbol value denotes. -/
def codeAddress (i : Image) (value : UInt64) : UInt64 :=
  if i.marksThumb then value - value % 2 else value

def functionSymbol? (i : Image) (s : ImageSymbol) : Option FunctionSymbol := do
  guard (s.isFunction && s.isDefined)
  let name ← s.name
  guard (name ≠ "")
  let start := i.codeAddress s.value
  some { name, start, stop := stretchEnd start s.size }

def functionSymbols (i : Image) : List FunctionSymbol := i.symbols.filterMap i.functionSymbol?

def functions (i : Image) : FunctionTable := .ofSymbols i.functionSymbols

/-- What is reported about the functions of an image. -/
def notices (i : Image) : List Notice := FunctionTable.notices i.functionSymbols

end Image

end BinaryCoverage
