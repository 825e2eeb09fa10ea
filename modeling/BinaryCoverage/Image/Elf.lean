import BinaryCoverage.Failure
import BinaryCoverage.Files.Tree
import BinaryCoverage.Image.Basic
import BinaryCoverage.Image.Bytes

/-!
# ELF files

An ELF file has a header, program headers, section headers and what these point to; addresses have
32 or 64 bits.  A file in which something lies outside its bytes is refused as a whole, also where
nothing of it is used.  This file defines:

* `Elf.read?` — the image in the bytes of a file;
* `Image.load` — the image in a file of a tree.
-/

namespace BinaryCoverage

namespace Elf

/-- The bytes of a file, and whether its addresses have 64 bits. -/
structure Source extends ByteSource where
  wide : Bool

/-- The width of an address. -/
def Source.address (s : Source) : Nat := if s.wide then 8 else 4

/-- The numbers in the fields of a record that begins before the end of the file. -/
def Source.record? (s : Source) (offset : Nat) (widths : List Nat) : Option (List Nat) :=
  if offset < s.size then s.numbers? offset widths else none

/-- The records of a table, one right after the other. -/
def table? {α : Type} (item : Nat → Option α) (size : Nat) : Nat → Nat → Option (List α)
  | _, 0 => some []
  | offset, n + 1 => do
      let a ← item offset
      let rest ← table? item size (offset + size) n
      some (a :: rest)

/-! ## Headers -/

structure Header where
  machine : Nat
  programOffset : Nat
  sectionOffset : Nat
  programCount : Nat
  sectionCount : Nat
  namesIndex : Nat

def header? (s : Source) : Option Header := do
  let a := s.address
  -- The first 16 bytes are those that `source?` reads.
  match ← s.record? 16 [2, 2, 4, a, a, a, 4, 2, 2, 2, 2, 2, 2] with
  | [_, machine, _, _, programOffset, sectionOffset, _, _, _, programCount, _, sectionCount,
      namesIndex] =>
      some ⟨machine, programOffset, sectionOffset, programCount, sectionCount, namesIndex⟩
  | _ => none

structure Segment where
  kind : Nat
  offset : Nat
  address : Nat
  fileSize : Nat
  memorySize : Nat

def Source.segmentSize (s : Source) : Nat := if s.wide then 56 else 32

def segment? (s : Source) (offset : Nat) : Option Segment := do
  -- The fields do not come in one order: with wide addresses the flags are second.
  if s.wide then
    match ← s.record? offset [4, 4, 8, 8, 8, 8, 8, 8] with
    | [kind, _, offset, address, _, fileSize, memorySize, _] =>
        some ⟨kind, offset, address, fileSize, memorySize⟩
    | _ => none
  else
    match ← s.record? offset [4, 4, 4, 4, 4, 4, 4, 4] with
    | [kind, offset, address, _, fileSize, memorySize, _, _] =>
        some ⟨kind, offset, address, fileSize, memorySize⟩
    | _ => none

def segments? (s : Source) (h : Header) : Option (List Segment) := do
  guard (h.programCount ≤ s.size / s.segmentSize)
  table? (segment? s) s.segmentSize h.programOffset h.programCount

structure SectionHeader where
  name : Nat
  kind : Nat
  flags : Nat
  address : Nat
  offset : Nat
  size : Nat
  link : Nat
  entrySize : Nat
  deriving Inhabited

def Source.sectionSize (s : Source) : Nat := if s.wide then 64 else 40

def section? (s : Source) (offset : Nat) : Option SectionHeader := do
  let a := s.address
  match ← s.record? offset [4, 4, a, a, a, a, 4, 4, a, a] with
  | [name, kind, flags, address, offset, size, link, _, _, entrySize] =>
      some ⟨name, kind, flags, address, offset, size, link, entrySize⟩
  | _ => none

/-- The section headers.  A count of zero means that the first one holds the count as its size. -/
def sections? (s : Source) (h : Header) : Option (List SectionHeader) :=
  if h.sectionOffset = 0 then some []
  else do
    let first ← section? s h.sectionOffset
    let count := if h.sectionCount = 0 then first.size else h.sectionCount
    guard (count ≤ s.size / s.sectionSize)
    let rest ← table? (section? s) s.sectionSize (h.sectionOffset + s.sectionSize) (count - 1)
    some (first :: rest)

/-! ## Names -/

/-- Whether the bytes of a section lie within the file and its addresses end before `2 ^ 64`. -/
def SectionHeader.isInside (x : SectionHeader) (s : Source) : Bool :=
  -- Kind 8 takes up no bytes of the file.
  x.kind = 8 || x.size = 0 || (x.offset + x.size ≤ s.size && x.address + x.size < UInt64.size)

/-- The name table in the section with a given index; none of that index means an empty table. -/
def names? (s : Source) (sections : List SectionHeader) (index : Nat) : Option NameTable :=
  let index := if index = 0xFFFF then (sections.head?).map (·.link) else some index
  match index.bind (sections[·]?) with
  | none => some {}
  | some x => if x.isInside s then NameTable.read? s.toByteSource x.offset x.size else none

/-! ## Symbols -/

structure SymbolEntry where
  name : Nat
  info : Nat
  sectionIndex : Nat
  value : Nat
  size : Nat

def Source.symbolSize (s : Source) : Nat := if s.wide then 24 else 16

def symbol? (s : Source) (offset : Nat) : Option SymbolEntry := do
  if s.wide then
    match ← s.record? offset [4, 1, 1, 2, 8, 8] with
    | [name, info, _, sectionIndex, value, size] => some ⟨name, info, sectionIndex, value, size⟩
    | _ => none
  else
    match ← s.record? offset [4, 4, 4, 1, 1, 2] with
    | [name, value, size, info, _, sectionIndex] => some ⟨name, info, sectionIndex, value, size⟩
    | _ => none

/-- The symbols of a table, which has to begin within the file even if it is empty. -/
def symbols? (s : Source) (offset count : Nat) : Option (List SymbolEntry) := do
  guard (s.covers offset (count * s.symbolSize))
  table? (symbol? s) s.symbolSize offset count

/-- The symbols of the last symbol table, with their names. -/
def namedSymbols? (s : Source) (sections : List SectionHeader) :
    Option (List SymbolEntry × NameTable) :=
  -- Kind 2 is a symbol table, as opposed to that of dynamic linking.
  match sections.reverse.find? (·.kind = 2) with
  | none => some ([], {})
  | some x => do
      let count := if x.entrySize = 0 then 0 else x.size / x.entrySize
      let symbols ← symbols? s x.offset count
      let names ← names? s sections x.link
      some (symbols, names)

/-! ## Relocations -/

/-- The size of a relocation, which may have an addend of its own. -/
def Source.relocationSize (s : Source) (addend : Bool) : Nat :=
  if s.wide then (if addend then 24 else 16) else if addend then 12 else 8

/-- The symbols that relocations refer to. -/
def relocatedSymbols? (s : Source) (offset size : Nat) (addend : Bool) : Option (List Nat) := do
  if size = 0 then some []
  else
    guard (s.covers offset size)
    -- The symbol is in the upper part of the second field.
    let item (start : Nat) : Option Nat :=
      (s.number? (start + s.address) s.address).map (· >>> (if s.wide then 32 else 8))
    table? item (s.relocationSize addend) offset (size / s.relocationSize addend)

/-- Whether the relocations of every section lie within the file. -/
def relocationsInside (s : Source) (sections : List SectionHeader) : Bool :=
  sections.all fun x =>
    -- Relocations with an addend are of kind 4, others of kind 9.
    !(x.kind = 4 || x.kind = 9) ||
      (x.isInside s && (x.size = 0 || s.covers x.offset x.size))

/-- Whether the first section of a given kind lies within the file. -/
def firstInside (s : Source) (sections : List SectionHeader) (kind : Nat) : Bool :=
  match sections.find? (·.kind = kind) with
  | none => true
  | some x => s.covers x.offset x.size

/-! ## Dynamic linking -/

/-- The place in the file of an address in memory. -/
def fileOffset? (segments : List Segment) (address : Nat) : Option Nat := do
  -- Kind 1 is loaded into memory.
  let g ← segments.find? fun g =>
    g.kind = 1 && g.address ≤ address && address - g.address < g.memorySize
  let offset := g.offset + (address - g.address)
  if offset < UInt64.size then some offset else none

/-- The entries of a dynamic section, up to the first with a tag of zero. -/
def dynamicEntries? (s : Source) : Nat → Nat → Option (List (Nat × Nat))
  | _, 0 => some []
  | offset, n + 1 => do
      match ← s.numbers? offset [s.address, s.address] with
      | [tag, value] =>
          if tag = 0 then some []
          else
            let rest ← dynamicEntries? s (offset + 2 * s.address) n
            some ((tag, value) :: rest)
      | _ => none

/-- The value of the last entry with a given tag. -/
def lastValue? (entries : List (Nat × Nat)) (tag : Nat) : Option Nat :=
  (entries.reverse.find? (·.1 = tag)).map (·.2)

/-- The greatest of the numbers in a stretch of words of 32 bits. -/
def greatestWord? (s : Source) (offset : Nat) : Nat → Option Nat
  | 0 => some 0
  | n + 1 => do
      let w ← s.number? offset 4
      let rest ← greatestWord? s (offset + 4) n
      some (max w rest)

/-- The number of words up to the first odd one. -/
def chainLength? (s : Source) : Nat → Nat → Option Nat
  | 0, _ => none
  | fuel + 1, offset => do
      let w ← s.number? offset 4
      if w % 2 = 1 then some 1 else (chainLength? s fuel (offset + 4)).map (· + 1)

/-- The number of symbols that a hash table with a filter accounts for. -/
def filteredCount? (s : Source) (offset : Nat) : Option Nat := do
  let buckets ← s.number? offset 4
  let least ← s.number? (offset + 4) 4
  let filters ← s.number? (offset + 8) 4
  guard (buckets ≠ 0 && least ≠ 0 && filters ≠ 0)
  let start := offset + 16 + filters * s.address
  guard (start + buckets * 4 ≤ s.size)
  -- The chain of the bucket that starts last holds the last symbol.
  let greatest ← greatestWord? s start buckets
  if greatest < least then some 0
  else
    let chain := start + buckets * 4 + (greatest - least) * 4
    (chainLength? s (s.size + 1) chain).map (greatest + ·)

/-- The number of symbols that a plain hash table accounts for. -/
def hashedCount? (s : Source) (machine offset : Nat) : Option Nat :=
  -- Two machines use wide words in this table.
  s.number? (offset + 4) (if (machine = 41 || machine = 22) && s.wide then 8 else 4)

/-- Whether everything that the first dynamic segment points to lies within the file. -/
def dynamicInside? (s : Source) (h : Header) (segments : List Segment) : Option Unit :=
  -- Kind 2 describes dynamic linking.
  match segments.find? (·.kind = 2) with
  | none => some ()
  | some g => do
      guard (g.fileSize = 0 || s.covers g.offset g.fileSize)
      let entries ← dynamicEntries? s g.offset (g.fileSize / (2 * s.address))
      let value (tag : Nat) : Nat := (lastValue? entries tag).getD 0
      let place? (tag : Nat) : Option Nat := (lastValue? entries tag).bind (fileOffset? segments)
      let place (tag : Nat) : Nat := (place? tag).getD 0
      -- Tag 5 has the names, and tag 10 their size.
      let _ ← NameTable.read? s.toByteSource (place 5) (value 10)
      -- Relocations come in three groups; tag 20 says of which form those of the last are.
      let withAddend ← relocatedSymbols? s (place 7) (value 8) true
      let plain ← relocatedSymbols? s (place 17) (value 18) false
      let linkage ← relocatedSymbols? s (place 23) (value 2) (value 20 = 7)
      let hashed ←
        match place? 0x6FFFFEF5, place? 4 with
        | some offset, _ => filteredCount? s offset
        | none, some offset => hashedCount? s h.machine offset
        | none, none => some 0
      -- Nothing says how many symbols there are: it takes as many as are referred to.
      let greatest := (withAddend ++ plain ++ linkage).foldl max 0
      let count := if greatest = 0 then hashed else max hashed (greatest + 1)
      guard (s.covers (place 6) (count * s.symbolSize))

/-! ## Images -/

/-- The source that the first 16 bytes of a file describe. -/
def source? (bytes : ByteArray) : Option Source := do
  match (bytes.extract 0 16).toList with
  | 0x7F :: 0x45 :: 0x4C :: 0x46 :: width :: order :: _ =>
      guard (16 ≤ bytes.size && (width = 1 || width = 2) && (order = 1 || order = 2))
      some { bytes, bigEndian := order = 2, wide := width = 2 }
  | _ => none

def word (n : Nat) : UInt64 := UInt64.ofNat n

def imageSection (names : NameTable) (x : SectionHeader) : ImageSection where
  name := names.name? x.name
  -- The third bit of the flags.
  executable := x.flags / 4 % 2 = 1
  start := word x.address
  size := word x.size

def imageSymbol (names : NameTable) (x : SymbolEntry) : ImageSymbol where
  name := names.name? x.name
  -- The lower half of the information is the type, of which 2 is a function.
  isFunction := x.info % 16 = 2
  isDefined := x.sectionIndex ≠ 0
  value := word x.value
  size := word x.size

/-- The image in the bytes of a file. -/
def read? (bytes : ByteArray) : Option Image := do
  let s ← source? bytes
  let h ← header? s
  let segments ← segments? s h
  let sections ← sections? s h
  let sectionNames ← names? s sections h.namesIndex
  let (symbols, names) ← namedSymbols? s sections
  dynamicInside? s h segments
  guard (relocationsInside s sections)
  -- The sections with versions of symbols.
  guard ([0x6FFFFFFF, 0x6FFFFFFD, 0x6FFFFFFE].all (firstInside s sections))
  some
    { sections := sections.map (imageSection sectionNames)
      symbols := symbols.map (imageSymbol names)
      -- Machine 40 has two instruction sets, told apart by the lowest bit of an address.
      marksThumb := h.machine = 40 }

end Elf

/-- The image in bytes. -/
def Image.ofBytes (bytes : ByteArray) : Except Failure Image :=
  match Elf.read? bytes with
  | some image => .ok image
  | none => .error (.configuration .unreadableImage)

/-- The image in a file. -/
def Image.load (t : FileTree) (p : Path) : Except Failure Image :=
  if t.isFile p then
    match t.read p with
    | .error e => .error (.access p e)
    | .ok bytes => Image.ofBytes bytes
  else .error (.missingBinary p)

end BinaryCoverage
