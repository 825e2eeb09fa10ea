import BinaryCoverage.Json.Basic

/-!
# The coverage document

A document holds, per source file, its functions and its lines; a line holds the instructions that
binaries were compiled to from it, by binary and address, each with the number of times it ran.

* A declaration line of `0` is unknown, and a known one is never replaced.
* A line and a function are covered once something of theirs has run, and stay so.
-/

namespace BinaryCoverage

/-- An instruction at one address and how often it ran. -/
structure InstructionRecord where
  opcode : String
  count : UInt64
  deriving DecidableEq

/-- The instructions of one line in one binary, by address. -/
abbrev AddressTable : Type := Table UInt64 InstructionRecord

structure LineCoverage where
  covered : Bool := false
  records : Table UInt32 AddressTable := ∅
  deriving DecidableEq

structure FunctionCoverage where
  covered : Bool := false
  declaredAt : UInt32 := 0
  deriving DecidableEq

structure FileCoverage where
  functions : Table String FunctionCoverage := ∅
  lines : Table UInt32 LineCoverage := ∅
  deriving DecidableEq

/-- What a document says about the run it came from. -/
structure Provenance where
  sources : List Payload := []
  metadata : Payload := Payload.emptyText
  binaries : Table String UInt32 := ∅
  deriving DecidableEq

structure Document where
  files : Table String FileCoverage := ∅
  provenance : Provenance := {}
  deriving DecidableEq

/-! ## Lines -/

namespace LineCoverage

/-- Notes an instruction; a repeated address overwrites. -/
def record (l : LineCoverage) (binary : UInt32) (address : UInt64) (opcode : String)
    (count : UInt64) : LineCoverage where
  -- A count that is overwritten has covered the line for good.
  covered := l.covered || 0 < count
  records := l.records.update binary ∅ (·.insert address ⟨opcode, count⟩)

/-- The opcodes of the line, binary by binary and in order of addresses. -/
def opcodes (l : LineCoverage) : List String :=
  l.records.toList.flatMap fun (_, byAddress) => byAddress.toList.map (·.2.opcode)

end LineCoverage

/-! ## Functions -/

namespace FunctionCoverage

/-- Gives the declaration line where it is unknown. -/
def declare (f : FunctionCoverage) (line : UInt32) : FunctionCoverage :=
  if f.declaredAt = 0 then { f with declaredAt := line } else f

end FunctionCoverage

/-! ## Files -/

namespace FileCoverage

/-- Gets or creates a function and changes it, after its declaration line is given. -/
def updateFunction (c : FileCoverage) (name : String) (line : UInt32)
    (f : FunctionCoverage → FunctionCoverage) : FileCoverage :=
  { c with functions := c.functions.update name {} fun entry => f (entry.declare line) }

def declareFunction (c : FileCoverage) (name : String) (line : UInt32) : FileCoverage :=
  c.updateFunction name line id

def setFunction (c : FileCoverage) (name : String) (line : UInt32) (covered : Bool) :
    FileCoverage :=
  c.updateFunction name line ({ · with covered })

def updateLine (c : FileCoverage) (line : UInt32) (f : LineCoverage → LineCoverage) :
    FileCoverage :=
  { c with lines := c.lines.update line {} f }

def isLineCovered (c : FileCoverage) (line : UInt32) : Bool :=
  (c.lines[line]?).any (·.covered)

end FileCoverage

/-! ## Documents -/

namespace Document

/-- Gets or creates a file and changes it. -/
def updateFile (d : Document) (key : String) (f : FileCoverage → FileCoverage) : Document :=
  { d with files := d.files.update key {} f }

def file? (d : Document) (key : String) : Option FileCoverage := d.files[key]?

end Document

end BinaryCoverage
