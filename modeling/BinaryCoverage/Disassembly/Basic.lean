/-!
# Annotated disassembly

A transcript is split into blocks, one per function header.  Within a block, instructions belong
to the run of the last source location before them.  This file defines:

* `FunctionBlock.resolvedRuns` — each run with the function that it belongs to: the one named last
  before it, or the label of the block;
* `FunctionBlock.homeRun?` — the first run that belongs to the label of the block.
-/

namespace BinaryCoverage

/-- An instruction; its opcode is everything after the address. -/
structure Instruction where
  address : UInt64
  opcode : String
  deriving DecidableEq

/-- The instructions attributed to one source line. -/
structure SourceRun where
  /-- The function named right before the location, if any. -/
  function : Option String
  file : String
  line : UInt32
  instructions : List Instruction
  deriving DecidableEq

structure FunctionBlock where
  address : UInt64
  label : String
  runs : List SourceRun := []
  /-- The instructions before any location. -/
  unattributed : List Instruction := []
  deriving DecidableEq

namespace FunctionBlock

def isAttributed (b : FunctionBlock) : Bool := !b.runs.isEmpty

/-- Pairs each run with its function, where `current` is the function named last. -/
def resolve : String → List SourceRun → List (String × SourceRun)
  | _, [] => []
  | current, run :: rest =>
      -- A run without a name continues the function before it.
      let owner := run.function.getD current
      (owner, run) :: resolve owner rest

def resolvedRuns (b : FunctionBlock) : List (String × SourceRun) := resolve b.label b.runs

def homeRun? (b : FunctionBlock) : Option SourceRun :=
  (b.resolvedRuns.find? (·.1 = b.label)).map (·.2)

end FunctionBlock

end BinaryCoverage
