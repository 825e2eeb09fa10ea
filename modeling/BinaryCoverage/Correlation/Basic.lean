import BinaryCoverage.Correlation.Declarations
import BinaryCoverage.Correlation.Mapping
import BinaryCoverage.Correlation.Registry
import BinaryCoverage.Coverage.Basic
import BinaryCoverage.Disassembly.Transcript
import BinaryCoverage.Image.Functions
import BinaryCoverage.Trace.Store

/-!
# Correlation

A transcript says which source line each instruction of a binary comes from, and a trace store how
often it ran.  Correlating the two, binary by binary, builds the coverage document.  A lookup may
fail on the way; what has been noted until then stays.  This file defines:

* `Correlator` — what has been built so far;
* `FileCoverage.recordRun` — what one source run adds to its file;
* `Progress.block` — what one function block adds;
* `Correlator.correlate` — what the transcript of a binary adds.
-/

namespace BinaryCoverage

open Disassembly (Transcript)

/-! ## Runs -/

/-- Notes the instructions of a run under its line. -/
def LineCoverage.recordAll (l : LineCoverage) (binary : UInt32) (traces : TraceStore)
    (instructions : List Instruction) : LineCoverage :=
  instructions.foldl (fun l i => l.record binary i.address i.opcode (traces.count i.address)) l

namespace TraceStore

/-- The instructions that ran. -/
def executed (s : TraceStore) (instructions : List Instruction) : List Instruction :=
  instructions.filter fun i => 0 < s.count i.address

def hasRun (s : TraceStore) (run : SourceRun) : Bool := !(s.executed run.instructions).isEmpty

end TraceStore

/-- Adds a run of a function that is declared at a given line. -/
def FileCoverage.recordRun (c : FileCoverage) (binary : UInt32) (traces : TraceStore)
    (function : String) (declaredAt : UInt32) (run : SourceRun) : FileCoverage :=
  let c := (c.declareFunction function declaredAt).updateLine run.line
    (·.recordAll binary traces run.instructions)
  if traces.hasRun run then c.setFunction function declaredAt true else c

/-! ## Correlators -/

structure Correlator where
  document : Document := {}
  registry : BinaryRegistry := {}
  /-- The declaration lines known so far; without an index they are all unknown. -/
  index : Option DeclarationIndex := none

/-- What the sources look like during a correlation. -/
structure SourceView where
  mapping : SourceMapping
  declarations : DeclarationSource

namespace Correlator

/-- The declaration line of a function in the file with a given key. -/
def declarationLine (c : Correlator) (v : SourceView) (key function : String) :
    Except Failure UInt32 × Correlator :=
  match c.index with
  -- Zero says that the line is unknown.
  | none => (.ok 0, c)
  | some x =>
      let (line, x) := x.lineNumber v.declarations (v.mapping.localPath key) function
      (line, { c with index := some x })

def updateFile (c : Correlator) (key : String) (f : FileCoverage → FileCoverage) : Correlator :=
  { c with document := c.document.updateFile key f }

end Correlator

/-! ## Counters -/

structure CorrelationStats where
  blocks : Nat := 0
  attributedBlocks : Nat := 0
  coveredBlocks : Nat := 0
  unknownBlocks : Nat := 0
  instructions : Nat := 0
  coveredInstructions : Nat := 0
  deriving DecidableEq, Repr

/-- Counts the instructions of a run. -/
def CorrelationStats.addRun (s : CorrelationStats) (traces : TraceStore) (run : SourceRun) :
    CorrelationStats :=
  { s with
    instructions := s.instructions + run.instructions.length
    coveredInstructions := s.coveredInstructions + (traces.executed run.instructions).length }

/-! ## Binaries -/

/-- What the correlation of one binary has come to. -/
structure Progress where
  correlator : Correlator
  functions : FunctionTable
  stats : CorrelationStats := {}
  notices : List Notice := []

/-- Takes a step for each item in turn, up to the first failure; the state reached stays. -/
def attemptEach {σ α : Type} (step : σ → α → Option Failure × σ) :
    σ → List α → Option Failure × σ
  | s, [] => (none, s)
  | s, a :: rest =>
      match step s a with
      | (some e, s) => (some e, s)
      | (none, s) => attemptEach step s rest

namespace Progress

variable (v : SourceView) (binary : UInt32) (traces : TraceStore)

/-- Adds a run of the function that owns it. -/
def run (p : Progress) (owned : String × SourceRun) : Option Failure × Progress :=
  let (owner, run) := owned
  let key := v.mapping.keyOfBuilt ⟨run.file⟩
  -- The mark stays if the line of the function cannot be told.
  let functions := p.functions.mark owner
  match p.correlator.declarationLine v key owner with
  | (.error e, c) => (some e, { p with correlator := c, functions })
  | (.ok line, c) =>
      (none,
        { p with
          correlator := c.updateFile key (·.recordRun binary traces owner line run)
          functions
          stats := p.stats.addRun traces run })

/-- Adds a block whose home is in the file with a given key. -/
def attributed (p : Progress) (b : FunctionBlock) (home : String) : Option Failure × Progress :=
  -- The label is counted and marked before anything can fail.
  let p := { p with
    functions := p.functions.mark b.label
    stats := { p.stats with attributedBlocks := p.stats.attributedBlocks + 1 } }
  match p.correlator.declarationLine v home b.label with
  | (.error e, c) => (some e, { p with correlator := c })
  | (.ok line, c) =>
      -- The label gets its entry before the runs, which may fail.
      let p := { p with correlator := c.updateFile home (·.declareFunction b.label line) }
      match attemptEach (run v binary traces) p b.resolvedRuns with
      | (some e, p) => (some e, p)
      | (none, p) =>
          if b.runs.any traces.hasRun then
            (none,
              { p with
                correlator := p.correlator.updateFile home (·.setFunction b.label line true)
                stats := { p.stats with coveredBlocks := p.stats.coveredBlocks + 1 } })
          else (none, p)

/-- Adds a block.  One without a home adds nothing, and neither does one whose label is not an
active function, which is reported. -/
def block (p : Progress) (b : FunctionBlock) : Option Failure × Progress :=
  let p := { p with stats := { p.stats with blocks := p.stats.blocks + 1 } }
  match b.homeRun? with
  | none => (none, p)
  | some home =>
      if p.functions.contains b.label then
        attributed v binary traces p b (v.mapping.keyOfBuilt ⟨home.file⟩)
      else
        (none,
          { p with
            stats := { p.stats with unknownBlocks := p.stats.unknownBlocks + 1 }
            notices := p.notices ++
              [.warning s!"Function '{b.label}' not found in the function list; block skipped"] })

end Progress

/-- Adds the transcript of a binary, of which only the functions of the table count. -/
def Correlator.correlate (c : Correlator) (v : SourceView) (name transcript : String)
    (functions : FunctionTable) (traces : TraceStore) : Option Failure × Progress :=
  let (binary, registry) := c.registry.index name
  attemptEach (Progress.block v binary traces) { correlator := { c with registry }, functions }
    (Transcript.blocksOf transcript)

/-- The finished document, with what is passed through and the indices of the binaries. -/
def Correlator.finish (c : Correlator) (sources : List Payload) (metadata : Option Payload) :
    Document :=
  { c.document with
    provenance :=
      { sources
        metadata := metadata.getD c.document.provenance.metadata
        binaries := c.registry.assigned } }

end BinaryCoverage
