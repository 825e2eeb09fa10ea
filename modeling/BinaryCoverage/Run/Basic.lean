import BinaryCoverage.Configuration.Basic
import BinaryCoverage.Correlation.Fallback
import BinaryCoverage.Image.Elf
import BinaryCoverage.Trace.Load

/-!
# Runs

A run takes the binaries of a configuration in order: it loads the traces and the image of each,
correlates its transcript and places the functions that have no source lines.  The first failure
ends the run.  This file defines:

* `BinaryOutcome` — what became of one binary;
* `RunState.binary` — the effect of one binary;
* `RunConfig.run` — the whole run.
-/

namespace BinaryCoverage

structure BinaryOutcome where
  name : String
  index : UInt32
  functions : Nat
  excludedFunctions : Nat
  tracedAddresses : Nat
  /-- The traced addresses outside of code, where the image says what is code. -/
  outsideCode : Option Nat
  stats : CorrelationStats
  placed : Nat
  unresolved : Nat
  deriving DecidableEq, Repr

/-- What a run works with: the files, the transcript of an image and the declaration lookup. -/
structure Workbench where
  files : FileTree
  transcript : Path → Except Failure String
  lookup : Option (Path → Except Failure Declarations)

def Workbench.declarations (w : Workbench) : DeclarationSource where
  files := w.files
  lookup := w.lookup.getD fun _ => .ok ∅

/-- What a run has come to. -/
structure RunState where
  correlator : Correlator
  search : SourceSearch
  outcomes : List BinaryOutcome := []
  notices : List Notice := []

def FallbackOutcome.isRecorded : FallbackOutcome → Bool
  | .recorded _ _ => true
  | _ => false

def FallbackOutcome.isUnresolved : FallbackOutcome → Bool
  | .notFound => true
  | .ambiguous _ => true
  | _ => false

/-- What is known of a binary before its transcript: its traces, image and functions. -/
structure Prepared where
  traces : TraceStore
  image : Image
  functions : FunctionTable
  transcript : String

namespace RunState

def note (s : RunState) (notices : List Notice) : RunState :=
  { s with notices := s.notices ++ notices }

/-- Puts the name of a binary into a failure to find its traces. -/
def named (binary : String) : Failure → Failure
  | .noTraces none patterns => .noTraces (some binary) patterns
  | e => e

/-- Loads what belongs to a binary, and reports on it. -/
def prepare (w : Workbench) (s : RunState) (b : BinaryConfig) :
    Except Failure Prepared × RunState :=
  -- The image has to be there before its traces are looked for.
  if w.files.isFile b.path then
    match TraceStore.load w.files b.traces with
    | .error e => (.error (named b.name e), s)
    | .ok (traces, reported) =>
        let s := s.note reported
        match Image.load w.files b.path with
        | .error e => (.error e, s)
        | .ok image =>
            let s := s.note image.notices
            match b.exclusionPatterns with
            | .error e => (.error e, s)
            | .ok patterns =>
                let functions := image.functions.exclude patterns
                (( w.transcript b.path).map fun transcript =>
                  { traces, image, functions, transcript }, s)
  else (.error (.missingBinary b.path), s)

/-- The traced addresses outside of the code of an image that has ranges. -/
def outsideCode (i : Image) (traces : TraceStore) : Option Nat :=
  -- Without mapping symbols nothing is known to be code.
  if i.ranges.isEmpty then none
  else some (traces.addresses.filter fun a => !inCode i.ranges a).length

/-- Takes one binary. -/
def binary (w : Workbench) (v : SourceView) (s : RunState) (b : BinaryConfig) :
    Option Failure × RunState :=
  match s.prepare w b with
  | (.error e, s) => (some e, s)
  | (.ok x, s) =>
      let (failure, p) := s.correlator.correlate v b.name x.transcript x.functions x.traces
      -- What the correlation has built stays, also where it fails.
      let s := { s.note p.notices with correlator := p.correlator }
      match failure with
      | some e => (some e, s)
      | none =>
          let (failure, q) := s.correlator.placeUnmapped v p.functions x.traces s.search
          let s := { s.note q.notices with correlator := q.correlator, search := q.search }
          match failure with
          | some e => (some e, s)
          | none =>
              let outcome : BinaryOutcome :=
                { name := b.name
                  index := (s.correlator.registry.assigned[b.name]?).getD 0
                  functions := p.functions.size
                  excludedFunctions := p.functions.excluded.size
                  tracedAddresses := x.traces.size
                  outsideCode := outsideCode x.image x.traces
                  stats := p.stats
                  placed := (q.outcomes.values.filter (·.isRecorded)).length
                  unresolved := (q.outcomes.values.filter (·.isUnresolved)).length }
              (none, { s with outcomes := s.outcomes ++ [outcome] })

end RunState

/-- A finished run: the document and what became of each binary. -/
structure RunResult where
  document : Document
  binaries : List BinaryOutcome

namespace RunConfig

/-- How keys of sources relate to the files that are there. -/
def mapping (c : RunConfig) (localRoot : Path) : SourceMapping where
  buildRoot := ⟨c.workspace⟩
  localRoot := localRoot
  relative := c.relativeKeys

/-- Takes all binaries of a configuration, with sources in the workspace or elsewhere. -/
def run (c : RunConfig) (w : Workbench) (elsewhere : Option Path) :
    Except Failure RunResult × List Notice :=
  let localRoot := elsewhere.getD ⟨c.workspace⟩
  let v : SourceView := ⟨c.mapping localRoot, w.declarations⟩
  -- Without a look-up there is no index, and all lines are unknown.
  let start : RunState :=
    { correlator := { index := w.lookup.map fun _ => {} }, search := { root := localRoot } }
  match attemptEach (RunState.binary w v) start c.binaries with
  | (some e, s) => (.error e, s.notices)
  | (none, s) => (.ok ⟨s.correlator.finish c.sources c.metadata, s.outcomes⟩, s.notices)

end RunConfig

end BinaryCoverage
