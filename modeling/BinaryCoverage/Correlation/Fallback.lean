import BinaryCoverage.Correlation.Basic
import BinaryCoverage.Correlation.Search

/-!
# Functions without source lines

A function that no instruction gives a source line is placed in the one source file that mentions
and declares it.  It is covered when its first address has been traced.  A file that has the
function already keeps what it has.
-/

namespace BinaryCoverage

inductive FallbackOutcome where
  | recorded (file : String) (covered : Bool)
  | alreadyPresent (file : String)
  | notFound
  | ambiguous (paths : List Path)
  deriving DecidableEq, Repr

/-- What the fallback has come to. -/
structure FallbackProgress where
  correlator : Correlator
  search : SourceSearch
  outcomes : Table String FallbackOutcome := ∅
  notices : List Notice := []

namespace FallbackProgress

/-- Those of the candidates that declare a function, with the lines at which they do. -/
def declaring (s : DeclarationSource) (function : String) :
    DeclarationIndex → List Path → Except Failure (List (Path × UInt32)) × DeclarationIndex
  | x, [] => (.ok [], x)
  | x, p :: rest =>
      match x.line? s p function with
      | (.error e, x) => (.error e, x)
      -- All candidates are asked, also after one has been found.
      | (.ok line, x) =>
          let (found, x) := declaring s function x rest
          (found.map fun found => (line.map fun line => (p, line)).toList ++ found, x)

/-- Whether the file with a given key has a function. -/
def hasFunction (d : Document) (key function : String) : Bool :=
  (d.file? key).any (·.functions.contains function)

/-- Places a function, given the files that declare it. -/
def place (p : FallbackProgress) (m : SourceMapping) (function : String) (covered : Bool) :
    List (Path × UInt32) → FallbackProgress
  | [] =>
      { p with
        outcomes := p.outcomes.insert function .notFound
        notices := p.notices ++ [.warning s!"Function '{function}' not found in sources"] }
  | [(path, line)] =>
      let key := m.keyOfLocal path
      -- An entry that is there is kept as it is.
      if hasFunction p.correlator.document key function then
        { p with outcomes := p.outcomes.insert function (.alreadyPresent key) }
      else
        { p with
          correlator := p.correlator.updateFile key (·.setFunction function line covered)
          outcomes := p.outcomes.insert function (.recorded key covered) }
  | declared =>
      let paths := declared.map (·.1)
      let listed := String.intercalate ", " (paths.map (·.text))
      { p with
        outcomes := p.outcomes.insert function (.ambiguous paths)
        notices := p.notices ++
          [.warning s!"'{function}' declared in {declared.length} files: {listed}"] }

/-- Takes one function without source lines. -/
def step (v : SourceView) (traces : TraceStore) (p : FallbackProgress) (f : FunctionSymbol) :
    Option Failure × FallbackProgress :=
  match p.correlator.index with
  | none => (none, p)
  | some x =>
      match p.search.mentioning v.declarations.files f.name with
      | (.error e, search) => (some e, { p with search })
      | (.ok candidates, search) =>
          match declaring v.declarations f.name x candidates with
          -- What has been learnt until then is kept.
          | (.error e, x) =>
              (some e, { p with search, correlator := { p.correlator with index := some x } })
          | (.ok declared, x) =>
              let p := { p with search, correlator := { p.correlator with index := some x } }
              (none, p.place v.mapping f.name (traces.contains f.start) declared)

end FallbackProgress

/-- Places the functions of a table that have no source lines; without an index there is nothing
to place them by. -/
def Correlator.placeUnmapped (c : Correlator) (v : SourceView) (functions : FunctionTable)
    (traces : TraceStore) (search : SourceSearch) : Option Failure × FallbackProgress :=
  attemptEach (FallbackProgress.step v traces) { correlator := c, search } functions.unmapped

end BinaryCoverage
