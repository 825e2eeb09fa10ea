import BinaryCoverage.Failure
import BinaryCoverage.Glob.Expand
import BinaryCoverage.Trace.Store

/-!
# Loading traces

Patterns select the trace files of a binary.  Each file is read once, in the order of the paths;
one that cannot be read is reported and skipped.
-/

namespace BinaryCoverage.TraceStore

/-- The paths of files by their components; a path that is there already stays. -/
abbrev PathSet : Type := Table (List Component) Path

/-- Adds the files that a pattern matches. -/
def select (t : FileTree) (found : PathSet) (pattern : String) : Except Failure PathSet :=
  match Glob.read? pattern with
  | none => .error (.configuration (.tracePattern pattern))
  | some g =>
      .ok (((g.paths t).filter t.isFile).foldl
        (fun found p => Table.putWith (fun old _ => old) found p.components p) found)

/-- The files that patterns match. -/
def selectAll (t : FileTree) : PathSet → List String → Except Failure PathSet
  | found, [] => .ok found
  | found, pattern :: rest =>
      match select t found pattern with
      | .error e => .error e
      | .ok found => selectAll t found rest

/-- How a file is read as text. -/
abbrev Reader : Type := Path → Except AccessError String

/-- Adds the trace in a file. -/
def ingestFile (read : Reader) (s : TraceStore) (p : Path) : TraceStore :=
  match read p with
  | .ok body => s.ingest body
  | .error _ => s

/-- What is reported about the trace in a file. -/
def fileNotices (read : Reader) (p : Path) : List Notice :=
  match read p with
  | .ok body => notices p.text body
  | .error e => [.error s!"Failed to read trace file {p.text}: {e.message}"]

/-- The traces in the files that patterns match, read in a given way, and what is reported about
them. -/
def loadThrough (read : Reader) (t : FileTree) (patterns : List String) :
    Except Failure (TraceStore × List Notice) :=
  match selectAll t ∅ patterns with
  | .error e => .error e
  | .ok found =>
      -- Files that are there but cannot be read do not count as missing.
      if found.isEmpty then .error (.noTraces none patterns)
      else .ok (found.values.foldl (ingestFile read) {}, found.values.flatMap (fileNotices read))

def load (t : FileTree) (patterns : List String) : Except Failure (TraceStore × List Notice) :=
  loadThrough t.readText t patterns

end BinaryCoverage.TraceStore
