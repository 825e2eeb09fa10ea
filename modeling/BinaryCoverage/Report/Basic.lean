import BinaryCoverage.Branch.Analysis
import BinaryCoverage.Coverage.File
import BinaryCoverage.Report.Record

/-!
# Reports

A report goes through the files of a document in the order of their keys.  A file that stands in
the workspace gives a record, with its branches found in its text; any other one is skipped.  This
file defines:

* `ReportEntry.ofFile` — what one file gives;
* `Report.emit` — the report of a document, written where there may be a limit of bytes;
* `Report.write` — the report of a document file, written to a file.
-/

namespace BinaryCoverage

/-- What one file of a document gives. -/
inductive ReportEntry where
  | record (totals : FileTotals) (text : String) (diagnostics : List Diagnostic)
  | missing (key : String) (path : Path)

namespace ReportEntry

/-- What the file with a given key gives. -/
def ofFile (t : FileTree) (workspace : Path) (key : String) (c : FileCoverage) :
    Except Failure ReportEntry :=
  let path := workspace.join ⟨key⟩
  if t.isFile path then
    match t.read path with
    | .error e => .error (.access path e)
    | .ok bytes =>
        let a := BranchAnalysis.ofSource key (Text.ofBytes bytes) c
        -- The record shows where the file really is, the diagnostics show its key.
        let shown := (t.absolute path).text
        .ok (.record (c.totals shown a.points) (c.record shown a.points) a.diagnostics)
  else .ok (.missing key path)

def diagnostics : ReportEntry → List Diagnostic
  | .record _ _ ds => ds
  | .missing key path => [⟨key, none, .missingSource, s!"not found at {path.text}"⟩]

/-- What is reported at once. -/
def notices : ReportEntry → List Notice
  | .record _ _ ds => ds.filterMap (·.notice?)
  | .missing _ path => [.warning s!"Source file {path.text} not found; skipped"]

def text : ReportEntry → String
  | .record _ text _ => text
  | .missing _ _ => ""

end ReportEntry

/-- The entries of a report so far, in order. -/
structure Report where
  entries : List ReportEntry := []

namespace Report

def totalsOf? : ReportEntry → Option FileTotals
  | .record totals _ _ => some totals
  | .missing _ _ => none

def skippedKey? : ReportEntry → Option String
  | .record _ _ _ => none
  | .missing key _ => some key

/-- The counts of the records. -/
def files (r : Report) : List FileTotals := r.entries.filterMap totalsOf?

/-- The keys of the files that are not there. -/
def skipped (r : Report) : List String := r.entries.filterMap skippedKey?

def totals (r : Report) : FileTotals := FileTotals.sum r.files

def diagnostics (r : Report) : List Diagnostic := r.entries.flatMap (·.diagnostics)

def notices (r : Report) : List Notice := r.entries.flatMap (·.notices)

/-- The tracefile. -/
def text (r : Report) : String := String.join (r.entries.map (·.text))

/-- Whether a writer takes so many bytes; without a limit it takes any number. -/
def fits (limit : Option Nat) (size : Nat) : Bool := limit.all (size ≤ ·)

/-- The report of some files, up to the first failure, after `size` bytes have been written. -/
def emitFrom (t : FileTree) (workspace : Path) (limit : Option Nat) :
    Nat → List (String × FileCoverage) → Option Failure × List ReportEntry
  | _, [] => (none, [])
  | size, (key, c) :: rest =>
      match ReportEntry.ofFile t workspace key c with
      | .error e => (some e, [])
      | .ok entry =>
          let size := size + entry.text.utf8ByteSize
          if fits limit size then
            let (failure, entries) := emitFrom t workspace limit size rest
            (failure, entry :: entries)
          -- The entry that did not fit has been reported on.
          else (some (.output .full), [entry])

/-- The report of a document, up to the first failure. -/
def emit (t : FileTree) (workspace : Path) (limit : Option Nat) (d : Document) :
    Option Failure × Report :=
  let (failure, entries) := emitFrom t workspace limit 0 d.files.toList
  (failure, ⟨entries⟩)

/-- A report that is written to a file: how it ended, the report and the files afterwards. -/
structure Written where
  failure : Option Failure
  report : Report
  files : FileTree

/-- Reports on the document in a file.  The tracefile is emptied before the sources are read. -/
def write (t : FileTree) (document workspace tracefile : Path) : Written :=
  match Document.load t document with
  | .error e => ⟨some e, {}, t⟩
  | .ok d =>
      -- A source may be the tracefile itself.
      match t.writeText tracefile "" with
      | .error e => ⟨some (.access tracefile e), {}, t⟩
      | .ok t =>
          match emit t workspace none d with
          | (some e, r) => ⟨some e, r, t⟩
          | (none, r) =>
              match t.writeText tracefile r.text with
              | .error e => ⟨some (.access tracefile e), r, t⟩
              | .ok t => ⟨none, r, t⟩

end Report

end BinaryCoverage
