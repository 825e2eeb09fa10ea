import BinaryCoverage.Coverage.Basic
import BinaryCoverage.Decimal.Percent
import BinaryCoverage.Json.Printer

/-!
# Summaries

A summary lists the binaries of a document and the totals of each file, without looking at any
source, and the sums of all files.
-/

namespace BinaryCoverage

structure FileSummary where
  file : String
  functionsFound : Nat := 0
  functionsHit : Nat := 0
  linesFound : Nat := 0
  linesHit : Nat := 0
  deriving DecidableEq, Repr

structure DocumentSummary where
  binaries : List (String × UInt32)
  files : List FileSummary
  total : FileSummary
  deriving DecidableEq

namespace FileSummary

def ofFile (file : String) (c : FileCoverage) : FileSummary where
  file := file
  functionsFound := c.functions.size
  functionsHit := (c.functions.values.filter (·.covered)).length
  linesFound := c.lines.size
  linesHit := (c.lines.values.filter (·.covered)).length

/-- The sums of two summaries, under the name of the first. -/
def add (a b : FileSummary) : FileSummary where
  file := a.file
  functionsFound := a.functionsFound + b.functionsFound
  functionsHit := a.functionsHit + b.functionsHit
  linesFound := a.linesFound + b.linesFound
  linesHit := a.linesHit + b.linesHit

/-- A share of things that are covered. -/
def share (hit found : Nat) : String := s!"{hit}/{found} ({Decimal.percent hit found})"

def line (f : FileSummary) : String :=
  s!"  {f.file}: functions {share f.functionsHit f.functionsFound}, " ++
    s!"lines {share f.linesHit f.linesFound}"

/-- A count, which in memory never exceeds a word. -/
def countJson (n : Nat) : Json := Json.ofWord64 (UInt64.ofNat n)

def toJson (f : FileSummary) : Json :=
  .object
    [("file", .string f.file),
      ("functions_found", countJson f.functionsFound),
      ("functions_hit", countJson f.functionsHit),
      ("lines_found", countJson f.linesFound),
      ("lines_hit", countJson f.linesHit)]

end FileSummary

namespace DocumentSummary

def ofDocument (d : Document) : DocumentSummary :=
  let files := d.files.toList.map fun (file, c) => FileSummary.ofFile file c
  { binaries := d.provenance.binaries.toList
    files
    total := files.foldl FileSummary.add { file := "total" } }

def toJson (s : DocumentSummary) : Json :=
  .object
    [("binaries",
        .array (s.binaries.map fun (name, index) => .array [.string name, Json.ofWord32 index])),
      ("files", .array (s.files.map (·.toJson))),
      ("total", s.total.toJson)]

/-- The summary as a listing. -/
def lines (s : DocumentSummary) : List String :=
  ["Binaries:"] ++ s.binaries.map (fun (name, index) => s!"  - {name}: {index.toNat}") ++
    ["Files:"] ++ (s.files ++ [s.total]).map FileSummary.line

end DocumentSummary

end BinaryCoverage
