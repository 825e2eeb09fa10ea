import BinaryCoverage.Branch.Basic
import BinaryCoverage.Coverage.Basic
import BinaryCoverage.Text.Number

/-!
# Tracefile records

The record of a file has one row a line: its functions with their declaration lines, then with
their coverage, the arms of its branches, its lines, and after each of these how many there are and
how many are covered.  What is written is counted on the way.  This file defines:

* `FileTotals` — the counts of a record;
* `Record.write` — the rows of a record together with its counts;
* `FileCoverage.record`, `FileCoverage.totals` — the text and the counts of a record.
-/

namespace BinaryCoverage

structure FileTotals where
  path : String
  functionsFound : Nat := 0
  functionsHit : Nat := 0
  branchesFound : Nat := 0
  branchesHit : Nat := 0
  linesFound : Nat := 0
  linesHit : Nat := 0
  deriving DecidableEq, Repr

namespace FileTotals

def countFunction (n : FileTotals) (entry : String × FunctionCoverage) : FileTotals :=
  { n with
    functionsFound := n.functionsFound + 1
    functionsHit := n.functionsHit + entry.2.covered.toNat }

def countBranch (n : FileTotals) (point : BranchPoint) : FileTotals :=
  { n with
    branchesFound := n.branchesFound + point.arms.length
    branchesHit := n.branchesHit + point.coveredArms }

def countLine (n : FileTotals) (entry : UInt32 × LineCoverage) : FileTotals :=
  { n with
    linesFound := n.linesFound + 1
    linesHit := n.linesHit + entry.2.covered.toNat }

/-- The sums of two counts, under the path of the first. -/
def add (a b : FileTotals) : FileTotals where
  path := a.path
  functionsFound := a.functionsFound + b.functionsFound
  functionsHit := a.functionsHit + b.functionsHit
  branchesFound := a.branchesFound + b.branchesFound
  branchesHit := a.branchesHit + b.branchesHit
  linesFound := a.linesFound + b.linesFound
  linesHit := a.linesHit + b.linesHit

/-- The sums of all counts. -/
def sum (all : List FileTotals) : FileTotals := all.foldl add { path := "total" }

end FileTotals

/-! ## Rows -/

namespace Record

def numeral (n : Nat) : String := String.ofList (Text.decimal n)

def flag (covered : Bool) : String := if covered then "1" else "0"

def declarationRow (entry : String × FunctionCoverage) : String :=
  s!"FN:{numeral entry.2.declaredAt.toNat},{entry.1}"

def functionRow (entry : String × FunctionCoverage) : String :=
  s!"FNDA:{flag entry.2.covered},{entry.1}"

/-- The rows of the arms of a branch, of which the first has number `arm`. -/
def armRows (line : Nat) : Nat → List Bool → List String
  | _, [] => []
  | arm, covered :: rest =>
      s!"BRDA:{numeral line},0,{numeral arm},{flag covered}" :: armRows line (arm + 1) rest

def branchRows (point : BranchPoint) : List String := armRows point.line 0 point.arms

def lineRow (entry : UInt32 × LineCoverage) : String :=
  s!"DA:{numeral entry.1.toNat},{flag entry.2.covered}"

/-- How many there are and how many are covered. -/
def countRows (found hit : String) (numberFound numberHit : Nat) : List String :=
  [s!"{found}:{numeral numberFound}", s!"{hit}:{numeral numberHit}"]

/-- Writes the rows of one item after the other, and counts each item as it goes. -/
def writeAll {α : Type} (rowsOf : α → List String) (count : FileTotals → α → FileTotals) :
    FileTotals → List α → List String × FileTotals
  | n, [] => ([], n)
  | n, a :: rest =>
      let (rows, n) := writeAll rowsOf count (count n a) rest
      (rowsOf a ++ rows, n)

/-- The rows of a record, and what they come to. -/
def write (path : String) (c : FileCoverage) (points : List BranchPoint) :
    List String × FileTotals :=
  -- The declarations are not counted: each function has a row with its coverage as well.
  let declarations := c.functions.toList.map declarationRow
  let (functions, n) := writeAll ([functionRow ·]) .countFunction { path } c.functions.toList
  let functionCounts := countRows "FNF" "FNH" n.functionsFound n.functionsHit
  let (branches, n) := writeAll branchRows .countBranch n points
  let branchCounts := countRows "BRF" "BRH" n.branchesFound n.branchesHit
  let (lines, n) := writeAll ([lineRow ·]) .countLine n c.lines.toList
  let lineCounts := countRows "LF" "LH" n.linesFound n.linesHit
  (["TN:", s!"SF:{path}"] ++ declarations ++ functions ++ functionCounts ++ branches ++
    branchCounts ++ lines ++ lineCounts ++
    -- An empty row stands between records.
    ["end_of_record", ""], n)

def rows (path : String) (c : FileCoverage) (points : List BranchPoint) : List String :=
  (write path c points).1

/-- The text of rows, each with its line end. -/
def ofRows (rows : List String) : String := String.join (rows.map (· ++ "\n"))

end Record

namespace FileCoverage

/-- The record of a file at a given path. -/
def record (c : FileCoverage) (path : String) (points : List BranchPoint) : String :=
  Record.ofRows (Record.rows path c points)

/-- The counts of that record. -/
def totals (c : FileCoverage) (path : String) (points : List BranchPoint) : FileTotals :=
  (Record.write path c points).2

end FileCoverage

end BinaryCoverage
