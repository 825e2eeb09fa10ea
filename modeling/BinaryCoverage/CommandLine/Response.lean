import BinaryCoverage.CommandLine.Basic
import BinaryCoverage.Configuration.Load
import BinaryCoverage.Report.Basic
import BinaryCoverage.Report.Summary
import BinaryCoverage.Run.Tools

/-!
# Carrying out command lines

Each command works on the file tree alone and prints only once everything is done.  This file
defines:

* `Response` — the lines of an answer, a complaint, and the files afterwards;
* `Invocation.respond` — what one invocation does;
* `respond` — what a command line does, misused or not.
-/

namespace BinaryCoverage

/-- A line of output; one of them tells how long everything took. -/
inductive OutputLine where
  | text (line : String)
  | elapsed
  deriving DecidableEq, Repr

/-- The line, with the time in seconds. -/
def OutputLine.render (seconds : String) : OutputLine → String
  | .text line => line
  | .elapsed => s!"Elapsed: {seconds}s"

structure Response where
  files : FileTree
  code : Nat := 0
  output : List OutputLine := []
  complaint : Option Complaint := none
  notices : List Notice := []

namespace Response

/-- Everything that is printed. -/
def outputText (r : Response) (seconds : String) : String :=
  String.join (r.output.map fun line => line.render seconds ++ "\n")

def printed (t : FileTree) (lines : List String) : Response :=
  { files := t, output := lines.map .text }

def failed (t : FileTree) (what : String) (causes : List String) : Response :=
  { files := t, code := 1, complaint := some ⟨what, causes⟩ }

def noting (r : Response) (notices : List Notice) : Response := { r with notices }

end Response

/-! ## Correlating -/

/-- The absolute path of a folder, with links followed where it is there. -/
def FileTree.resolve (t : FileTree) (p : Path) : Path :=
  let home := Path.ofLocation t.home
  if p.components = [.current] then home
  -- A folder that is not there can still be named.
  else (t.canonical? p).getD (home.join p)

/-- What is printed about a binary. -/
def BinaryOutcome.lines (b : BinaryOutcome) : List String :=
  (s!"  - {b.name} [{b.index.toNat}]: {b.stats.attributedBlocks}/{b.stats.blocks} blocks " ++
      s!"attributed, {b.stats.coveredBlocks} covered, {b.tracedAddresses} traced addresses") ::
    if b.placed + b.unresolved = 0 then []
    else
      [s!"    functions without source lines: {b.placed} placed, {b.unresolved} unresolved"]

/-- What is printed about a run. -/
def RunResult.lines (r : RunResult) (output : Path) : List String :=
  s!"Correlated {r.binaries.length} binary(ies):" :: r.binaries.flatMap (·.lines) ++
    [s!"Source files: {r.document.files.size}", s!"Output: {output.text}"]

/-- Makes the folder of a file unless it has none. -/
def FileTree.ensureParent (t : FileTree) (p : Path) : Except (Path × AccessError) FileTree :=
  match p.parent? with
  | none => .ok t
  | some q =>
      if q.chars.isEmpty then .ok t
      else
        match t.ensureFolders q with
        | .ok t => .ok t
        | .error e => .error (q, e)

/-- Keeps the document of a run in a file. -/
def RunResult.keep (r : RunResult) (t : FileTree) (output : Path) : Response :=
  match t.ensureParent output with
  | .error (folder, e) =>
      .failed t s!"Failed to create output dir: {folder.text}" [e.message]
  | .ok t =>
      match r.document.save t output with
      | .error e => .failed t s!"Failed to write {output.text}" e.chain
      | .ok t =>
          { files := t, output := (r.lines output).map .text ++ [.elapsed] }

/-- Runs a configuration and keeps the document. -/
def correlateCommand (t : FileTree) (config : Path) (elsewhere output : Option Path) : Response :=
  match RunConfig.load t config with
  | .error e => .failed t s!"Failed to load configuration {config.text}" e.chain
  | .ok c =>
      let (result, notices) := c.runWithTools t (elsewhere.map t.resolve)
      match result with
      | .error e => (Response.failed t "Correlation failed" e.chain).noting notices
      | .ok r => (r.keep t (output.getD ⟨c.outputFile⟩)).noting notices

/-! ## Reporting -/

/-- A share of things that are covered. -/
def reportShare (what : String) (hit found : Nat) : String :=
  s!"  {what} {FileSummary.share hit found}"

/-- What is printed about a report. -/
def Report.lines (r : Report) (tracefile diagnostics : Path) : List String :=
  let all := r.totals
  let count := r.diagnostics.length
  [s!"Wrote {tracefile.text} ({r.files.length} file(s), {r.skipped.length} skipped)",
    reportShare "Functions:" all.functionsHit all.functionsFound,
    reportShare "Lines:    " all.linesHit all.linesFound,
    reportShare "Branches: " all.branchesHit all.branchesFound] ++
    if count = 0 then [] else [s!"{count} diagnostic(s) written to {diagnostics.text}"]

/-- Reports on a document and logs the diagnostics. -/
def reportCommand (t : FileTree) (time : String) (workspace document tracefile diagnostics : Path) :
    Response :=
  if t.isFolder workspace then
    let w := Report.write t document workspace tracefile
    match w.failure with
    | some e =>
        (Response.failed w.files s!"Failed to generate report from {document.text}" e.chain).noting
          w.report.notices
    | none =>
        let log := Diagnostic.log time w.report.diagnostics
        match w.files.writeText diagnostics log with
        | .error e =>
            (Response.failed w.files s!"Failed to write diagnostics log: {diagnostics.text}"
              [e.message]).noting w.report.notices
        | .ok t => (Response.printed t (w.report.lines tracefile diagnostics)).noting
            w.report.notices
  else .failed t s!"Workspace {workspace.text} is not a directory" []

/-! ## Summaries -/

/-- Sums up a document. -/
def summaryCommand (t : FileTree) (document : Path) (format : SummaryFormat) : Response :=
  match Document.load t document with
  | .error e => .failed t s!"Failed to load intermediate document {document.text}" e.chain
  | .ok d =>
      let s := DocumentSummary.ofDocument d
      match format with
      | .text => .printed t s.lines
      | .json => .printed t [s.toJson.print]

/-! ## Command lines -/

def versionLine : String := "tracecov 0.1.0"

def helpLines : List String :=
  ["Binary coverage from execution traces, ELF symbols and annotated disassembly", "",
    "tracecov correlate --config FILE [--local-workspace FOLDER] [--output FILE]",
    "tracecov report --workspace FOLDER --json FILE [--info FILE] [--diagnostics FILE]",
    "tracecov summary --json FILE [--format text|json]",
    "tracecov --version"]

/-- What one invocation does; the time goes into the log of diagnostics. -/
def Invocation.respond (t : FileTree) (time : String) : Invocation → Response
  | .correlate config elsewhere output =>
      correlateCommand t ⟨config⟩ (elsewhere.map Path.mk) (output.map Path.mk)
  | .report workspace document tracefile diagnostics =>
      reportCommand t time ⟨workspace⟩ ⟨document⟩ ⟨tracefile⟩ ⟨diagnostics⟩
  | .summary document format => summaryCommand t ⟨document⟩ format
  | .version => .printed t [versionLine]
  | .help => .printed t helpLines

/-- What a command line does; one that is misused has its own code. -/
def respond (t : FileTree) (time : String) (arguments : List String) : Response :=
  match Invocation.read? arguments with
  | some invocation => invocation.respond t time
  | none => { files := t, code := 2 }

end BinaryCoverage
