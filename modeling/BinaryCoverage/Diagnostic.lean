import BinaryCoverage.Notice

/-!
# Diagnostics

A diagnostic names a place in the sources that is worth a manual look.  The log of a report has a
header line and then one diagnostic a line.
-/

namespace BinaryCoverage

inductive DiagnosticKind where
  /-- A detected branch line has no control-transfer instruction behind it. -/
  | branchMismatch
  /-- A construct has no end within the file. -/
  | unterminated
  /-- A file of the document is not there. -/
  | missingSource
  deriving DecidableEq, Repr

def DiagnosticKind.name : DiagnosticKind → String
  | .branchMismatch => "branch-sanity-mismatch"
  | .unterminated => "unterminated-construct"
  | .missingSource => "missing-source-file"

structure Diagnostic where
  file : String
  line : Option Nat
  kind : DiagnosticKind
  message : String
  deriving DecidableEq, Repr

namespace Diagnostic

def text (d : Diagnostic) : String :=
  let place := match d.line with
    | some line => s!"{d.file}:{line}"
    | none => d.file
  s!"{place}: [{d.kind.name}] {d.message}"

/-- The log of a report that was made at a given time. -/
def log (generatedAt : String) (diagnostics : List Diagnostic) : String :=
  let header :=
    s!"# tracecov diagnostics, generated {generatedAt}: {diagnostics.length} entries\n"
  header ++ String.join (diagnostics.map fun d => d.text ++ "\n")

/-- What a run reports at once: the branch lines without a branch instruction. -/
def notice? (d : Diagnostic) : Option Notice :=
  match d.kind, d.line with
  | .branchMismatch, some line => some (.warning s!"{d.file}:{line}: {d.message}")
  | _, _ => none

end Diagnostic

end BinaryCoverage
