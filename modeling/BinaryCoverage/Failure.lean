import BinaryCoverage.Files.Access
import BinaryCoverage.Path.Basic
import BinaryCoverage.Pattern.Fault

/-!
# Failures

A failure ends a run.  This file defines the causes and their wording:

* `ConfigurationFault` — what is wrong with a configuration or with an image;
* `Failure.message` — what is said about a failure;
* `Failure.chain` — the failure followed by what caused it.
-/

namespace BinaryCoverage

open Pattern (PatternFault)

inductive ConfigurationFault where
  | malformedJson
  | malformedYaml
  | noBinaries
  | noWorkspace
  | noOutputFile
  | noDisassembler
  | unnamedBinary
  | noTracePatterns (binary : String)
  | exclusionPattern (pattern binary : String) (fault : PatternFault)
  | tracePattern (pattern : String)
  | unreadableImage
  deriving DecidableEq, Repr

def ConfigurationFault.message : ConfigurationFault → String
  | .malformedJson => "failed to parse JSON: no configuration"
  | .malformedYaml => "failed to parse YAML: no configuration"
  | .noBinaries => "'elfs' must list at least one binary"
  | .noWorkspace => "'parameters.workspace' is required"
  | .noOutputFile => "'parameters.output_file' is required"
  | .noDisassembler => "'parameters.objdump' must not be empty"
  | .unnamedBinary => "every elf needs a 'name'"
  | .noTracePatterns binary => s!"elf '{binary}' has no 'traces' patterns"
  | .exclusionPattern pattern binary fault =>
      s!"invalid exclude_functions pattern '{pattern}' for {binary}: {fault.message}"
  | .tracePattern pattern =>
      s!"invalid trace pattern '{pattern}': Pattern syntax error: misplaced wildcard or bracket"
  | .unreadableImage => "not a readable ELF image: malformed or cut short"

inductive Failure where
  | configuration (fault : ConfigurationFault)
  | toolchain (tool message : String)
  /-- No file matches the trace patterns, perhaps those of a given binary. -/
  | noTraces (binary : Option String) (patterns : List String)
  | missingBinary (path : Path)
  | access (path : Path) (error : AccessError)
  | output (error : AccessError)
  | malformedDocument
  deriving DecidableEq, Repr

namespace Failure

/-- The patterns in quotes. -/
def quoted (patterns : List String) : String :=
  "'" ++ String.intercalate "', '" patterns ++ "'"

/-- What is wrong with a document. -/
def documentFault : String := "no coverage document"

def message : Failure → String
  | .configuration fault => s!"Configuration error: {fault.message}"
  | .toolchain tool message => s!"Toolchain error ({tool}): {message}"
  | .noTraces none patterns => s!"No trace files found for {quoted patterns}"
  | .noTraces (some binary) patterns =>
      s!"No trace files found for {binary} ({quoted patterns})"
  | .missingBinary path => s!"Binary not found at {path.text}"
  | .access path error => s!"I/O error on {path.text}: {error.message}"
  | .output error => s!"Failed to write the tracefile: {error.message}"
  | .malformedDocument => s!"JSON error: {documentFault}"

/-- The failure and what caused it, if that has a wording of its own. -/
def chain (f : Failure) : List String :=
  match f with
  | .access _ error => [f.message, error.message]
  | .output error => [f.message, error.message]
  | .malformedDocument => [f.message, documentFault]
  | _ => [f.message]

end Failure

end BinaryCoverage
