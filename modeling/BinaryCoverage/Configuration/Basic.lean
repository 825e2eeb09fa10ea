import BinaryCoverage.Coverage.Basic
import BinaryCoverage.Failure
import BinaryCoverage.Image.Functions
import BinaryCoverage.Pattern.Reader

/-!
# Run configurations

A configuration names the tools, the workspace and the binaries of a run.  This file defines:

* `BinaryConfig.name` — the short name of a binary;
* `BinaryConfig.exclusionPatterns` — the patterns of the functions to leave out, each of which has
  to match from the start of a name;
* `RunConfig.check` — the first thing that keeps a configuration from driving a run.
-/

namespace BinaryCoverage

structure BinaryConfig where
  image : String
  traces : List String := []
  exclusions : List String := []
  deriving DecidableEq

structure RunConfig where
  /-- Whether the document is to name sources relative to the workspace. -/
  relativeKeys : Bool := false
  disassembler : String := "objdump"
  crossReferencer : Option String := none
  workspace : String := ""
  outputFile : String := ""
  sources : List Payload := []
  metadata : Option Payload := none
  binaries : List BinaryConfig
  deriving DecidableEq

namespace BinaryConfig

def path (b : BinaryConfig) : Path := ⟨b.image⟩

/-- The name of the image file without its extension. -/
def name (b : BinaryConfig) : String := b.path.stem?.getD b.image

/-- The pattern for names that begin with a match of `text`. -/
def anchored (text : String) : String := "^(?:" ++ text ++ ")"

/-- The pattern of one exclusion. -/
def exclusionPattern (b : BinaryConfig) (text : String) : Except Failure Pattern :=
  match Pattern.read (anchored text) with
  | .ok p => .ok p
  | .error fault => .error (.configuration (.exclusionPattern text b.image fault))

/-- The patterns of exclusions, up to the first that is none. -/
def exclusionPatternsOf (b : BinaryConfig) : List String → Except Failure (List Pattern)
  | [] => .ok []
  | text :: rest =>
      match b.exclusionPattern text with
      | .error e => .error e
      | .ok p => (exclusionPatternsOf b rest).map (p :: ·)

def exclusionPatterns (b : BinaryConfig) : Except Failure (List Pattern) :=
  b.exclusionPatternsOf b.exclusions

/-- What keeps a binary from being part of a run. -/
def check (b : BinaryConfig) : Except Failure Unit :=
  if Text.isBlankText b.image.toList then .error (.configuration .unnamedBinary)
  else if b.traces.isEmpty then .error (.configuration (.noTracePatterns b.image))
  -- The patterns are read only to see that they can be.
  else b.exclusionPatterns.map fun _ => ()

end BinaryConfig

namespace RunConfig

def checkBinaries : List BinaryConfig → Except Failure Unit
  | [] => .ok ()
  | b :: rest =>
      match b.check with
      | .error e => .error e
      | .ok _ => checkBinaries rest

def check (c : RunConfig) : Except Failure Unit :=
  if c.binaries.isEmpty then .error (.configuration .noBinaries)
  else if Text.isBlankText c.workspace.toList then .error (.configuration .noWorkspace)
  else if Text.isBlankText c.outputFile.toList then .error (.configuration .noOutputFile)
  else if Text.isBlankText c.disassembler.toList then .error (.configuration .noDisassembler)
  else checkBinaries c.binaries

end RunConfig

end BinaryCoverage
