import BinaryCoverage.Configuration.Yaml
import BinaryCoverage.Files.Tree

/-!
# Loading configurations

A configuration is JSON, or YAML in a file with a name that ends so, and has to pass its check.
-/

namespace BinaryCoverage.RunConfig

inductive Format where
  | json
  | yaml
  deriving DecidableEq, Repr

/-- The format that the name of a file tells. -/
def Format.ofPath (p : Path) : Format :=
  -- The case of the letters counts.
  if p.extension?.any fun e => e == "yaml" || e == "yml" then .yaml else .json

/-- The configuration that a text holds. -/
def decode (format : Format) (text : String) : Except Failure RunConfig :=
  match format with
  | .json => (ofJson? text).elim (.error (.configuration .malformedJson)) .ok
  | .yaml => (ofYaml? text).elim (.error (.configuration .malformedYaml)) .ok

/-- The configuration that a text holds, if it can drive a run. -/
def parse (format : Format) (text : String) : Except Failure RunConfig :=
  match decode format text with
  | .error e => .error e
  | .ok c => c.check.map fun _ => c

/-- The configuration in a file. -/
def load (t : FileTree) (p : Path) : Except Failure RunConfig :=
  match t.readText p with
  | .error e => .error (.access p e)
  | .ok text => parse (.ofPath p) text

end BinaryCoverage.RunConfig
