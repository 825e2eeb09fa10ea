import BinaryCoverage.Run.Basic
import BinaryCoverage.Tool.Chain

/-!
# Runs with tools

The disassembler has to tell its version before anything else happens.  Where declarations cannot
be listed, that is reported and the run does without them.
-/

namespace BinaryCoverage

namespace Toolchain

/-- What a run works with that uses these tools. -/
def workbench (c : Toolchain) (t : FileTree) : Workbench where
  files := t
  transcript := c.transcript t
  lookup := if c.listsDeclarations t then some (c.declarations t) else none

def notices (c : Toolchain) (t : FileTree) : List Notice :=
  if c.listsDeclarations t then []
  else
    [.warning (s!"{c.crossReferencer.text} is not available; declaration lines and " ++
      "functions without source lines are skipped")]

end Toolchain

/-- Takes all binaries of a configuration with the tools that it names. -/
def RunConfig.runWithTools (c : RunConfig) (t : FileTree) (elsewhere : Option Path) :
    Except Failure RunResult × List Notice :=
  let tools := Toolchain.ofConfig c
  match tools.version t with
  | .error e => (.error e, [])
  | .ok _ =>
      let (result, reported) := c.run (tools.workbench t) elsewhere
      (result, tools.notices t ++ reported)

end BinaryCoverage
