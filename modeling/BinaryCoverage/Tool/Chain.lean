import BinaryCoverage.Configuration.Basic
import BinaryCoverage.Correlation.Declarations
import BinaryCoverage.Text.Lines
import BinaryCoverage.Tool.Basic

/-!
# The tools of a run

A run has a disassembler, which has to be there, and a tool that lists declarations, which may be
missing.
-/

namespace BinaryCoverage

structure Toolchain where
  disassembler : Path
  crossReferencer : Path
  deriving DecidableEq, Repr

namespace Toolchain

def ofConfig (c : RunConfig) : Toolchain where
  disassembler := ⟨c.disassembler⟩
  crossReferencer := ⟨c.crossReferencer.getD "ctags"⟩

/-- The first line of a text without blanks around it. -/
def firstLine (text : String) : String :=
  String.ofList (Text.trim ((Text.lines text.toList).head?.getD []))

/-- The version that the disassembler tells, unless it cannot be run. -/
def version (c : Toolchain) (t : FileTree) : Except Failure String :=
  (Tool.run t c.disassembler ["--version"]).map firstLine

/-- Whether declarations can be listed. -/
def listsDeclarations (c : Toolchain) (t : FileTree) : Bool :=
  (Tool.run t c.crossReferencer ["--version"]).toBool

/-- The transcript of an image with its source lines. -/
def transcript (c : Toolchain) (t : FileTree) (image : Path) : Except Failure String :=
  Tool.run t c.disassembler ["-Sl", image.text]

/-- The listing of the functions that a source file declares. -/
def crossReference (c : Toolchain) (t : FileTree) (source : Path) : Except Failure String :=
  Tool.run t c.crossReferencer ["-x", "--c-kinds=f", source.text]

/-- The declarations of a source file. -/
def declarations (c : Toolchain) (t : FileTree) (source : Path) : Except Failure Declarations :=
  (c.crossReference t source).map Declarations.ofXref

end Toolchain

end BinaryCoverage
