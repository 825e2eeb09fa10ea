import BinaryCoverage.Coverage.Json
import BinaryCoverage.Failure
import BinaryCoverage.Files.Change

/-!
# Documents in files

A document is kept as text in a file, from which it is read back.
-/

namespace BinaryCoverage.Document

/-- The document that a text holds. -/
def parse (text : String) : Except Failure Document :=
  match Document.read? text with
  | some d => .ok d
  | none => .error .malformedDocument

def load (t : FileTree) (p : Path) : Except Failure Document :=
  match t.readText p with
  | .error e => .error (.access p e)
  | .ok text => parse text

def save (d : Document) (t : FileTree) (p : Path) : Except Failure FileTree :=
  match t.writeText p d.print with
  | .error e => .error (.access p e)
  | .ok t => .ok t

end BinaryCoverage.Document
