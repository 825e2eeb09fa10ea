import BinaryCoverage.Failure
import BinaryCoverage.Files.Tree
import BinaryCoverage.Text.Lines
import BinaryCoverage.Text.Number

/-!
# Declaration lines

A cross-reference lists the functions that a source file declares, one a line.  This file defines:

* `Declarations.ofXref` — the declaration lines that a cross-reference gives;
* `DeclarationIndex` — the declarations of the files asked for so far.

A file is looked up only while it is there, and never again once that has succeeded.
-/

namespace BinaryCoverage

/-- The declaration lines of functions by name. -/
abbrev Declarations : Type := Table String UInt32

namespace Declarations

open Text (words word32?)

/-- The function that one line declares: a function by its own name, or an assembler label `func`
by the name at the end of the line. -/
def entry? (line : List Char) : Option (String × UInt32) :=
  match words line with
  | name :: kind :: number :: rest =>
      match word32? 10 number with
      | none => none
      | some n =>
          if kind = "function".toList then some (String.ofList name, n)
          else if kind = "label".toList ∧ name = "func".toList then
            some (String.ofList (rest.getLast?.getD number), n)
          else none
  | _ => none

def ofXref (text : String) : Declarations :=
  Table.build ((Text.lines text.toList).filterMap entry?)

end Declarations

/-- What answers a query: the files that are there and the lookup for one of them. -/
structure DeclarationSource where
  files : FileTree
  lookup : Path → Except Failure Declarations

structure DeclarationIndex where
  known : Table (List Component) Declarations := ∅
  /-- The paths that the lookup was asked for, the latest first. -/
  asked : List Path := []

namespace DeclarationIndex

/-- The declarations of a file that is not known yet. -/
def fetch (x : DeclarationIndex) (s : DeclarationSource) (p : Path) :
    Except Failure Declarations × DeclarationIndex :=
  if s.files.isFile p then
    let asked := p :: x.asked
    match s.lookup p with
    -- Nothing is kept of a failure, so that the next query asks again.
    | .error e => (.error e, { x with asked })
    | .ok d => (.ok d, { known := x.known.insert p.components d, asked })
  -- A file that is not there declares nothing, and that is kept as well.
  else (.ok ∅, { x with known := x.known.insert p.components ∅ })

/-- The declarations of a file. -/
def declarations (x : DeclarationIndex) (s : DeclarationSource) (p : Path) :
    Except Failure Declarations × DeclarationIndex :=
  match x.known[p.components]? with
  | some d => (.ok d, x)
  | none => x.fetch s p

/-- The line at which a file declares a function, if it does. -/
def line? (x : DeclarationIndex) (s : DeclarationSource) (p : Path) (function : String) :
    Except Failure (Option UInt32) × DeclarationIndex :=
  let (found, x) := x.declarations s p
  (found.map (·[function]?), x)

/-- The line at which a file declares a function; zero if it does not. -/
def lineNumber (x : DeclarationIndex) (s : DeclarationSource) (p : Path) (function : String) :
    Except Failure UInt32 × DeclarationIndex :=
  let (found, x) := x.line? s p function
  (found.map (·.getD 0), x)

end DeclarationIndex

end BinaryCoverage
