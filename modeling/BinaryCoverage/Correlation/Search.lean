import BinaryCoverage.Failure
import BinaryCoverage.Files.Tree
import BinaryCoverage.Unicode.Word

/-!
# Searching the sources

The C and assembler files below a folder are read once, when they are first needed.  This file
defines:

* `Text.mentions` — whether a name stands in a text as a word of its own;
* `SourceSearch.mentioning` — the files that mention a name, in the order of their paths.
-/

namespace BinaryCoverage

namespace Text

/-- Whether a word begins or ends between two characters. -/
def isBoundary (before after : Option Char) : Bool :=
  before.any Unicode.isWord != after.any Unicode.isWord

/-- Whether a name stands at the start of a text, after a given character. -/
def mentionsHere (name : List Char) (before : Option Char) (cs : List Char) : Bool :=
  match dropPrefix? name cs with
  | some rest =>
      -- An empty name has the same character before it at both ends.
      isBoundary before cs.head? && isBoundary (name.getLast?.or before) rest.head?
  | none => false

def mentionsAfter (name : List Char) : Option Char → List Char → Bool
  | before, [] => mentionsHere name before []
  | before, c :: cs => mentionsHere name before (c :: cs) || mentionsAfter name (some c) cs

/-- Whether a name stands in a text between two word boundaries. -/
def mentions (name text : String) : Bool := mentionsAfter name.toList none text.toList

end Text

/-- The sources below a folder. -/
structure SourceSearch where
  root : Path
  loaded : Option (List (Path × String)) := none

namespace SourceSearch

open BinaryCoverage.Path (Location)

def extensions : List String := ["c", "s", "S"]

/-- The path of a file below a folder. -/
def pathBelow (root : Path) (l : Location) : Path :=
  root.join (Path.ofChars (Path.joinPieces (l.map String.toList)))

def isSource (p : Path) : Bool := p.extension?.any extensions.contains

/-- The sources in a folder and the folders in it. -/
def sourcesIn (t : FileTree) (root : Path) : Except Failure (List (Path × String)) :=
  match t.folder root with
  | .error e => .error (.access root e)
  | .ok l =>
      .ok ((t.filesBelow l).filterMap fun (below, bytes) =>
        let p := pathBelow root below
        if isSource p then some (p, Text.ofBytes bytes) else none)

/-- The sources, read when they have not been read before. -/
def load (s : SourceSearch) (t : FileTree) :
    Except Failure (List (Path × String)) × SourceSearch :=
  match s.loaded with
  | some sources => (.ok sources, s)
  | none =>
      match sourcesIn t s.root with
      -- The folder is asked again next time.
      | .error e => (.error e, s)
      | .ok sources => (.ok sources, { s with loaded := some sources })

/-- The files that mention a name. -/
def mentioning (s : SourceSearch) (t : FileTree) (name : String) :
    Except Failure (List Path) × SourceSearch :=
  let (sources, s) := s.load t
  (sources.map fun sources =>
    sources.filterMap fun (p, text) => if Text.mentions name text then some p else none, s)

end SourceSearch

end BinaryCoverage
