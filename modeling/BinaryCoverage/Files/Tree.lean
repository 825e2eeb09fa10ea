import BinaryCoverage.Files.Access
import BinaryCoverage.Path.Basic
import BinaryCoverage.Text.Utf8

/-!
# File trees

A file tree holds what stands at each location: a file, a folder, or a link to some path.  Paths
that are not absolute start at the home of the tree.  This file defines:

* `FileTree.locate` — the location that a path leads to, along links;
* `FileTree.read`, `FileTree.readText`, `FileTree.isFile`, `FileTree.isFolder`;
* `FileTree.childrenOf`, `FileTree.filesBelow` — what is in a folder.
-/

namespace BinaryCoverage

open BinaryCoverage.Path (Location)

-- Bytes are compared by the instance of the core library.
attribute [local instance (high)] ByteArray.instDecidableEq

inductive FileEntry where
  | file (bytes : ByteArray) (executable : Bool)
  | folder
  | link (target : Path)
  deriving DecidableEq

structure FileTree where
  entries : Table Location FileEntry := ∅
  home : Location := []
  deriving DecidableEq

namespace FileTree

/-- What stands at a location; the root is a folder. -/
def entry? (t : FileTree) (l : Location) : Option FileEntry :=
  if l = [] then some .folder else t.entries[l]?

/-! ## Finding -/

/-- How many links one path may lead along. -/
def linkLimit : Nat := 40

/-- How many bytes a name may have. -/
def nameLimit : Nat := 255

/-- How many bytes a path may have. -/
def pathLimit : Nat := 4095

/-- The location that pieces of a path lead to from a folder.  The last name need not be there;
`through` says whether a link as the last piece is followed. -/
def walk (t : FileTree) (through : Bool) (links : Nat) (here : Location) :
    List (List Char) → Except AccessError Location
  | [] => .ok here
  | w :: rest =>
      if Path.isSilent w then walk t through links here rest
      else if w = ['.', '.'] then walk t through links here.dropLast rest
      else
        let name := String.ofList w
        let next := here ++ [name]
        if nameLimit < name.utf8ByteSize then .error .nameTooLong
        else
          match t.entry? next with
          -- Slashes behind the last name do not matter where nothing is there.
          | none => if rest.all (·.isEmpty) then .ok next else .error .notFound
          | some .folder => walk t through links next rest
          | some (.file _ _) => if rest.isEmpty then .ok next else .error .notFolder
          | some (.link target) =>
              if rest.isEmpty && !through then .ok next
              else
                match links with
                | 0 => .error .linkLoop
                | links + 1 =>
                    -- What is left of the path goes on from the target.
                    walk t through links (if target.isAbsolute then [] else here)
                      (target.pieces ++ rest)
termination_by pieces => (links, pieces.length)

/-- The location that a path leads to. -/
def locate (t : FileTree) (through : Bool) (p : Path) : Except AccessError Location :=
  if p.chars.isEmpty then .error .notFound
  else if p.chars.contains '\x00' then .error .zeroInName
  else if pathLimit < p.text.utf8ByteSize then .error .nameTooLong
  else t.walk through linkLimit (if p.isAbsolute then [] else t.home) p.pieces

/-- The location and the entry that a path leads to. -/
def find (t : FileTree) (p : Path) : Except AccessError (Location × FileEntry) :=
  match t.locate true p with
  | .error e => .error e
  | .ok l =>
      match t.entry? l with
      | some e => .ok (l, e)
      | none => .error .notFound

/-! ## Reading -/

def isFile (t : FileTree) (p : Path) : Bool :=
  match t.find p with
  | .ok (_, .file _ _) => true
  | _ => false

def isFolder (t : FileTree) (p : Path) : Bool :=
  match t.find p with
  | .ok (_, .folder) => true
  | _ => false

/-- Whether there is something at the end of a path. -/
def holds (t : FileTree) (p : Path) : Bool := (t.find p).toBool

def read (t : FileTree) (p : Path) : Except AccessError ByteArray :=
  match t.find p with
  | .error e => .error e
  | .ok (_, .file bytes _) => .ok bytes
  -- No path ends at a link, as all links are followed.
  | .ok _ => .error .isFolder

/-- Reads a file that has to be text. -/
def readText (t : FileTree) (p : Path) : Except AccessError String :=
  match t.read p with
  | .error e => .error e
  | .ok bytes =>
      match Text.ofBytes? bytes with
      | some text => .ok text
      | none => .error .notText

/-- The absolute path without links of what is there. -/
def canonical? (t : FileTree) (p : Path) : Option Path :=
  match t.find p with
  | .ok (l, _) => some (Path.ofLocation l)
  | .error _ => none

/-- The absolute path without dots that `p` names. -/
def absolute (t : FileTree) (p : Path) : Path := p.absolute t.home

/-! ## Folders -/

/-- What is left of a location below a folder. -/
def below? : Location → Location → Option Location
  | [], l => some l
  | _ :: _, [] => none
  | a :: as, b :: bs => if a = b then below? as bs else none

/-- The folder that a path leads to. -/
def folder (t : FileTree) (p : Path) : Except AccessError Location :=
  match t.find p with
  | .error e => .error e
  | .ok (l, .folder) => .ok l
  | .ok _ => .error .notFolder

/-- The names in a folder, in order. -/
def namesIn (t : FileTree) (l : Location) : List String :=
  t.entries.keys.filterMap fun k =>
    match below? l k with
    | some [name] => some name
    | _ => none

/-- The files in a folder and the folders in it, in the order of their locations. -/
def filesBelow (t : FileTree) (l : Location) : List (Location × ByteArray) :=
  t.entries.toList.filterMap fun (k, entry) =>
    match below? l k, entry with
    | some rest, .file bytes _ => if rest.isEmpty then none else some (rest, bytes)
    | _, _ => none

end FileTree

end BinaryCoverage
