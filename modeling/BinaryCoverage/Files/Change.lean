import BinaryCoverage.Files.Tree

/-!
# Changing a file tree

Files are written where a path leads, along links, in folders that are there; folders are made one
by one or with those above them.
-/

namespace BinaryCoverage.FileTree

open BinaryCoverage.Path (Location)

/-- Puts bytes where a location leads: into the file that is there or into a new one. -/
def put (t : FileTree) (l : Location) (bytes : ByteArray) : Except AccessError FileTree :=
  match t.entry? l with
  | some .folder => .error .isFolder
  | some (.file _ executable) =>
      .ok { t with entries := t.entries.insert l (.file bytes executable) }
  -- Where all links are followed none is left.
  | some (.link _) => .error .linkLoop
  | none => .ok { t with entries := t.entries.insert l (.file bytes false) }

/-- The path without the slashes at its end. -/
def bare (p : Path) : Path := Path.ofChars (p.chars.reverse.dropWhile (· == '/')).reverse

/-- Writes a file; only a folder can have a slash after it. -/
def write (t : FileTree) (p : Path) (bytes : ByteArray) : Except AccessError FileTree :=
  if p.chars.getLast? = some '/' then
    match t.locate false (bare p) with
    | .error e => if (bare p).chars.isEmpty then .error .isFolder else .error e
    | .ok _ => .error .isFolder
  else
    match t.locate true p with
    | .error e => .error e
    | .ok l => t.put l bytes

def writeText (t : FileTree) (p : Path) (text : String) : Except AccessError FileTree :=
  t.write p text.toUTF8

/-- Makes a folder in one that is there. -/
def makeFolder (t : FileTree) (p : Path) : Except AccessError FileTree :=
  match t.locate false p with
  | .error e => .error e
  | .ok l =>
      match t.entry? l with
      | some _ => .error .exists
      | none => .ok { t with entries := t.entries.insert l .folder }

/-- Makes a folder unless there is one. -/
def ensureFolder (t : FileTree) (p : Path) : Except AccessError FileTree :=
  match t.makeFolder p with
  | .ok t => .ok t
  -- A folder that is there already is no failure.
  | .error e => if t.isFolder p then .ok t else .error e

/-- Makes a folder and those above it; the number bounds how many those are. -/
def ensureFoldersWithin : Nat → FileTree → Path → Except AccessError FileTree
  | 0, t, p => t.ensureFolder p
  | n + 1, t, p =>
      if p.chars.isEmpty then .ok t
      else
        match t.makeFolder p with
        | .ok t => .ok t
        -- The folder above is missing, and is made first.
        | .error .notFound =>
            match p.parent? with
            | none => .error .notFound
            | some q => (ensureFoldersWithin n t q).bind (·.ensureFolder p)
        | .error e => if t.isFolder p then .ok t else .error e

/-- Makes a folder and those above it. -/
def ensureFolders (t : FileTree) (p : Path) : Except AccessError FileTree :=
  ensureFoldersWithin p.components.length t p

/-- Makes a link. -/
def makeLink (t : FileTree) (p target : Path) : Except AccessError FileTree :=
  match t.locate false p with
  | .error e => .error e
  | .ok l =>
      match t.entry? l with
      | some _ => .error .exists
      | none => .ok { t with entries := t.entries.insert l (.link target) }

/-- Lets the file at the end of a path be run. -/
def allowRunning (t : FileTree) (p : Path) : FileTree :=
  match t.find p with
  | .ok (l, .file bytes _) => { t with entries := t.entries.insert l (.file bytes true) }
  | _ => t

/-- Removes what stands at a path, with everything in it. -/
def remove (t : FileTree) (p : Path) : FileTree :=
  match t.locate false p with
  | .error _ => t
  | .ok l => { t with entries := t.entries.filter fun k _ => (below? l k).isNone }

end BinaryCoverage.FileTree
