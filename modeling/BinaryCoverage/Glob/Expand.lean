import BinaryCoverage.Files.Tree
import BinaryCoverage.Glob.Basic

/-!
# The paths that a pattern matches

A name without wildcards is looked for directly, any other one is compared with the names in its
folder.  Links to folders are followed.  This file defines:

* `Glob.paths` — the matching paths of a file tree.
-/

namespace BinaryCoverage.Glob

variable (t : FileTree) (foldersOnly : Bool)

/-- A path seen from a folder, of which the home itself is left out. -/
def childOf (p : Path) (name : List Char) : Path :=
  if p.components = [.current] then Path.ofChars name else p.join (Path.ofChars name)

/-- Whether something stands at a path, be it a link that leads nowhere. -/
def stands (p : Path) : Bool :=
  match t.locate false p with
  | .ok l => (t.entry? l).isSome
  | .error _ => false

/-- The path as the end of a match. -/
def result (p : Path) : List Path := if foldersOnly && !t.isFolder p then [] else [p]

/-- The patterns from the last of those for any depth that come first. -/
def collapse : List NamePattern → List NamePattern
  | p :: q :: rest => if q.isAnyDepth then collapse (q :: rest) else p :: q :: rest
  | ps => ps

/-- The one or two dots that a pattern with a dot in front matches, the latter first. -/
def dotsOf (p : NamePattern) : List (List Char) :=
  if p.head? = some (.char '.') then
    [['.', '.'], ['.']].filter (NamePattern.matchesChars p)
  else []

mutual

/-- The paths below `here` that match the patterns. -/
def under : Nat → List NamePattern → Path → List Path
  | 0, _, _ => []
  | _ + 1, [], _ => []
  | fuel + 1, p :: rest, here =>
      let next (there : Path) : List Path :=
        if rest.isEmpty then result t foldersOnly there else under fuel rest there
      match p.literal? with
      | some name =>
          let there := childOf here name
          -- Dots are not listed in a folder, and lead on from any.
          let isDots := name = ['.'] || name = ['.', '.']
          if if isDots then t.isFolder here else stands t there then next there else []
      | none =>
          match t.folder here with
          | .error _ => []
          | .ok l =>
              ((dotsOf p).flatMap fun dots => next (here.join (Path.ofChars dots))) ++
                (t.namesIn l).flatMap fun name => visit fuel (p :: rest) (childOf here name.toList)

/-- The paths that match from `there` on, which is to match the first of the patterns. -/
def visit : Nat → List NamePattern → Path → List Path
  | 0, _, _ => []
  | fuel + 1, ps, there =>
      if (ps.head?).any (·.isAnyDepth) then
        let ps := collapse ps
        let rest := ps.drop 1
        let deeper := if t.isFolder there then under fuel ps there else []
        -- Any depth includes none, so that the folder itself is one match.
        if rest.isEmpty then (if t.isFolder there then [there] else []) ++ deeper
        else named fuel rest there ++ deeper
      else named fuel ps there

/-- The paths that match from `there` on, whose name is to match the first of the patterns. -/
def named : Nat → List NamePattern → Path → List Path
  | 0, _, _ => []
  | _ + 1, [], _ => []
  | fuel + 1, p :: rest, there =>
      if (there.fileName?).any (NamePattern.matches p) then
        if rest.isEmpty then result t foldersOnly there else under fuel rest there
      else []

end

/-- How deep a match can lead: through every folder once between one link and the next. -/
def depthLimit (g : Glob) : Nat :=
  3 * (g.names.length + (FileTree.linkLimit + 1) * (t.entries.size + t.home.length + 2))

/-- The paths of a file tree that match. -/
def paths (g : Glob) : List Path :=
  under t g.foldersOnly (g.depthLimit t) g.names ⟨if g.fromRoot then "/" else "."⟩

end BinaryCoverage.Glob
