import BinaryCoverage.Table
import BinaryCoverage.Text.Blank

/-!
# Paths

A path is a text whose pieces stand between slashes.  Empty pieces and single dots inside it say
nothing, so that two texts may name the same components.  This file defines:

* `Path.components` — what a path names, piece by piece;
* `Path.join` — a path taken from another one, unless it is absolute itself;
* `Path.stripPrefix?` — what is left of a path below another one;
* `Path.fileName?`, `Path.stem?`, `Path.extension?`, `Path.parent?` — parts of a path.
-/

namespace BinaryCoverage

/-- The root, a leading dot, two dots, or a name. -/
inductive Component where
  | root
  | current
  | parent
  | name (text : String)
  deriving DecidableEq, Repr

namespace Component

/-- The place of a component among those of other kinds. -/
def rank : Component → Nat
  | .root => 0
  | .current => 1
  | .parent => 2
  | .name _ => 3

def text : Component → String
  | .root => "/"
  | .current => "."
  | .parent => ".."
  | .name text => text

/-- By kind, and names by their texts. -/
instance : Ord Component := ⟨compareLex (compareOn rank) (compareOn text)⟩

instance : Std.TransOrd Component :=
  inferInstanceAs (Std.TransCmp (compareLex (compareOn rank) (compareOn text)))

instance : Std.LawfulEqOrd Component where
  eq_of_compare {a b} h := by
    have h : compareLex (compareOn rank) (compareOn text) a b = .eq := h
    rw [compareLex_eq_eq] at h
    have hr : a.rank = b.rank := Std.LawfulEqOrd.eq_of_compare h.1
    have ht : a.text = b.text := Std.LawfulEqOrd.eq_of_compare h.2
    cases a <;> cases b <;> simp_all [rank, text]

end Component

structure Path where
  text : String
  deriving DecidableEq, Repr, Inhabited

namespace Path

def chars (p : Path) : List Char := p.text.toList

def ofChars (cs : List Char) : Path := ⟨String.ofList cs⟩

/-! ## Pieces -/

/-- The pieces between slashes. -/
def pieces (p : Path) : List (List Char) := Text.pieces (· == '/') p.chars

/-- The text with slashes between the given pieces. -/
def joinPieces : List (List Char) → List Char
  | [] => []
  | [w] => w
  | w :: ws => w ++ '/' :: joinPieces ws

/-- A piece that names nothing. -/
def isSilent (w : List Char) : Bool := w.isEmpty || w == ['.']

/-- A path begins with a slash, with a dot of its own, or directly with its names. -/
inductive Start where
  | root
  | current
  | direct
  deriving DecidableEq

def start (p : Path) : Start :=
  match p.chars with
  | '/' :: _ => .root
  -- A name that only begins with a dot is no such start.
  | ['.'] => .current
  | '.' :: '/' :: _ => .current
  | _ => .direct

def isAbsolute (p : Path) : Bool := p.start = .root

/-- The pieces after the start. -/
def body (p : Path) : List (List Char) :=
  match p.start with
  | .direct => p.pieces
  | _ => p.pieces.drop 1

/-- Leaves out the silent pieces at the end. -/
def trimPieces (ws : List (List Char)) : List (List Char) :=
  (ws.reverse.dropWhile isSilent).reverse

/-- A path from its start and the pieces after it. -/
def assemble : Start → List (List Char) → Path
  | .root, ws => ofChars ('/' :: joinPieces ws)
  | .current, [] => ⟨"."⟩
  | .current, ws => ofChars ('.' :: '/' :: joinPieces ws)
  | .direct, ws => ofChars (joinPieces ws)

/-! ## Components -/

def componentOf (w : List Char) : Component :=
  if w = ['.', '.'] then .parent else .name (String.ofList w)

def Start.components : Start → List Component
  | .root => [.root]
  | .current => [.current]
  | .direct => []

/-- The components after the start. -/
def bodyComponents (p : Path) : List Component :=
  (p.body.filter (!isSilent ·)).map componentOf

def components (p : Path) : List Component := p.start.components ++ p.bodyComponents

/-! ## Operations -/

/-- The path `q` as seen from `p`; an absolute path stays what it is. -/
def join (p q : Path) : Path :=
  if q.isAbsolute then q
  else if p.chars.isEmpty || p.chars.getLast? == some '/' then ⟨p.text ++ q.text⟩
  else ⟨p.text ++ "/" ++ q.text⟩

/-- The pieces after the first `n` that name something. -/
def dropNames : Nat → List (List Char) → List (List Char)
  | 0, ws => ws
  | _ + 1, [] => []
  -- Silent pieces are dropped along, but do not count.
  | n + 1, w :: ws => if isSilent w then dropNames (n + 1) ws else dropNames n ws

/-- What is left of `p` below `base`, if the components of `base` come first in it. -/
def stripPrefix? (p base : Path) : Option Path :=
  if base.components.isPrefixOf p.components then
    -- Below the empty path everything keeps its start.
    if base.components.isEmpty then some (assemble p.start (trimPieces p.body))
    else
      let rest := dropNames base.bodyComponents.length p.body
      some (assemble .direct (trimPieces (rest.dropWhile isSilent)))
  else none

/-- The last component, if it is a name. -/
def fileName? (p : Path) : Option String :=
  match p.components.getLast? with
  | some (.name text) => some text
  | _ => none

/-- The parts of a name before and after its last dot, unless that dot comes first. -/
def splitDot? (name : List Char) : Option (List Char × List Char) :=
  let extension := name.reverse.takeWhile (· != '.')
  match name.reverse.dropWhile (· != '.') with
  | [] => none
  -- A dot in front is part of the name.
  | _ :: before => if before.isEmpty then none else some (before.reverse, extension.reverse)

/-- The file name without its extension. -/
def stem? (p : Path) : Option String :=
  p.fileName?.map fun name =>
    match splitDot? name.toList with
    | some (stem, _) => String.ofList stem
    | none => name

def extension? (p : Path) : Option String := do
  let (_, extension) ← splitDot? (← p.fileName?).toList
  some (String.ofList extension)

/-- The path without its last component. -/
def parent? (p : Path) : Option Path :=
  match p.start, (trimPieces p.body).reverse with
  | .root, [] => none
  | .current, [] => some ⟨""⟩
  | .direct, [] => none
  | s, _ :: before => some (assemble s (trimPieces before.reverse))

/-! ## Locations -/

/-- The names that lead from the root of a file tree to a place in it. -/
abbrev Location : Type := List String

/-- The place that components lead to from `here`, with two dots leading back. -/
def follow : Location → List Component → Location
  | here, [] => here
  | _, .root :: rest => follow [] rest
  | here, .current :: rest => follow here rest
  -- Above the root there is the root again.
  | here, .parent :: rest => follow here.dropLast rest
  | here, .name text :: rest => follow (here ++ [text]) rest

/-- The absolute path of a place. -/
def ofLocation (l : Location) : Path := assemble .root (l.map String.toList)

/-- The absolute path without dots that `p` names from `here`. -/
def absolute (here : Location) (p : Path) : Path := ofLocation (follow here p.components)

end Path

end BinaryCoverage
