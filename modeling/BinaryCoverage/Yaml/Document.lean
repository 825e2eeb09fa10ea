import BinaryCoverage.Yaml.Lexer
import BinaryCoverage.Yaml.Tree

/-!
# Documents with aliases

An alias stands for the node at a place of the document.  Places are numbered in reading order.
Each anchored node gets a number that counts the different names of anchors so far, and the latest
node of a number is what an alias with it stands for.  This file defines:

* `Node` — nodes in which aliases have numbers;
* `Document.read?` — the document of a text.
-/

namespace BinaryCoverage.Yaml

inductive Node where
  | alias (number : Nat)
  | scalar (tag : Option String) (style : ScalarStyle) (text : String)
  | sequence (tag : Option String) (items : List Node)
  | mapping (tag : Option String) (entries : List (Node × Node))
  deriving Inhabited

structure Document where
  root : Option Node := none
  /-- The place of the node that each number stands for. -/
  places : Table Nat Nat := ∅
  /-- The anchored nodes by place. -/
  anchored : Table Nat Node := ∅
  /-- The number of places. -/
  size : Nat := 1

/-- What is known after some places have been numbered. -/
structure Numbering where
  names : Table String Nat := ∅
  places : Table Nat Nat := ∅
  anchored : Table Nat Node := ∅
  next : Nat := 0

namespace Numbering

/-- Takes the next place, for a node that may have an anchor. -/
def enter (s : Numbering) (anchor : Option String) : Numbering :=
  match anchor with
  | none => { s with next := s.next + 1 }
  | some name =>
      -- A name that comes again takes the next number, but does not use it up.
      let number := s.names.size
      { s with
        names := s.names.insert name number
        places := s.places.insert number s.next
        next := s.next + 1 }

/-- Takes the place at the end of a collection. -/
def leave (s : Numbering) : Numbering := { s with next := s.next + 1 }

/-- Keeps a node that has an anchor. -/
def keep (s : Numbering) (anchor : Option String) (place : Nat) (n : Node) : Numbering :=
  if anchor.isSome then { s with anchored := s.anchored.insert place n } else s

mutual

/-- The node with its places numbered; an alias needs an anchor before it. -/
def node? (s : Numbering) : Tree → Option (Node × Numbering)
  | .alias name => do some (.alias (← s.names[name]?), s.leave)
  | .scalar p style text =>
      let n : Node := .scalar p.tag style text
      some (n, (s.enter p.anchor).keep p.anchor s.next n)
  | .sequence p items => do
      let (items, t) ← items? (s.enter p.anchor) items
      let n : Node := .sequence p.tag items
      some (n, t.leave.keep p.anchor s.next n)
  | .mapping p entries => do
      let (entries, t) ← entries? (s.enter p.anchor) entries
      let n : Node := .mapping p.tag entries
      some (n, t.leave.keep p.anchor s.next n)

def items? (s : Numbering) : List Tree → Option (List Node × Numbering)
  | [] => some ([], s)
  | item :: rest => do
      let (item, s) ← node? s item
      let (rest, s) ← items? s rest
      some (item :: rest, s)

def entries? (s : Numbering) : List (Tree × Tree) → Option (List (Node × Node) × Numbering)
  | [] => some ([], s)
  | (key, value) :: rest => do
      let (key, s) ← node? s key
      let (value, s) ← node? s value
      let (rest, s) ← entries? s rest
      some ((key, value) :: rest, s)

end

end Numbering

namespace Document

def ofTree? : Option Tree → Option Document
  | none => some {}
  | some tree =>
      (Numbering.node? {} tree).map fun (root, s) =>
        { root := some root, places := s.places, anchored := s.anchored, size := s.next }

/-- The node that an alias stands for. -/
def target? (d : Document) (number : Nat) : Option Node := do
  let place ← d.places[number]?
  d.anchored[place]?

/-- The document of a text with at most one. -/
def read? (text : String) : Option Document := do
  ofTree? (← document? (← tokens? text))

end Document

end BinaryCoverage.Yaml
