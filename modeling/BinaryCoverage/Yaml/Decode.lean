import BinaryCoverage.Yaml.Document
import BinaryCoverage.Yaml.Plain

/-!
# What a document means

A decoder turns a node into a value, or refuses it.  It is told how many more collections may be
open inside one another, and it may follow an alias only so often.

* A record is a mapping whose known keys occur at most once; other keys are skipped.
* An empty plain scalar is an empty record, list or object as well.
* Any scalar is text where text is asked for.
-/

namespace BinaryCoverage.Yaml

/-- Reads a node at a level; the state says how many more aliases may be followed. -/
abbrev Decoder (α : Type) : Type := Document → Nat → Node → StateT Nat Option α

/-- How many collections may be open inside one another. -/
def levels : Nat := 128

/-- How many aliases may be followed in a document. -/
def Document.jumps (d : Document) : Nat := 100 * d.size

/-- The node itself, or the one that an alias stands for. -/
def follow (d : Document) : Node → StateT Nat Option Node
  | .alias number => do
      let left ← get
      guard (0 < left)
      set (left - 1)
      match d.target? number with
      | some n => pure n
      | none => failure
  | n => pure n

/-- Whether a scalar may stand for an empty collection. -/
def isEmptyPlain (style : ScalarStyle) (text : String) : Bool := style = .plain && text.isEmpty

/-- One result after the other, in order. -/
def each {α β : Type} (f : α → StateT Nat Option β) : List α → StateT Nat Option (List β)
  | [] => pure []
  | a :: rest => do
      let b ← f a
      let bs ← each f rest
      pure (b :: bs)

def ofOption {α : Type} : Option α → StateT Nat Option α
  | some a => pure a
  | none => failure

namespace Decoder

def text : Decoder String := fun d _ n => do
  match ← follow d n with
  | .scalar _ _ text => pure text
  | _ => failure

/-- A truth value: plain, or in a literal block that is tagged as one. -/
def flag : Decoder Bool := fun d _ n => do
  match ← follow d n with
  | .scalar tag style text =>
      if style = .plain || (style = .literal && tag = some (coreTag "bool")) then
        ofOption (truth? text)
      else failure
  | _ => failure

/-- Nothing, or a value. -/
def nullable {α : Type} (item : Decoder α) : Decoder (Option α) := fun d level n => do
  let n ← follow d n
  let isThere ← match n with
    | .scalar tag .plain text =>
        match tag with
        | some t =>
            if t == coreTag "null" then (if isNullWord text then pure false else failure)
            else pure true
        | none => pure (!text.isEmpty && !isNullWord text)
    | _ => pure true
  if isThere then (item d level n).map some else pure none

def list {α : Type} (item : Decoder α) : Decoder (List α) := fun d level n => do
  match ← follow d n, level with
  | .sequence _ items, level + 1 => each (item d level) items
  | .scalar _ style text, _ => if isEmptyPlain style text then pure [] else failure
  | _, _ => failure

end Decoder

/-! ## Any value -/

/-- The value of a node; keys of mappings are texts, and the last of several with one key counts. -/
def valueOf (d : Document) : Nat → Node → StateT Nat Option Json
  | level, n => do
      match ← follow d n, level with
      | .scalar tag style text, _ => ofOption (scalarValue? tag style text)
      | .sequence tag items, level + 1 =>
          if isLocalTag tag then failure
          else
            let items ← each (valueOf d level) items
            pure (.array items)
      | .mapping tag entries, level + 1 =>
          if isLocalTag tag then failure
          else
            let fields ← each (fun (key, value) => do
              let key ← Decoder.text d level key
              let value ← valueOf d level value
              pure (key, value)) entries
            pure (.object fields)
      | _, _ => failure

def Decoder.payload : Decoder Payload := fun d level n => (valueOf d level n).map Payload.ofJson

/-! ## Records -/

/-- The fields of a record that are known and there, and the level inside it. -/
structure Fields where
  level : Nat
  present : List (String × Node)

namespace Fields

/-- Collects the values of known keys, each at most once; the others are skipped. -/
def collect (d : Document) (names : List String) :
    List (String × Node) → List (Node × Node) → StateT Nat Option (List (String × Node))
  | found, [] => pure found
  | found, (key, value) :: rest => do
      -- A key is text at any depth.
      let name ← Decoder.text d 0 key
      if names.contains name then
        guard !(found.any (·.1 == name))
        collect d names ((name, value) :: found) rest
      else collect d names found rest

/-- The fields of a record with the given names. -/
def ofNode (names : List String) : Decoder Fields := fun d level n => do
  match ← follow d n, level with
  | .mapping _ entries, level + 1 => do
      let present ← collect d names [] entries
      pure ⟨level, present⟩
  | .scalar _ style text, _ => if isEmptyPlain style text then pure ⟨0, []⟩ else failure
  | _, _ => failure

/-- A field that has to be there. -/
def required {α : Type} (f : Fields) (d : Document) (name : String) (item : Decoder α) :
    StateT Nat Option α :=
  match f.present.lookup name with
  | some n => item d f.level n
  | none => failure

/-- A field that may be missing. -/
def optional {α : Type} (f : Fields) (d : Document) (name : String) (missing : α)
    (item : Decoder α) : StateT Nat Option α :=
  match f.present.lookup name with
  | some n => item d f.level n
  | none => pure missing

end Fields

/-- The value that a decoder makes of a whole document. -/
def Document.decode? {α : Type} (d : Document) (item : Decoder α) : Option α := do
  let root ← d.root
  let (a, _) ← (item d levels root).run d.jumps
  some a

end BinaryCoverage.Yaml
