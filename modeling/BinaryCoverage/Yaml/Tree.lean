import BinaryCoverage.Table
import BinaryCoverage.Yaml.Token

/-!
# From tokens to trees

A document is a scalar, a sequence or a mapping of nodes.  A node may be missing where its tokens
would stand; it is an empty plain scalar then.  This file defines:

* `Tree` — nodes with the names of their anchors and with full tags;
* `node?` — the node that begins the given tokens;
* `document?` — the node of a text with at most one document.
-/

namespace BinaryCoverage.Yaml

/-- The anchor and the tag of a node. -/
structure Properties where
  anchor : Option String := none
  tag : Option String := none
  deriving DecidableEq, Repr

inductive Tree where
  | alias (name : String)
  | scalar (p : Properties) (style : ScalarStyle) (text : String)
  | sequence (p : Properties) (items : List Tree)
  | mapping (p : Properties) (entries : List (Tree × Tree))
  deriving Inhabited

namespace Tree

/-- A node that is not there. -/
def missing : Tree := .scalar {} .plain ""

end Tree

/-! ## Properties -/

/-- The handles of tags and what they stand for. -/
abbrev Handles : Type := List (String × String)

def defaultHandles : Handles := [("!", "!"), ("!!", "tag:yaml.org,2002:")]

/-- The tag with a given handle and rest. -/
def fullTag? (handles : Handles) (handle ending : String) : Option String :=
  if handle.isEmpty then some ending else (handles.lookup handle).map (· ++ ending)

/-- The properties in front of a node; at most one anchor and one tag, in either order. -/
def properties? (handles : Handles) : List Token → Option (Properties × List Token)
  | .anchor a :: .tag h e :: rest =>
      (fullTag? handles h e).map fun tag => ({ anchor := some a, tag := some tag }, rest)
  | .tag h e :: .anchor a :: rest =>
      (fullTag? handles h e).map fun tag => ({ anchor := some a, tag := some tag }, rest)
  | .anchor a :: rest => some ({ anchor := some a }, rest)
  | .tag h e :: rest => (fullTag? handles h e).map fun tag => ({ tag := some tag }, rest)
  | tokens => some ({}, tokens)

/-- The tag `!` says nothing about a scalar. -/
def Properties.forScalar (p : Properties) : Properties :=
  if p.tag = some "!" then { p with tag := none } else p

/-! ## Nodes -/

/-- Whether a block node is missing before the next token. -/
def endsBlockValue : List Token → Bool
  | .key :: _ => true
  | .value :: _ => true
  | .blockEnd :: _ => true
  | _ => false

/-- Whether an entry of a block sequence is missing before the next token. -/
def endsEntry : List Token → Bool
  | .blockEntry :: _ => true
  | .blockEnd :: _ => true
  | _ => false

/-- Whether an entry of a sequence without indentation is missing before the next token. -/
def endsBareEntry (tokens : List Token) : Bool := endsEntry tokens || endsBlockValue tokens

/-- Whether a node of a flow collection is missing before the next token. -/
def endsFlowNode (close : Token) : List Token → Bool
  | t :: _ => t = .value || t = .flowEntry || t = close
  | [] => false

/-- Whether a value of a flow collection is missing before the next token. -/
def endsFlowValue (close : Token) : List Token → Bool
  | t :: _ => t = .flowEntry || t = close
  | [] => false

/-- The tokens after the comma that every entry but the first needs. -/
def afterComma? (first : Bool) (tokens : List Token) : Option (List Token) :=
  if first then some tokens
  else
    match tokens with
    | .flowEntry :: rest => some rest
    | _ => none

mutual

/-- The node at the start of the tokens, and the tokens after it.  Blocks are allowed in it when
`block` is set, and a sequence without indentation when `bare` is. -/
def node? (handles : Handles) (block bare : Bool) : Nat → List Token → Option (Tree × List Token)
  | 0, _ => none
  | _ + 1, .alias name :: rest => some (.alias name, rest)
  | fuel + 1, tokens => do
      let (p, rest) ← properties? handles tokens
      match rest with
      | .blockEntry :: _ =>
          if bare then
            let (items, rest) ← bareItems? handles fuel rest
            some (.sequence p items, rest)
          else if p = {} then none
          else some (.scalar p .plain "", rest)
      | .scalar style text :: rest => some (.scalar p.forScalar style text, rest)
      | .flowSequence :: rest =>
          let (items, rest) ← flowItems? handles fuel true rest
          some (.sequence p items, rest)
      | .flowMapping :: rest =>
          let (entries, rest) ← flowEntries? handles fuel true rest
          some (.mapping p entries, rest)
      | .blockSequence :: after =>
          if block then
            let (items, rest) ← blockItems? handles fuel after
            some (.sequence p items, rest)
          else if p = {} then none
          else some (.scalar p .plain "", rest)
      | .blockMapping :: after =>
          if block then
            let (entries, rest) ← blockEntries? handles fuel after
            some (.mapping p entries, rest)
          else if p = {} then none
          else some (.scalar p .plain "", rest)
      | _ => if p = {} then none else some (.scalar p .plain "", rest)

/-- The items of a block sequence, up to its end. -/
def blockItems? (handles : Handles) : Nat → List Token → Option (List Tree × List Token)
  | 0, _ => none
  | fuel + 1, .blockEntry :: rest => do
      let (item, rest) ←
        if endsEntry rest then some (Tree.missing, rest) else node? handles true false fuel rest
      let (items, rest) ← blockItems? handles fuel rest
      some (item :: items, rest)
  | _ + 1, .blockEnd :: rest => some ([], rest)
  | _ + 1, _ => none

/-- The items of a sequence without indentation, which ends where no further item begins. -/
def bareItems? (handles : Handles) : Nat → List Token → Option (List Tree × List Token)
  | 0, _ => none
  | fuel + 1, .blockEntry :: rest => do
      let (item, rest) ←
        if endsBareEntry rest then some (Tree.missing, rest) else node? handles true false fuel rest
      let (items, rest) ← bareItems? handles fuel rest
      some (item :: items, rest)
  -- The block around it ends the sequence, which has no end of its own.
  | _ + 1, rest => some ([], rest)

/-- The value of an entry of a block mapping. -/
def blockValue? (handles : Handles) : Nat → List Token → Option (Tree × List Token)
  | 0, _ => none
  | fuel + 1, .value :: rest =>
      if endsBlockValue rest then some (Tree.missing, rest) else node? handles true true fuel rest
  | _ + 1, rest => some (Tree.missing, rest)

/-- The entries of a block mapping, up to its end. -/
def blockEntries? (handles : Handles) : Nat → List Token → Option (List (Tree × Tree) × List Token)
  | 0, _ => none
  | fuel + 1, .key :: rest => do
      let (key, rest) ←
        if endsBlockValue rest then some (Tree.missing, rest) else node? handles true true fuel rest
      let (value, rest) ← blockValue? handles fuel rest
      let (entries, rest) ← blockEntries? handles fuel rest
      some ((key, value) :: entries, rest)
  | _ + 1, .blockEnd :: rest => some ([], rest)
  | _ + 1, _ => none

/-- The value of an entry of a flow collection that ends with a given token. -/
def flowValue? (handles : Handles) (close : Token) : Nat → List Token → Option (Tree × List Token)
  | 0, _ => none
  | fuel + 1, .value :: rest =>
      if endsFlowValue close rest then some (Tree.missing, rest)
      else node? handles false false fuel rest
  | _ + 1, rest => some (Tree.missing, rest)

/-- The items of a flow sequence, up to its end; `first` says whether none came before. -/
def flowItems? (handles : Handles) : Nat → Bool → List Token → Option (List Tree × List Token)
  | 0, _, _ => none
  | _ + 1, _, .flowSequenceEnd :: rest => some ([], rest)
  | fuel + 1, first, tokens => do
      let rest ← afterComma? first tokens
      match rest with
      | .flowSequenceEnd :: rest => some ([], rest)
      -- A pair in a sequence is a mapping of its own.
      | .key :: rest =>
          let (key, rest) ←
            if endsFlowNode .flowSequenceEnd rest then some (Tree.missing, rest.drop 1)
            else node? handles false false fuel rest
          let (value, rest) ← flowValue? handles .flowSequenceEnd fuel rest
          let (items, rest) ← flowItems? handles fuel false rest
          some (.mapping {} [(key, value)] :: items, rest)
      | rest =>
          let (item, rest) ← node? handles false false fuel rest
          let (items, rest) ← flowItems? handles fuel false rest
          some (item :: items, rest)

/-- The entries of a flow mapping, up to its end; `first` says whether none came before. -/
def flowEntries? (handles : Handles) :
    Nat → Bool → List Token → Option (List (Tree × Tree) × List Token)
  | 0, _, _ => none
  | _ + 1, _, .flowMappingEnd :: rest => some ([], rest)
  | fuel + 1, first, tokens => do
      let rest ← afterComma? first tokens
      match rest with
      | .flowMappingEnd :: rest => some ([], rest)
      | .key :: rest =>
          let (key, rest) ←
            if endsFlowNode .flowMappingEnd rest then some (Tree.missing, rest)
            else node? handles false false fuel rest
          let (value, rest) ← flowValue? handles .flowMappingEnd fuel rest
          let (entries, rest) ← flowEntries? handles fuel false rest
          some ((key, value) :: entries, rest)
      | rest =>
          let (key, rest) ← node? handles false false fuel rest
          let (entries, rest) ← flowEntries? handles fuel false rest
          some ((key, Tree.missing) :: entries, rest)

end

/-! ## Documents -/

/-- What the directives in front of a document say. -/
structure Directives where
  versioned : Bool := false
  handles : Handles := []

/-- The directives in front of a document, each at most once. -/
def directives? : Directives → List Token → Option (Directives × List Token)
  | d, .version major minor :: rest => do
      guard (!d.versioned && major = 1 && (minor = 1 || minor = 2))
      directives? { d with versioned := true } rest
  | d, .tagHandle handle expansion :: rest => do
      guard (d.handles.lookup handle).isNone
      directives? { d with handles := (handle, expansion) :: d.handles } rest
  | d, rest => some (d, rest)

/-- Whether a document without content ends before the next token. -/
def endsDocument : List Token → Bool
  | [] => true
  | .version _ _ :: _ => true
  | .tagHandle _ _ :: _ => true
  | .documentStart :: _ => true
  | .documentEnd :: _ => true
  | _ => false

/-- The tokens after the ends of a document. -/
def skipEnds : List Token → List Token
  | .documentEnd :: rest => skipEnds rest
  | rest => rest

/-- The only document of the tokens; `none` inside stands for a text without any. -/
def document? (tokens : List Token) : Option (Option Tree) :=
  let fuel := 4 * tokens.length + 4
  match tokens with
  | [] => some none
  | .version _ _ :: _ | .tagHandle _ _ :: _ | .documentStart :: _ => do
      let (d, rest) ← directives? {} tokens
      match rest with
      | .documentStart :: rest =>
          let (tree, rest) ←
            if endsDocument rest then some (Tree.missing, rest)
            else node? (d.handles ++ defaultHandles) true false fuel rest
          guard (skipEnds rest).isEmpty
          some (some tree)
      | _ => none
  | tokens => do
      let (tree, rest) ← node? defaultHandles true false fuel tokens
      guard (skipEnds rest).isEmpty
      some (some tree)

end BinaryCoverage.Yaml
