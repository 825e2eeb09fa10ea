import BinaryCoverage.Path.Basic

/-!
# Wildcards

A name pattern is a text with wildcards: `?` for any character, `*` for any stretch, brackets for
one of some characters, and `**` alone for any depth of folders.  This file defines:

* `Wildcard.read?` — the parts of a text with wildcards;
* `NamePattern.matches` — whether a name is of the form;
* `Glob.read?` — the name patterns of a whole path.
-/

namespace BinaryCoverage

/-- The characters from `low` to `high`. -/
structure CharStretch where
  low : Char
  high : Char
  deriving DecidableEq, Repr

inductive Wildcard where
  | char (c : Char)
  | anyChar
  | anyText
  | anyDepth
  | within (stretches : List CharStretch)
  | except (stretches : List CharStretch)
  deriving DecidableEq, Repr

namespace Wildcard

/-- The characters that brackets list; a hyphen between two of them means a stretch. -/
def stretches : List Char → List CharStretch
  | low :: '-' :: high :: rest => ⟨low, high⟩ :: stretches rest
  | c :: rest => ⟨c, c⟩ :: stretches rest
  | [] => []

/-- The part that an opening bracket begins.  At least one character stands before the closing
bracket, and it may be one itself. -/
def readBracket? (cs : List Char) : Option (Wildcard × List Char) :=
  -- The first character inside is never the end, so that a bracket can list itself.
  let close? (first : Char) (rest : List Char) : Option (List Char × List Char) :=
    match rest.dropWhile (· != ']') with
    | [] => none
    | _ :: after => some (first :: rest.takeWhile (· != ']'), after)
  match cs with
  | '!' :: first :: rest => (close? first rest).map fun (inside, after) =>
      (.except (stretches inside), after)
  | first :: rest =>
      if first == '!' then none
      else (close? first rest).map fun (inside, after) => (.within (stretches inside), after)
  | [] => none

/-- Whether `**` may stand between what comes before and after it: slashes, or the ends. -/
def standsAlone (before : Option Char) (after : List Char) : Bool :=
  (before.isNone || before == some '/') && (after.isEmpty || after.head? == some '/')

/-- The parts of a text, of which `before` is the character that came last. -/
def readAfter? : Nat → Option Char → List Char → Option (List Wildcard)
  | 0, _, _ => none
  | _ + 1, _, [] => some []
  | fuel + 1, before, c :: rest =>
      if c == '?' then (readAfter? fuel (some c) rest).map (.anyChar :: ·)
      else if c == '*' then
        match rest with
        | '*' :: rest =>
            -- Two stars inside a name are no pattern.
            if standsAlone before rest then
              (readAfter? fuel (some '*') rest).map (.anyDepth :: ·)
            else none
        | _ => (readAfter? fuel (some '*') rest).map (.anyText :: ·)
      else if c == '[' then do
        let (w, rest) ← readBracket? rest
        (readAfter? fuel (some ']') rest).map (w :: ·)
      else (readAfter? fuel (some c) rest).map (.char c :: ·)

def read? (cs : List Char) : Option (List Wildcard) := readAfter? (cs.length + 1) none cs

end Wildcard

/-! ## Names -/

abbrev NamePattern : Type := List Wildcard

namespace NamePattern

def inStretches (ss : List CharStretch) (c : Char) : Bool := ss.any fun s => s.low ≤ c && c ≤ s.high

/-- Whether a match of the rest begins at some later point of the text. -/
def skipTo (rest : List Char → Bool) : List Char → Bool
  | [] => rest []
  | c :: cs => rest (c :: cs) || skipTo rest cs

def matchesChars : List Wildcard → List Char → Bool
  | [], cs => cs.isEmpty
  | .anyText :: ws, cs => skipTo (matchesChars ws) cs
  | .anyDepth :: ws, cs => matchesChars ws cs
  | .char d :: ws, c :: cs => c == d && matchesChars ws cs
  | .anyChar :: ws, _ :: cs => matchesChars ws cs
  | .within ss :: ws, c :: cs => inStretches ss c && matchesChars ws cs
  | .except ss :: ws, c :: cs => !inStretches ss c && matchesChars ws cs
  | _ :: _, [] => false

def «matches» (p : NamePattern) (name : String) : Bool := matchesChars p name.toList

/-- The text that a pattern without wildcards stands for. -/
def literal? : NamePattern → Option (List Char)
  | [] => some []
  | .char c :: ws => (literal? ws).map (c :: ·)
  | _ :: _ => none

def isAnyDepth (p : NamePattern) : Bool := p.contains .anyDepth

end NamePattern

/-! ## Paths -/

/-- A pattern for paths: one for each name, from the root or from the home of the tree. -/
structure Glob where
  fromRoot : Bool
  names : List NamePattern
  /-- Whether only folders are meant. -/
  foldersOnly : Bool

namespace Glob

/-- The pieces between slashes, without an empty one at the end. -/
def piecesOf (cs : List Char) : List (List Char) :=
  let ws := Text.pieces (· == '/') cs
  if ws.getLast? == some [] then ws.dropLast else ws

def read? (text : String) : Option Glob := do
  let cs := text.toList
  -- A pattern is refused as a whole; only then is it taken apart at its slashes.
  let _ ← Wildcard.read? cs
  let fromRoot := cs.head? == some '/'
  let below := if fromRoot then cs.drop 1 else cs
  let names ← (piecesOf below).mapM Wildcard.read?
  -- The pattern for the root is one empty name.
  let names := if below.isEmpty then [[]] else names
  some ⟨fromRoot, names, cs.getLast? == some '/'⟩

end Glob

end BinaryCoverage
