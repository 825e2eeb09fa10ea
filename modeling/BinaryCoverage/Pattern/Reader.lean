import BinaryCoverage.Pattern.Bracket
import BinaryCoverage.Pattern.Fault
import BinaryCoverage.Pattern.Match

/-!
# Reading patterns

A pattern is a choice between sequences of characters, sets, looks, groups and repetitions.  There
is no looking around and no reference back.  This file defines:

* `readParts?` — the parts of a group up to its end;
* `Pattern.read?` — the pattern that makes up a whole text, if it is neither nested too deeply nor
  too large.
-/

namespace BinaryCoverage.Pattern

/-! ## Names of groups -/

def isGroupNameStart (c : Char) : Bool := c == '_' || Unicode.isAlphabetic c

def isGroupNameChar (c : Char) : Bool :=
  c == '_' || c == '.' || c == '[' || c == ']' || Unicode.isAlphabetic c || Unicode.isNumeric c

/-- The name of a group and what follows the bracket that ends it. -/
def readGroupName? (cs : List Char) : Option (String × List Char) :=
  let name := cs.takeWhile (· != '>')
  match name, cs.dropWhile (· != '>') with
  | c :: more, _ :: rest =>
      if isGroupNameStart c && more.all isGroupNameChar then
        some (String.ofList (c :: more), rest)
      else none
  | _, _ => none

/-! ## Repetitions -/

/-- A number with blanks around it, below `2 ^ 32`. -/
def readCount? (f : Flags) : Nat → List Char → Nat × Bool × List Char
  | 0, cs => (0, false, cs)
  | fuel + 1, c :: rest =>
      if Text.isDigit c then go fuel (c.toNat - '0'.toNat) (f.skip rest)
      else if Text.isBlank c then readCount? f fuel rest
      else (0, false, c :: rest)
  | _ + 1, [] => (0, false, [])
where
  go : Nat → Nat → List Char → Nat × Bool × List Char
  | fuel + 1, n, c :: rest =>
      if Text.isDigit c then go fuel (n * 10 + (c.toNat - '0'.toNat)) (f.skip rest)
      else (n, true, Text.trimStart (c :: rest))
  | _, n, cs => (n, true, Text.trimStart cs)

def count? (f : Flags) (cs : List Char) : Option (Nat × List Char) :=
  match readCount? f cs.length cs with
  | (n, true, rest) => if n < UInt32.size then some (n, f.skip rest) else none
  | _ => none

/-- The bounds of a repetition, after the opening brace. -/
def readBounds? (f : Flags) (cs : List Char) : Option (Nat × Option Nat × List Char) := do
  let (least, rest) ← count? f (f.skip cs)
  match rest with
  | '\x7d' :: rest => some (least, some least, f.skip rest)
  | ',' :: rest =>
      match f.skip rest with
      | '\x7d' :: rest => some (least, none, f.skip rest)
      | rest =>
          let (most, rest) ← count? f rest
          match rest with
          | '\x7d' :: rest => if least ≤ most then some (least, some most, f.skip rest) else none
          | _ => none
  | _ => none

/-- The text after a mark that asks for the shortest match, which changes no verdict. -/
def skipLazy (cs : List Char) : List Char :=
  match cs with
  | '?' :: rest => rest
  | _ => cs

/-- Repeats the latest part, which has to be there and must not be a change of flags. -/
def repeatLatest? (parts : List Pattern) (least : Nat) (most : Option Nat) :
    Option (List Pattern) :=
  match parts with
  | [] => none
  | .flags :: _ => none
  | p :: rest => some (.repetition p least most :: rest)

/-! ## Primitives -/

def Flags.lineStart (f : Flags) : Look :=
  if !f.multiLine then .textStart
  else if f.returnEndsLine then .returnLineStart
  else .lineStart

def Flags.lineEnd (f : Flags) : Look :=
  if !f.multiLine then .textEnd else if f.returnEndsLine then .returnLineEnd else .lineEnd

/-- The characters that a dot stands for. -/
def Flags.dot? (f : Flags) : Option CharSet :=
  if !f.unicode then none
  else if f.dotMatchesNewline then some (.property .any)
  else if f.returnEndsLine then some (.complement (rangesSet [(0xA, 0xA), (0xD, 0xD)]))
  else some (.complement (.single '\n'))

/-- The pattern of a primitive; a byte beyond ASCII is none. -/
def Primitive.pattern? (f : Flags) : Primitive → Option Pattern
  | .char c byte =>
      if byte && !f.unicode && 128 ≤ c.toNat then none else some (.set (f.fold (.single c)) 0)
  | .set s => some (.set s 0)
  | .look l => some (.look l)

/-- The primitive that stands here. -/
def readPrimitive? (f : Flags) : List Char → Option (Pattern × List Char)
  | [] => none
  | '\\' :: rest => do
      let (p, rest) ← readEscape? f rest
      some (← p.pattern? f, rest)
  | '.' :: rest => f.dot?.map fun s => (.set s 0, rest)
  | '^' :: rest => some (.look f.lineStart, rest)
  | '$' :: rest => some (.look f.lineEnd, rest)
  | c :: rest => (Primitive.pattern? f (.char c false)).map fun p => (p, rest)

/-! ## Groups -/

/-- How a group begins: a change of flags for what follows, or the flags and the name inside. -/
inductive GroupStart where
  | flags (f : Flags)
  | group (f : Flags) (name : Option String)

/-- The start of a group, after its parenthesis. -/
def readGroupStart? (f : Flags) (cs : List Char) : Option (GroupStart × List Char) :=
  match f.skip cs with
  | '?' :: '=' :: _ => none
  | '?' :: '!' :: _ => none
  | '?' :: '<' :: '=' :: _ => none
  | '?' :: '<' :: '!' :: _ => none
  | '?' :: 'P' :: '<' :: rest =>
      (readGroupName? rest).map fun (name, rest) => (.group f (some name), rest)
  | '?' :: '<' :: rest =>
      (readGroupName? rest).map fun (name, rest) => (.group f (some name), rest)
  | '?' :: rest =>
      match f.read? [] rest with
      | some (g, seen, ')' :: rest) => if seen.isEmpty then none else some (.flags g, rest)
      | some (g, _, ':' :: rest) => some (.group g none, rest)
      | _ => none
  | rest => some (.group f none, rest)

/-- A sequence of parts, which are given the latest first. -/
def sequenceOf : List Pattern → Pattern
  | [] => .empty
  | [p] => p
  | ps => .sequence ps.reverse

/-- A choice whose branches are given the latest first. -/
def choiceOf (branch : Pattern) : List Pattern → Pattern
  | [] => branch
  | branches => .choice (branch :: branches).reverse

/-- What has been read of a group: its parts and branches, the latest first, and the names of
groups used so far. -/
structure Parts where
  flags : Flags
  parts : List Pattern := []
  branches : List Pattern := []
  names : List String := []

def Parts.add (s : Parts) (p : Pattern) : Parts := { s with parts := p :: s.parts }

def Parts.pattern (s : Parts) : Pattern := choiceOf (sequenceOf s.parts) s.branches

/-- The rest of a group, up to the end of the text or a parenthesis that this group did not open;
the result has the names used and what is left. -/
def readParts? : Nat → Parts → List Char → Option (Pattern × List String × List Char)
  | 0, _, _ => none
  | fuel + 1, s, cs =>
      let f := s.flags
      match f.skip cs with
      | [] => some (s.pattern, s.names, [])
      -- The parenthesis is left to the group that it closes.
      | ')' :: rest => some (s.pattern, s.names, ')' :: rest)
      | '|' :: rest =>
          readParts? fuel { s with parts := [], branches := sequenceOf s.parts :: s.branches } rest
      | '?' :: rest => do
          let parts ← repeatLatest? s.parts 0 (some 1)
          readParts? fuel { s with parts } (skipLazy rest)
      | '*' :: rest => do
          let parts ← repeatLatest? s.parts 0 none
          readParts? fuel { s with parts } (skipLazy rest)
      | '+' :: rest => do
          let parts ← repeatLatest? s.parts 1 none
          readParts? fuel { s with parts } (skipLazy rest)
      | '\x7b' :: rest => do
          let (least, most, rest) ← readBounds? f rest
          let parts ← repeatLatest? s.parts least most
          readParts? fuel { s with parts } (skipLazy rest)
      | '[' :: rest => do
          let (members, rest) ← readSet? (rest.length + 1) f rest
          readParts? fuel (s.add (.set members.set members.nesting)) rest
      | '(' :: rest => do
          match ← readGroupStart? f rest with
          -- The flags hold up to the end of this group.
          | (.flags g, rest) => readParts? fuel { s.add .flags with flags := g } rest
          | (.group g name, rest) =>
              -- A name is used once in the whole pattern.
              guard !(name.any s.names.contains)
              let (p, names, rest) ←
                readParts? fuel { flags := g, names := name.toList ++ s.names } rest
              match rest with
              | ')' :: rest => readParts? fuel { s.add (.group p) with names } rest
              | _ => none
      | rest => do
          let (p, rest) ← readPrimitive? f rest
          readParts? fuel (s.add p) rest

/-- How deeply a pattern may be nested. -/
def heightLimit : Nat := 250

/-- How many bytes a matcher may take. -/
def sizeLimit : Nat := 10 <<< 20

/-- The pattern that a whole text stands for. -/
def read (text : String) : Except PatternFault Pattern :=
  let cs := text.toList
  match readParts? (cs.length + 1) { flags := {} } cs with
  | some (p, _, []) =>
      if heightLimit < p.height then .error .tooDeep
      else if sizeLimit < p.size then .error .tooLarge
      else .ok p
  -- Also a parenthesis that closes no group.
  | _ => .error .malformed

end BinaryCoverage.Pattern
