import BinaryCoverage.Pattern.Escape

/-!
# Sets in brackets

A set in brackets lists characters, ranges, classes and further sets in brackets, and combines
them by intersection, difference and symmetric difference, from left to right.  A hyphen or a
closing bracket at its start stands for itself.  Brackets, lists of several members and operators
are levels of nesting, which `NestedSet` counts.
-/

namespace BinaryCoverage.Pattern

/-- The set of a name between colons. -/
def asciiClass? (name : String) : Option CharSet :=
  match name with
  | "alnum" => some (rangesSet [(0x30, 0x39), (0x41, 0x5A), (0x61, 0x7A)])
  | "alpha" => some (rangesSet [(0x41, 0x5A), (0x61, 0x7A)])
  | "ascii" => some asciiSet
  | "blank" => some (rangesSet [(0x9, 0x9), (0x20, 0x20)])
  | "cntrl" => some (rangesSet [(0x0, 0x1F), (0x7F, 0x7F)])
  | "digit" => some asciiDigits
  | "graph" => some (.range 0x21 0x7E)
  | "lower" => some (.range 0x61 0x7A)
  | "print" => some (.range 0x20 0x7E)
  | "punct" => some (rangesSet [(0x21, 0x2F), (0x3A, 0x40), (0x5B, 0x60), (0x7B, 0x7E)])
  | "space" => some asciiBlanks
  | "upper" => some (.range 0x41 0x5A)
  | "word" => some asciiWord
  | "xdigit" => some (rangesSet [(0x30, 0x39), (0x41, 0x46), (0x61, 0x66)])
  | _ => none

/-- A class between `[:` and `:]`, after the opening bracket; anything else is no such class. -/
def readAsciiClass? (f : Flags) : List Char → Option (CharSet × List Char)
  | ':' :: rest =>
      let (negated, rest) := match rest with
        | '^' :: rest => (true, rest)
        | _ => (false, rest)
      match rest.dropWhile (· != ':') with
      | ':' :: ']' :: after =>
          (asciiClass? (String.ofList (rest.takeWhile (· != ':')))).map fun s =>
            (f.complementIf negated s, after)
      | _ => none
  | _ => none

/-- A set outside ASCII is none that can be matched without Unicode. -/
def Flags.allow? (f : Flags) (s : CharSet) : Option CharSet :=
  if f.unicode || s.isAscii then some s else none

/-- A character that stands in brackets. -/
def Flags.allowChar? (f : Flags) (c : Char) : Option Char :=
  if f.unicode || c.toNat < 128 then some c else none

/-- A character, escaped or not, or a class. -/
def readItem? (f : Flags) : List Char → Option (Primitive × List Char)
  | [] => none
  | '\\' :: rest => readEscape? f rest
  | c :: rest => some (.char c false, rest)

/-- The set of an item; a look is none. -/
def Primitive.set? (f : Flags) : Primitive → Option CharSet
  | .char c _ => (f.allowChar? c).map CharSet.single
  | .set s => some s
  | .look _ => none

/-- The character of an item that ends a range. -/
def Primitive.char? (f : Flags) : Primitive → Option Char
  | .char c _ => f.allowChar? c
  | _ => none

/-- An item or a range of characters.  A hyphen before a bracket or another hyphen starts none. -/
def readRange? (f : Flags) (cs : List Char) : Option (CharSet × List Char) := do
  let (first, rest) ← readItem? f cs
  match f.skip rest with
  | [] => none
  | '-' :: more =>
      match f.skip more with
      | [] => none
      | c :: tail =>
          -- The hyphen stands for itself, or begins an operator.
          if c == ']' || c == '-' then some (← first.set? f, '-' :: more)
          else
            let (last, rest) ← readItem? f (c :: tail)
            let low ← first.char? f
            let high ← last.char? f
            if low ≤ high then some (.range low.toNat high.toNat, rest) else none
  | rest => some (← first.set? f, rest)

inductive SetOperator where
  | intersection
  | difference
  | symmetricDifference

def SetOperator.apply : SetOperator → CharSet → CharSet → CharSet
  | .intersection => .intersection
  | .difference => .difference
  | .symmetricDifference => .symmetricDifference

/-- The operator that stands here. -/
def readOperator? : List Char → Option (SetOperator × List Char)
  | '&' :: '&' :: rest => some (.intersection, rest)
  | '-' :: '-' :: rest => some (.difference, rest)
  | '~' :: '~' :: rest => some (.symmetricDifference, rest)
  | _ => none

/-- A set and the levels of nesting with which it was written. -/
structure NestedSet where
  set : CharSet
  nesting : Nat

/-- Members side by side: their union, their number, and the nesting of the deepest. -/
structure Members where
  set : CharSet := .none
  count : Nat := 0
  deepest : Nat := 0

def Members.add (m : Members) (s : CharSet) (nesting : Nat) : Members :=
  { set := .union m.set s, count := m.count + 1, deepest := max m.deepest nesting }

/-- Members as one set; several of them are a level of their own. -/
def Members.join (m : Members) : NestedSet :=
  -- One member alone is written without a list around it.
  ⟨m.set, if 1 < m.count then m.deepest + 1 else m.deepest⟩

/-- The right side joined to what stands on the left of it. -/
def joinLeft (f : Flags) (left : Option (NestedSet × SetOperator)) (right : NestedSet) :
    NestedSet :=
  match left with
  | none => right
  | some (s, o) => ⟨o.apply (f.fold s.set) (f.fold right.set), max s.nesting right.nesting + 1⟩

/-- Hyphens that stand for themselves, as members. -/
def readHyphens (f : Flags) : Nat → Members → List Char → Members × List Char
  | 0, m, cs => (m, cs)
  | fuel + 1, m, '-' :: rest => readHyphens f fuel (m.add (.single '-') 0) (f.skip rest)
  | _ + 1, m, cs => (m, cs)

/-- The start of a set after its bracket: whether it is a complement, and its first members. -/
def readSetStart? (f : Flags) (cs : List Char) : Option (Bool × Members × List Char) :=
  let rest := f.skip cs
  let (negated, rest) := match rest with
    | '^' :: rest => (true, f.skip rest)
    | _ => (false, rest)
  let (hyphens, rest) := readHyphens f rest.length {} rest
  match rest with
  | [] => none
  | ']' :: more =>
      if hyphens.count = 0 then some (negated, hyphens.add (.single ']') 0, f.skip more)
      else some (negated, hyphens, rest)
  | _ => some (negated, hyphens, rest)

mutual

/-- A set in brackets, after its opening bracket. -/
def readSet? : Nat → Flags → List Char → Option (NestedSet × List Char)
  | 0, _, _ => none
  | fuel + 1, f, cs => do
      let (negated, start, rest) ← readSetStart? f cs
      let (s, rest) ← readMembers? fuel f none start rest
      some (⟨← f.allow? (f.complementIf negated s.set), s.nesting + 1⟩, rest)

/-- The members of a set up to its closing bracket, joined to those read before. -/
def readMembers? : Nat → Flags → Option (NestedSet × SetOperator) → Members → List Char →
    Option (NestedSet × List Char)
  | 0, _, _, _, _ => none
  | fuel + 1, f, left, m, cs =>
      match f.skip cs with
      | [] => none
      | ']' :: rest => some (joinLeft f left m.join, rest)
      | '[' :: rest =>
          match readAsciiClass? f rest with
          | some (t, rest) => do readMembers? fuel f left (m.add (← f.allow? t) 0) rest
          | none => do
              let (t, rest) ← readSet? fuel f rest
              readMembers? fuel f left (m.add t.set t.nesting) rest
      | rest =>
          match readOperator? rest with
          | some (o, rest) => readMembers? fuel f (some (joinLeft f left m.join, o)) {} rest
          | none => do
              let (t, rest) ← readRange? f rest
              readMembers? fuel f left (m.add t 0) rest

end

end BinaryCoverage.Pattern
