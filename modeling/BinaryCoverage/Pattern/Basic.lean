import BinaryCoverage.Pattern.CharSet

/-!
# Patterns

A pattern describes stretches of text.  This file defines:

* `Look` — conditions on the two characters around a position;
* `Pattern` — the patterns;
* `Pattern.height` — how deeply repetitions, groups, sequences, choices and brackets are nested.
-/

namespace BinaryCoverage

namespace Pattern

/-- A condition on the characters before and after a position. -/
inductive Look where
  | textStart
  | textEnd
  | lineStart
  | lineEnd
  /-- Line starts and ends where a carriage return and a line feed both end lines. -/
  | returnLineStart
  | returnLineEnd
  | boundary (ascii : Bool)
  | inside (ascii : Bool)
  | wordStart (ascii : Bool)
  | wordEnd (ascii : Bool)
  | halfStart (ascii : Bool)
  | halfEnd (ascii : Bool)
  deriving DecidableEq, Repr

def isWordChar (ascii : Bool) (c : Char) : Bool :=
  if ascii then Unicode.isAsciiWord c else Unicode.isWord c

def Look.holds (l : Look) (before after : Option Char) : Bool :=
  let word (ascii : Bool) (c : Option Char) := c.any (isWordChar ascii)
  match l with
  | .textStart => before.isNone
  | .textEnd => after.isNone
  | .lineStart => before.isNone || before == some '\n'
  | .lineEnd => after.isNone || after == some '\n'
  | .returnLineStart =>
      before.isNone || before == some '\n' || (before == some '\r' && after != some '\n')
  | .returnLineEnd =>
      after.isNone || after == some '\r' || (after == some '\n' && before != some '\r')
  | .boundary ascii => word ascii before != word ascii after
  | .inside ascii => word ascii before == word ascii after
  | .wordStart ascii => !word ascii before && word ascii after
  | .wordEnd ascii => word ascii before && !word ascii after
  | .halfStart ascii => !word ascii before
  | .halfEnd ascii => !word ascii after

end Pattern

inductive Pattern where
  | empty
  /-- A change of flags, which no repetition can follow. -/
  | flags
  /-- One character of a set, which was written with so many levels of brackets. -/
  | set (s : Pattern.CharSet) (nesting : Nat)
  | look (l : Pattern.Look)
  | repetition (p : Pattern) (least : Nat) (most : Option Nat)
  | group (p : Pattern)
  | sequence (ps : List Pattern)
  | choice (ps : List Pattern)
  deriving Inhabited

namespace Pattern

mutual

/-- The nesting of the parts that have parts. -/
def height : Pattern → Nat
  | .empty | .flags | .look _ => 0
  | .set _ nesting => nesting
  | .repetition p _ _ => p.height + 1
  | .group p => p.height + 1
  | .sequence ps => heights ps + 1
  | .choice ps => heights ps + 1

def heights : List Pattern → Nat
  | [] => 0
  | p :: ps => max p.height (heights ps)

end

/-! ## Size -/

/-- The bytes that one state of a matcher takes. -/
def stateSize : Nat := 32

/-- About the bytes that a matcher for a set takes. -/
def setSize (s : CharSet) : Nat := stateSize + (s.stretches - 1) * 64

mutual

/-- About the bytes that a matcher for the pattern takes, every repetition written out. -/
def size : Pattern → Nat
  | .empty | .flags => 0
  | .set s _ => setSize s
  | .look _ => stateSize
  | .repetition p least most =>
      match most with
      | none => (max least 1) * p.size + stateSize
      | some most => most * p.size + (most - least) * stateSize
  | .group p => p.size + 2 * stateSize
  | .sequence ps => sizes ps
  | .choice ps => sizes ps + stateSize

def sizes : List Pattern → Nat
  | [] => 0
  | p :: ps => p.size + sizes ps

end

end Pattern

end BinaryCoverage
