import BinaryCoverage.Pattern.Basic

/-!
# Matching

A pattern that starts at one position of a text may end at several others.  This file defines:

* `Pattern.ends` — the positions at which a match from a given position ends, in order;
* `Pattern.isMatch` — whether some stretch of the text matches.
-/

namespace BinaryCoverage.Pattern

/-- The character right before a position. -/
def charBefore (text : Array Char) (i : Nat) : Option Char :=
  if i = 0 then none else text[i - 1]?

/-- The positions of both lists, in order and each once, when both are in order. -/
def mergePositions : List Nat → List Nat → List Nat
  | [], js => js
  | is, [] => is
  | i :: is, j :: js =>
      if i < j then i :: mergePositions is (j :: js)
      else if j < i then j :: mergePositions (i :: is) js
      else i :: mergePositions is js
termination_by is js => is.length + js.length

/-- Where one more match from any of the positions ends. -/
def through (next : Nat → List Nat) : List Nat → List Nat
  | [] => []
  | i :: is => mergePositions (next i) (through next is)

/-- Where `n` matches in a row end; further ones change nothing once the positions stay. -/
def times (next : Nat → List Nat) : Nat → List Nat → List Nat
  | 0, is => is
  | n + 1, is =>
      let js := through next is
      if js = is then is else times next n js

/-- Where at most `n` matches in a row end. -/
def upTo (next : Nat → List Nat) : Nat → List Nat → List Nat
  | 0, is => is
  | n + 1, is =>
      let js := mergePositions is (through next is)
      if js = is then is else upTo next n js

mutual

def ends (text : Array Char) : Pattern → Nat → List Nat
  | .empty, i => [i]
  | .flags, i => [i]
  | .set s _, i => if (text[i]?).any s.contains then [i + 1] else []
  | .look l, i => if l.holds (charBefore text i) text[i]? then [i] else []
  | .repetition p least most, i =>
      -- The positions are sets, so that it does not matter which match is preferred.
      let first := times (ends text p) least [i]
      match most with
      | none => upTo (ends text p) (text.size + 1) first
      | some most => upTo (ends text p) (most - least) first
  | .group p, i => ends text p i
  | .sequence ps, i => sequenceEnds text ps [i]
  | .choice ps, i => choiceEnds text ps i

/-- Where the patterns, one after the other, end. -/
def sequenceEnds (text : Array Char) : List Pattern → List Nat → List Nat
  | [], is => is
  | p :: ps, is => sequenceEnds text ps (through (ends text p) is)

/-- Where any of the patterns ends. -/
def choiceEnds (text : Array Char) : List Pattern → Nat → List Nat
  | [], _ => []
  | p :: ps, i => mergePositions (ends text p i) (choiceEnds text ps i)

end

/-- Whether a stretch of the text that begins at position `i` matches. -/
def matchesAt (p : Pattern) (text : Array Char) (i : Nat) : Bool := !(ends text p i).isEmpty

/-- Whether some stretch of the text matches. -/
def isMatch (p : Pattern) (text : String) : Bool :=
  let chars := text.toList.toArray
  (List.range (chars.size + 1)).any (p.matchesAt chars)

end BinaryCoverage.Pattern
