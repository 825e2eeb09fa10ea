import BinaryCoverage.Text.Blank
import BinaryCoverage.Unicode.Age
import BinaryCoverage.Unicode.Break
import BinaryCoverage.Unicode.Folding
import BinaryCoverage.Unicode.ScriptExtension
import BinaryCoverage.Unicode.Word

/-!
# Sets of characters in patterns

A set is built from ranges and properties by the usual operations.  `folded` adds every character
that differs from a member in case alone.
-/

namespace BinaryCoverage.Pattern

/-- A property of characters that a pattern can name. -/
inductive Property where
  | word
  | digit
  | blank
  | any
  | categories (marks : String)
  | script (mark : Char)
  | scriptExtension (mark : Char)
  | age (mark : Char)
  | breakValue (b : Unicode.Break) (mark : Char)
  /-- A binary property by one of its names. -/
  | binary (name : String)
  deriving DecidableEq, Repr

def Property.holds (p : Property) (c : Char) : Bool :=
  match p with
  | .word => Unicode.isWord c
  | .digit => Unicode.isDigit c
  | .blank => Text.isBlank c
  | .any => true
  | .categories marks => Unicode.hasCategory marks c
  | .script mark => Unicode.scriptMap.get? c == some mark
  | .scriptExtension mark => Unicode.usesScript mark c
  | .age mark => Unicode.isOfAge mark c
  | .breakValue b mark => b.map.get? c == some mark
  | .binary name => (Unicode.binaryProperty? name).any (·.contains c)

/-- The number of stretches of code points that have the property. -/
def Property.stretches : Property → Nat
  | .word => Unicode.alphabetic.stretches
  | .digit => Unicode.categoryMap.stretches (· == 'N')
  | .blank => 10
  | .any => 1
  | .categories marks => Unicode.categoryMap.stretches marks.toList.contains
  | .script mark => Unicode.scriptMap.stretches (· == mark)
  | .scriptExtension mark => Unicode.scriptExtensionMap.stretches (Unicode.marksScript mark)
  | .age mark => Unicode.ageMap.stretches (Unicode.isAgeUpTo mark)
  | .breakValue b mark => b.map.stretches (· == mark)
  | .binary name => (Unicode.binaryProperty? name).elim 0 (·.stretches)

/-- How case is folded: over all characters or in ASCII alone. -/
inductive Folding where
  | unicode
  | ascii
  deriving DecidableEq, Repr

def Folding.variants : Folding → Char → List Char
  | .unicode, c => Unicode.caseVariants c
  | .ascii, c => Unicode.asciiCaseVariants c

inductive CharSet where
  | none
  | range (low high : Nat)
  | property (p : Property)
  | complement (s : CharSet)
  | union (s t : CharSet)
  | intersection (s t : CharSet)
  | difference (s t : CharSet)
  | symmetricDifference (s t : CharSet)
  | folded (how : Folding) (s : CharSet)
  deriving DecidableEq, Repr

namespace CharSet

def single (c : Char) : CharSet := .range c.toNat c.toNat

def contains : CharSet → Char → Bool
  | .none, _ => false
  | .range low high, c => low ≤ c.toNat && c.toNat ≤ high
  | .property p, c => p.holds c
  | .complement s, c => !s.contains c
  | .union s t, c => s.contains c || t.contains c
  | .intersection s t, c => s.contains c && t.contains c
  | .difference s t, c => s.contains c && !t.contains c
  | .symmetricDifference s t, c => s.contains c != t.contains c
  | .folded how s, c => s.contains c || (how.variants c).any s.contains

/-- Whether the set has no member outside ASCII. -/
def isAscii : CharSet → Bool
  | .none => true
  | .range _ high => high < 128
  | .property _ => false
  | .complement _ => false
  | .union s t => s.isAscii && t.isAscii
  | .intersection s t => s.isAscii || t.isAscii
  | .difference s _ => s.isAscii
  | .symmetricDifference s t => s.isAscii && t.isAscii
  | .folded _ s => s.isAscii

/-- About the number of stretches of code points in the set. -/
def stretches : CharSet → Nat
  | .none => 0
  | .range _ _ => 1
  | .property p => p.stretches
  | .complement s => s.stretches + 1
  | .union s t => s.stretches + t.stretches
  | .intersection s t => s.stretches + t.stretches
  | .difference s t => s.stretches + t.stretches
  | .symmetricDifference s t => s.stretches + t.stretches
  | .folded _ s => s.stretches * 2

end CharSet

end BinaryCoverage.Pattern
