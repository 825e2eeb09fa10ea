import BinaryCoverage.Notice
import BinaryCoverage.Pattern.Match
import BinaryCoverage.Table

/-!
# Function tables

A function table holds the functions of one image by name, the active ones apart from those that a
pattern has excluded.  The first symbol of a name counts.  A table carries the fact that each active
function stands under its own name, and whatever changes a table keeps it.
-/

namespace BinaryCoverage

/-- A function from `start` up to right before `stop`. -/
structure FunctionSymbol where
  name : String
  start : UInt64
  stop : UInt64
  /-- Whether some instruction of the function has a source line. -/
  mapped : Bool := false
  deriving DecidableEq, Repr

@[ext]
structure FunctionTable where
  active : Table String FunctionSymbol := ∅
  excluded : Table String FunctionSymbol := ∅
  /-- Each active function stands under its own name. -/
  named : ∀ {name : String} {s : FunctionSymbol}, active[name]? = some s → s.name = name := by simp
  deriving DecidableEq

namespace FunctionTable

/-- Adds an active function, unless there is one of its name. -/
def add (t : FunctionTable) (s : FunctionSymbol) : FunctionTable where
  active := t.active.putWith (fun old _ => old) s.name s
  excluded := t.excluded
  named := by
    intro name found h
    rw [Table.getElem?_putWith] at h
    split at h
    · rename_i hname
      rw [← Std.LawfulEqCmp.eq_of_compare hname]
      cases hold : t.active[s.name]? with
      | none =>
          rw [hold] at h
          cases h
          rfl
      | some old =>
          rw [hold] at h
          cases h
          exact t.named hold
    · exact t.named h

def ofSymbols (symbols : List FunctionSymbol) : FunctionTable := symbols.foldl add {}

/-- What is reported about the symbols after those with the given names. -/
def noticesAfter : List String → List FunctionSymbol → List Notice
  | _, [] => []
  | seen, s :: rest =>
      -- A third symbol of one name is reported like the second.
      if seen.contains s.name then
        .warning s!"Function '{s.name}' is defined more than once; keeping the first" ::
          noticesAfter seen rest
      else noticesAfter (s.name :: seen) rest

/-- What is reported about symbols: every one whose name has been there before. -/
def notices (symbols : List FunctionSymbol) : List Notice := noticesAfter [] symbols

def get? (t : FunctionTable) (name : String) : Option FunctionSymbol := t.active[name]?

def contains (t : FunctionTable) (name : String) : Bool := t.active.contains name

def size (t : FunctionTable) : Nat := t.active.size

/-- Whether one of the patterns matches a stretch of the name. -/
def isExcludedBy (patterns : List Pattern) (name : String) : Bool :=
  patterns.any (·.isMatch name)

/-- Excludes the active functions whose name one of the patterns matches. -/
def exclude (t : FunctionTable) (patterns : List Pattern) : FunctionTable where
  active := t.active.filter fun name _ => !isExcludedBy patterns name
  -- Functions may be excluded in several steps.
  excluded := t.excluded.override (t.active.filter fun name _ => isExcludedBy patterns name)
  named := by
    intro name s h
    rw [Std.ExtTreeMap.getElem?_filter', Option.filter_eq_some_iff] at h
    exact t.named h.1

/-- Notes that an active function has a source line. -/
def mark (t : FunctionTable) (name : String) : FunctionTable where
  active := t.active.modify name ({ · with mapped := true })
  excluded := t.excluded
  named := by
    intro m s h
    rw [Std.ExtTreeMap.getElem?_modify] at h
    split at h
    · rename_i hname
      obtain ⟨old, hold, rfl⟩ := Option.map_eq_some_iff.1 h
      have hsame : old.name = name := t.named hold
      rw [← Std.LawfulEqCmp.eq_of_compare hname]
      exact hsame
    · exact t.named h

/-- The active functions without any source line. -/
def unmapped (t : FunctionTable) : List FunctionSymbol := t.active.values.filter (!·.mapped)

end FunctionTable

end BinaryCoverage
