import BinaryCoverage.Proofs.Image.Marks
import Mathlib.Data.List.Induction

/-!
# Active and excluded functions

After it has been built a table changes in two ways: functions are excluded by patterns, and
functions are marked.  This file defines:

* `FunctionTable.Change` — the two kinds of change, and `changeAll` for several in a row;
* `FunctionTable.MarkedActive` — a name has been marked before any pattern matched it;
* `FunctionTable.Accounts` — what a table has to do with its symbols and its changes;

and shows that every table that comes about in this way accounts for its symbols, and keeps what it
has excluded (`changeAll_accounts`).
-/

namespace BinaryCoverage.FunctionTable

inductive Change where
  | exclude (patterns : List Pattern)
  | mark (name : String)

namespace Change

def apply (t : FunctionTable) : Change → FunctionTable
  | .exclude patterns => t.exclude patterns
  | .mark name => t.mark name

def patterns : Change → List Pattern
  | .exclude patterns => patterns
  | .mark _ => []

end Change

def changeAll (t : FunctionTable) (changes : List Change) : FunctionTable :=
  changes.foldl Change.apply t

/-- The patterns of all changes, whichever of them came together. -/
def patternsOf (changes : List Change) : List Pattern := changes.flatMap Change.patterns

/-- One of the changes marks the name, and no pattern of those before matches it. -/
def MarkedActive (changes : List Change) (name : String) : Prop :=
  ∃ earlier later, changes = earlier ++ .mark name :: later ∧
    isExcludedBy (patternsOf earlier) name = false

/-- Some symbol of the list has the name. -/
def IsNameOf (symbols : List FunctionSymbol) (name : String) : Prop := ∃ s ∈ symbols, s.name = name

/-- An entry is the first symbol of its name, and has a source line if that had one already or if
the name was marked while it was active. -/
structure IsEntry (symbols : List FunctionSymbol) (changes : List Change) (name : String)
    (first s : FunctionSymbol) : Prop where
  isFirst : symbols.find? (·.name = name) = some first
  name_eq : s.name = name
  start_eq : s.start = first.start
  stop_eq : s.stop = first.stop
  mapped_iff : s.mapped = true ↔ first.mapped = true ∨ MarkedActive changes name

/-- The names of the symbols are the active and the excluded ones, and no name is both; those are
excluded that some pattern matches. -/
structure Accounts (symbols : List FunctionSymbol) (changes : List Change) (t : FunctionTable) :
    Prop where
  disjoint : ∀ name, ¬ (t.contains name ∧ t.excluded.contains name)
  names : ∀ name, t.contains name ∨ t.excluded.contains name ↔ IsNameOf symbols name
  excluded : ∀ name, t.excluded.contains name ↔
    IsNameOf symbols name ∧ isExcludedBy (patternsOf changes) name
  entry : ∀ name s, t.active[name]? = some s ∨ t.excluded[name]? = some s →
    ∃ first, IsEntry symbols changes name first s

variable {t : FunctionTable} {symbols : List FunctionSymbol} {changes : List Change} {name : String}
  {first s : FunctionSymbol}

/-! ## Sequences of changes -/

theorem changeAll_append (t : FunctionTable) (changes later : List Change) :
    t.changeAll (changes ++ later) = (t.changeAll changes).changeAll later :=
  List.foldl_append

theorem isExcludedBy_append (ps qs : List Pattern) (name : String) :
    isExcludedBy (ps ++ qs) name = (isExcludedBy ps name || isExcludedBy qs name) :=
  List.any_append

theorem isExcludedBy_congr {ps qs : List Pattern} (h : ∀ p, p ∈ ps ↔ p ∈ qs) :
    isExcludedBy ps name = isExcludedBy qs name := by
  unfold isExcludedBy
  rw [Bool.eq_iff_iff, List.any_eq_true, List.any_eq_true]
  exact exists_congr fun p => and_congr_left' (h p)

theorem patternsOf_append_exclude (changes : List Change) (patterns : List Pattern) :
    patternsOf (changes ++ [.exclude patterns]) = patternsOf changes ++ patterns := by
  simp [patternsOf, Change.patterns]

theorem patternsOf_append_mark (changes : List Change) (m : String) :
    patternsOf (changes ++ [.mark m]) = patternsOf changes := by
  simp [patternsOf, Change.patterns]

/-- A name has been marked while active before the last change, or the last change does it. -/
theorem markedActive_append_singleton (c : Change) :
    MarkedActive (changes ++ [c]) name ↔
      MarkedActive changes name ∨
        (c = .mark name ∧ isExcludedBy (patternsOf changes) name = false) := by
  constructor
  · rintro ⟨earlier, later, hchanges, hactive⟩
    rcases List.eq_nil_or_concat later with rfl | ⟨later, last, rfl⟩
    · obtain ⟨hsame, hlast⟩ := List.append_inj' hchanges rfl
      subst hsame
      exact Or.inr ⟨List.singleton_inj.1 hlast, hactive⟩
    · rw [List.concat_eq_append, ← List.cons_append, ← List.append_assoc] at hchanges
      exact Or.inl ⟨earlier, later, (List.append_inj' hchanges rfl).1, hactive⟩
  · rintro (⟨earlier, later, rfl, hactive⟩ | ⟨rfl, hactive⟩)
    · exact ⟨earlier, later ++ [c], by simp, hactive⟩
    · exact ⟨changes, [], rfl, hactive⟩

/-! ## One change -/

/-- What is excluded replaces what has been excluded under its name. -/
theorem getElem?_excluded_exclude (t : FunctionTable) (patterns : List Pattern) (name : String) :
    (t.exclude patterns).excluded[name]? =
      ((t.get? name).filter fun _ => isExcludedBy patterns name).or t.excluded[name]? := by
  unfold exclude get? Table.override
  rw [Table.getElem?_unionWith, Std.ExtTreeMap.getElem?_filter']
  cases Option.filter (fun _ => isExcludedBy patterns name) t.active[name]? <;>
    cases t.excluded[name]? <;> rfl

theorem isNameOf_iff_isSome :
    IsNameOf symbols name ↔ (symbols.find? (·.name = name)).isSome := by
  simp [IsNameOf, List.find?_isSome]

theorem contains_iff_exists : t.contains name ↔ ∃ s, t.get? name = some s := by
  unfold contains get?
  rw [Std.ExtTreeMap.contains_eq_isSome_getElem?, Option.isSome_iff_exists]

theorem excluded_iff_exists : t.excluded.contains name ↔ ∃ s, t.excluded[name]? = some s := by
  rw [Std.ExtTreeMap.contains_eq_isSome_getElem?, Option.isSome_iff_exists]

/-! ## What each change preserves -/

theorem accounts_ofSymbols (symbols : List FunctionSymbol) :
    Accounts symbols [] (ofSymbols symbols) := by
  have hnothing : ∀ name : String, (ofSymbols symbols).excluded[name]? = none := by
    intro name
    simp [excluded_ofSymbols]
  have hnone : ∀ name, ¬ (ofSymbols symbols).excluded.contains name := by
    intro name hexcluded
    obtain ⟨s, hs⟩ := excluded_iff_exists.1 hexcluded
    rw [hnothing name] at hs
    cases hs
  refine ⟨fun name h => hnone name h.2, fun name => ?_, fun name => ?_, fun name s hs => ?_⟩
  · rw [or_iff_left (hnone name), contains_iff_exists, get?_ofSymbols, isNameOf_iff_isSome,
      Option.isSome_iff_exists]
  · exact ⟨fun h => absurd h (hnone name), fun h => absurd h.2 (by simp [isExcludedBy, patternsOf])⟩
  · rw [hnothing name] at hs
    have hfirst : (ofSymbols symbols).get? name = some s := hs.resolve_right (by simp)
    rw [get?_ofSymbols] at hfirst
    have hname : s.name = name := by
      simpa using List.find?_some hfirst
    refine ⟨s, hfirst, hname, rfl, rfl, ?_⟩
    simp [MarkedActive]

namespace Accounts

/-- An excluded name is not active, and the patterns have matched it. -/
theorem get?_eq_none (h : Accounts symbols changes t) (hs : t.excluded[name]? = some s) :
    t.get? name = none := by
  cases hget : t.get? name with
  | none =>
      rfl
  | some s' =>
      exact absurd ⟨contains_iff_exists.2 ⟨s', hget⟩, excluded_iff_exists.2 ⟨s, hs⟩⟩ (h.disjoint name)

theorem unmatched_of_active (h : Accounts symbols changes t) (hactive : t.contains name) :
    isExcludedBy (patternsOf changes) name = false := by
  rw [Bool.eq_false_iff]
  intro hmatched
  have hname := (h.names name).1 (Or.inl hactive)
  exact h.disjoint name ⟨hactive, (h.excluded name).2 ⟨hname, hmatched⟩⟩

/-- A change leaves every excluded entry as it is. -/
theorem excluded_kept (h : Accounts symbols changes t) (c : Change)
    (hs : t.excluded[name]? = some s) : (c.apply t).excluded[name]? = some s := by
  cases c with
  | exclude patterns =>
      change (t.exclude patterns).excluded[name]? = some s
      rw [getElem?_excluded_exclude, h.get?_eq_none hs, hs]
      rfl
  | mark m =>
      exact hs

theorem exclude (h : Accounts symbols changes t) (patterns : List Pattern) :
    Accounts symbols (changes ++ [.exclude patterns]) (t.exclude patterns) := by
  have hactive : ∀ name, (t.exclude patterns).contains name ↔
      t.contains name ∧ isExcludedBy patterns name = false := by
    intro name
    simp only [contains_iff_exists, get?_exclude, Option.filter_eq_some_iff]
    simp
  have hexcluded : ∀ name, (t.exclude patterns).excluded.contains name ↔
      (t.contains name ∧ isExcludedBy patterns name) ∨ t.excluded.contains name := by
    intro name
    -- What moves is looked up before what has moved already.
    simp only [contains_iff_exists, excluded_iff_exists, getElem?_excluded_exclude]
    cases t.get? name <;> cases t.excluded[name]? <;>
      cases isExcludedBy patterns name <;> simp [Option.filter]
  have hmarked : ∀ name,
      MarkedActive (changes ++ [.exclude patterns]) name ↔ MarkedActive changes name := by
    intro name
    simp [markedActive_append_singleton]
  refine ⟨fun name hboth => ?_, fun name => ?_, fun name => ?_, fun name s hs => ?_⟩
  · rw [hactive, hexcluded] at hboth
    rcases hboth with ⟨⟨hin, hunmatched⟩, ⟨-, hmatched⟩ | hout⟩
    · rw [hunmatched] at hmatched
      cases hmatched
    · exact h.disjoint name ⟨hin, hout⟩
  · rw [hactive, hexcluded, ← h.names name]
    cases isExcludedBy patterns name <;> simp
  · -- What is active now has met no pattern so far, so that only the new ones can exclude it.
    rw [hexcluded, patternsOf_append_exclude, isExcludedBy_append, h.excluded name,
      ← h.names name]
    by_cases hin : t.contains name
    · simp [hin, h.unmatched_of_active hin]
    · have hout : t.excluded.contains name →
          isExcludedBy (patternsOf changes) name = true := fun hout => ((h.excluded name).1 hout).2
      simp only [hin, false_and, false_or, Bool.or_eq_true, Bool.false_eq_true]
      exact and_congr_right fun hout' => iff_of_true (hout hout') (Or.inl (hout hout'))
  · -- An entry that moves stays what it was.
    have hold : t.active[name]? = some s ∨ t.excluded[name]? = some s := by
      rcases hs with hs | hs
      · change (t.exclude patterns).get? name = some s at hs
        rw [get?_exclude, Option.filter_eq_some_iff] at hs
        exact Or.inl hs.1
      · rw [getElem?_excluded_exclude, Option.or_eq_some_iff] at hs
        rcases hs with hs | ⟨-, hs⟩
        · exact Or.inl (Option.filter_eq_some_iff.1 hs).1
        · exact Or.inr hs
    obtain ⟨first, hentry⟩ := h.entry name s hold
    exact ⟨first, hentry.isFirst, hentry.name_eq, hentry.start_eq, hentry.stop_eq,
      hentry.mapped_iff.trans (by rw [hmarked])⟩

theorem mark (h : Accounts symbols changes t) (m : String) :
    Accounts symbols (changes ++ [.mark m]) (t.mark m) := by
  have hactive : ∀ name, (t.mark m).contains name = t.contains name := t.contains_mark m
  refine ⟨fun name hboth => ?_, fun name => ?_, fun name => ?_, fun name s hs => ?_⟩
  · rw [hactive] at hboth
    exact h.disjoint name hboth
  · rw [hactive]
    exact h.names name
  · rw [patternsOf_append_mark]
    exact h.excluded name
  · rcases hs with hs | hs
    · change (t.mark m).get? name = some s at hs
      rw [get?_mark] at hs
      split at hs
      · rename_i hm
        subst hm
        -- The name is active, and so no pattern has matched it before the mark.
        obtain ⟨old, hold, rfl⟩ := Option.map_eq_some_iff.1 hs
        obtain ⟨first, hentry⟩ := h.entry m old (Or.inl hold)
        have hunmatched := h.unmatched_of_active (contains_iff_exists.2 ⟨old, hold⟩)
        refine ⟨first, hentry.isFirst, hentry.name_eq, hentry.start_eq, hentry.stop_eq, ?_⟩
        simp [markedActive_append_singleton, hunmatched]
      · rename_i hm
        obtain ⟨first, hentry⟩ := h.entry name s (Or.inl hs)
        refine ⟨first, hentry.isFirst, hentry.name_eq, hentry.start_eq, hentry.stop_eq, ?_⟩
        simp [markedActive_append_singleton, hm, hentry.mapped_iff]
    · -- Marking an excluded name does nothing.
      obtain ⟨first, hentry⟩ := h.entry name s (Or.inr hs)
      have hmatched := ((h.excluded name).1 (excluded_iff_exists.2 ⟨s, hs⟩)).2
      refine ⟨first, hentry.isFirst, hentry.name_eq, hentry.start_eq, hentry.stop_eq, ?_⟩
      simp [markedActive_append_singleton, hmatched, hentry.mapped_iff]

theorem apply (h : Accounts symbols changes t) (c : Change) :
    Accounts symbols (changes ++ [c]) (c.apply t) := by
  cases c with
  | exclude patterns =>
      exact h.exclude patterns
  | mark m =>
      exact h.mark m

/-- Further changes leave every excluded entry as it is. -/
theorem excluded_kept_changeAll (h : Accounts symbols changes t) (later : List Change)
    (hs : t.excluded[name]? = some s) : (t.changeAll later).excluded[name]? = some s := by
  induction later generalizing t changes with
  | nil =>
      exact hs
  | cons c later ih =>
      exact ih (h.apply c) (h.excluded_kept c hs)

end Accounts

/-! ## All changes -/

theorem accounts_changeAll (symbols : List FunctionSymbol) (changes : List Change) :
    Accounts symbols changes ((ofSymbols symbols).changeAll changes) := by
  induction changes using List.reverseRecOn with
  | nil =>
      exact accounts_ofSymbols symbols
  | append_singleton changes c ih =>
      rw [changeAll_append]
      exact ih.apply c

/-- However a table has been changed, it accounts for its symbols: where none of these had a source
line to begin with, an entry has one if its name was marked while active.  The same patterns exclude
the same names in any order and grouping.  Whatever else is done, an excluded entry stays excluded
and as it is. -/
theorem changeAll_accounts (symbols : List FunctionSymbol) (changes : List Change) :
    let t := (ofSymbols symbols).changeAll changes
    Accounts symbols changes t ∧
    ((∀ s ∈ symbols, s.mapped = false) → ∀ name s,
      t.active[name]? = some s ∨ t.excluded[name]? = some s →
        (s.mapped = true ↔ MarkedActive changes name)) ∧
    (∀ others, (∀ p, p ∈ patternsOf others ↔ p ∈ patternsOf changes) → ∀ name,
      ((ofSymbols symbols).changeAll others).excluded.contains name = t.excluded.contains name) ∧
    ∀ later name s, t.excluded[name]? = some s →
      (t.changeAll later).excluded[name]? = some s ∧ ¬ (t.changeAll later).contains name := by
  intro t
  have haccounts : Accounts symbols changes t := accounts_changeAll symbols changes
  refine ⟨haccounts, fun hfresh name s hs => ?_, fun others hothers name => ?_,
    fun later name s hs => ?_⟩
  · obtain ⟨first, hentry⟩ := haccounts.entry name s hs
    have hfirst := hfresh first (List.mem_of_find?_eq_some hentry.isFirst)
    simp [hentry.mapped_iff, hfirst]
  · rw [Bool.eq_iff_iff, (accounts_changeAll symbols others).excluded name,
      haccounts.excluded name, isExcludedBy_congr hothers]
  · have hkept := haccounts.excluded_kept_changeAll later hs
    refine ⟨hkept, fun hactive => ?_⟩
    have hlater : Accounts symbols (changes ++ later) (t.changeAll later) := by
      rw [← changeAll_append]
      exact accounts_changeAll symbols (changes ++ later)
    exact hlater.disjoint name ⟨hactive, excluded_iff_exists.2 ⟨s, hkept⟩⟩

/-- `init` comes twice, and `plat_on` is marked before and after it is excluded. -/
theorem changeAll_accounts_twice :
    let symbols : List FunctionSymbol :=
      [⟨"init", 256, 272, false⟩, ⟨"plat_on", 512, 528, false⟩, ⟨"init", 768, 800, false⟩]
    let plat : Pattern := .sequence [.look .textStart, .set (.single 'p') 0]
    let changes : List Change := [.mark "plat_on", .exclude [plat], .mark "plat_on"]
    let t := (ofSymbols symbols).changeAll changes
    (∀ s ∈ symbols, s.mapped = false) ∧
    t.active["init"]? = some ⟨"init", 256, 272, false⟩ ∧
    t.excluded["plat_on"]? = some ⟨"plat_on", 512, 528, true⟩ ∧
    ¬ MarkedActive changes "init" ∧
    (t.changeAll [.exclude [.empty]]).excluded["plat_on"]? =
      some ⟨"plat_on", 512, 528, true⟩ := by
  intro symbols plat changes t
  have hfresh : ∀ s ∈ symbols, s.mapped = false := by
    decide
  have hinit : t.active["init"]? = some ⟨"init", 256, 272, false⟩ := by
    decide +kernel
  have hplat : t.excluded["plat_on"]? = some ⟨"plat_on", 512, 528, true⟩ := by
    decide +kernel
  obtain ⟨-, hmapped, -, hkept⟩ := changeAll_accounts symbols changes
  refine ⟨hfresh, hinit, hplat, fun hmarked => ?_, (hkept [.exclude [.empty]] _ _ hplat).1⟩
  have htrue := (hmapped hfresh "init" _ (Or.inl hinit)).2 hmarked
  cases htrue

end BinaryCoverage.FunctionTable
