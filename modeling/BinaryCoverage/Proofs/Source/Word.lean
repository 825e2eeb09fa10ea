import BinaryCoverage.Branch.Detect
import Mathlib.Tactic.Common

/-!
# Whole words

A word stands in a text as a whole when no word character touches it on either side.  This file
defines:

* `StartsWithWord` — a text begins with a word as a whole;
* `IsWordAt` — a word stands as a whole at a given place of a text;
* `IsFirstWordAt` — it does so for the first time there;

and shows that `findWord?` finds the first place (`findWord?_eq_some_iff`).
-/

namespace BinaryCoverage

namespace Text

theorem dropPrefix?_eq_some_iff {pre cs rest : List Char} :
    dropPrefix? pre cs = some rest ↔ cs = pre ++ rest := by
  induction pre generalizing cs with
  | nil =>
      simp [dropPrefix?]
  | cons p ps ih =>
      cases cs with
      | nil =>
          simp [dropPrefix?]
      | cons c cs =>
          by_cases hpc : p = c
          · subst hpc
            simp [dropPrefix?, ih]
          · have hcp : ¬ c = p := fun h => hpc h.symm
            simp [dropPrefix?, hpc, hcp]

end Text

namespace Source

open Text (dropPrefix? dropPrefix?_eq_some_iff)

variable {word line : List Char}

/-! ## Words in a text -/

def StartsWithWord (word text : List Char) : Prop :=
  ∃ rest, text = word ++ rest ∧ rest.head?.any isWordChar = false

def IsWordAt (word line : List Char) (i : Nat) : Prop :=
  (line.take i).getLast?.any isWordChar = false ∧ StartsWithWord word (line.drop i)

def IsFirstWordAt (word line : List Char) (i : Nat) : Prop :=
  IsWordAt word line i ∧ ∀ j < i, ¬ IsWordAt word line j

theorem startsWithWord_iff {text : List Char} :
    StartsWithWord word text ↔
      ∃ rest, dropPrefix? word text = some rest ∧ rest.head?.any isWordChar = false := by
  simp only [StartsWithWord, dropPrefix?_eq_some_iff]

theorem not_startsWithWord_nil (hword : word ≠ []) : ¬ StartsWithWord word [] := by
  rintro ⟨rest, hrest, -⟩
  exact hword (List.append_eq_nil_iff.1 hrest.symm).1

/-! ## The search -/

/-- `word` stands at place `i` of a text that comes after a word character or not. -/
def IsWordAfter (word : List Char) (afterWord : Bool) (line : List Char) : Nat → Prop
  | 0 => afterWord = false ∧ StartsWithWord word line
  | i + 1 => IsWordAt word line (i + 1)

theorem isWordAfter_false {i : Nat} : IsWordAfter word false line i ↔ IsWordAt word line i := by
  cases i with
  | zero =>
      simp [IsWordAfter, IsWordAt]
  | succ i =>
      exact Iff.rfl

/-- A place after the first character of a text is a place of the rest. -/
theorem isWordAfter_cons_succ {afterWord : Bool} {c : Char} {i : Nat} (hword : word ≠ []) :
    IsWordAfter word afterWord (c :: line) (i + 1) ↔ IsWordAfter word (isWordChar c) line i := by
  cases i with
  | zero =>
      simp [IsWordAfter, IsWordAt]
  | succ i =>
      cases line with
      | nil =>
          simp [IsWordAfter, IsWordAt, not_startsWithWord_nil hword]
      | cons d line =>
          simp [IsWordAfter, IsWordAt, List.getLast?_cons_cons]

theorem not_isWordAfter_nil (hword : word ≠ []) {afterWord : Bool} {i : Nat} :
    ¬ IsWordAfter word afterWord [] i := by
  intro h
  cases i with
  | zero =>
      exact not_startsWithWord_nil hword h.2
  | succ i =>
      exact not_startsWithWord_nil hword (by simpa using h.2)

theorem findWord?_cons_of_starts {afterWord : Bool} {column : Nat} {c : Char} {cs : List Char}
    (h : afterWord = false ∧ StartsWithWord word (c :: cs)) :
    findWord? word afterWord column (c :: cs) = some (column + word.length) := by
  rcases startsWithWord_iff.1 h.2 with ⟨rest, hdrop, hrest⟩
  simp [findWord?, hdrop, hrest, h.1]

theorem findWord?_cons_of_not_starts {afterWord : Bool} {column : Nat} {c : Char} {cs : List Char}
    (h : ¬ (afterWord = false ∧ StartsWithWord word (c :: cs))) :
    findWord? word afterWord column (c :: cs) =
      findWord? word (isWordChar c) (column + 1) cs := by
  rw [startsWithWord_iff] at h
  rw [findWord?]
  cases hdrop : dropPrefix? word (c :: cs) with
  | none =>
      rfl
  | some rest =>
      have hrest : ¬ (afterWord = false ∧ rest.head?.any isWordChar = false) :=
        fun hr => h ⟨hr.1, rest, hdrop, hr.2⟩
      have hskip : (!afterWord && !rest.head?.any isWordChar) = false := by
        simpa using hrest
      simp [hskip]

theorem findWord?_eq_some_iff_after (hword : word ≠ []) {afterWord : Bool} {column stop : Nat} :
    findWord? word afterWord column line = some stop ↔
      ∃ i, stop = column + i + word.length ∧ IsWordAfter word afterWord line i ∧
        ∀ j < i, ¬ IsWordAfter word afterWord line j := by
  -- The search moves along the text; `afterWord` is about the character that it has just passed.
  induction line generalizing afterWord column with
  | nil =>
      simp [findWord?, not_isWordAfter_nil hword]
  | cons c cs ih =>
      by_cases hhere : afterWord = false ∧ StartsWithWord word (c :: cs)
      · rw [findWord?_cons_of_starts hhere]
        constructor
        · intro h
          cases h
          exact ⟨0, rfl, hhere, by simp⟩
        · rintro ⟨i, hstop, -, hfirst⟩
          have hi : i = 0 := by
            by_contra hne
            exact hfirst 0 (Nat.pos_of_ne_zero hne) hhere
          simp [hstop, hi]
      · rw [findWord?_cons_of_not_starts hhere, ih]
        -- No word begins at the first character, so places move by one.
        constructor
        · rintro ⟨i, hstop, hi, hfirst⟩
          refine ⟨i + 1, by omega, (isWordAfter_cons_succ hword).2 hi, ?_⟩
          intro j hj
          cases j with
          | zero =>
              exact hhere
          | succ j =>
              rw [isWordAfter_cons_succ hword]
              exact hfirst j (by omega)
        · rintro ⟨i, hstop, hi, hfirst⟩
          cases i with
          | zero =>
              exact absurd hi hhere
          | succ i =>
              refine ⟨i, by omega, (isWordAfter_cons_succ hword).1 hi, ?_⟩
              intro j hj hstands
              exact hfirst (j + 1) (by omega) ((isWordAfter_cons_succ hword).2 hstands)

/-- The search finds the end of the first whole word. -/
theorem findWord?_eq_some_iff (hword : word ≠ []) {column stop : Nat} :
    findWord? word false column line = some stop ↔
      ∃ i, IsFirstWordAt word line i ∧ stop = column + i + word.length := by
  simp only [findWord?_eq_some_iff_after hword, isWordAfter_false, IsFirstWordAt]
  constructor
  · rintro ⟨i, hstop, hi⟩
    exact ⟨i, hi, hstop⟩
  · rintro ⟨i, hi, hstop⟩
    exact ⟨i, hstop, hi⟩

/-- Where a whole word stands, it stands for a first time. -/
theorem exists_isFirstWordAt {i : Nat} (h : IsWordAt word line i) :
    ∃ j, IsFirstWordAt word line j := by
  -- Either the word stands earlier too, and then for a first time there, or this is the first time.
  induction i using Nat.strongRecOn with
  | ind i ih =>
      by_cases hfirst : ∃ j < i, IsWordAt word line j
      · rcases hfirst with ⟨j, hj, hword⟩
        exact ih j hj hword
      · refine ⟨i, h, ?_⟩
        intro j hj hword
        exact hfirst ⟨j, hj, hword⟩

theorem findWord?_eq_none_iff (hword : word ≠ []) {column : Nat} :
    findWord? word false column line = none ↔ ∀ i, ¬ IsWordAt word line i := by
  constructor
  · intro hnone i hi
    rcases exists_isFirstWordAt hi with ⟨j, hj⟩
    have hfound : findWord? word false column line = some (column + j + word.length) :=
      (findWord?_eq_some_iff hword).2 ⟨j, hj, rfl⟩
    rw [hnone] at hfound
    cases hfound
  · intro hnone
    cases hfound : findWord? word false column line with
    | none =>
        rfl
    | some stop =>
        rcases (findWord?_eq_some_iff hword).1 hfound with ⟨i, hi, _⟩
        exact absurd hi.1 (hnone i)

end Source

end BinaryCoverage
