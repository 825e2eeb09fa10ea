import BinaryCoverage.Proofs.Source.Order

/-!
# Tokens, conditions, blocks and statements

The scanners of a source count brackets as they go.  This file defines what they look for in terms of
the text alone:

* `MaskedSource.FirstToken` — the first character that is no blank;
* `MaskedSource.ClosesCondition` — the parenthesis that closes the first one;
* `MaskedSource.ClosesBlock` — the place by which as many braces have closed as have opened;
* `InParenthesis` — a text ends inside a parenthesis;
* `MaskedSource.EndsStatement` — the first semicolon outside of parentheses;

and shows that they find it (`nextToken?_eq_some_iff`, `conditionEnd?_eq_some_iff`,
`blockEnd?_eq_some_iff`, `statementEnd?_eq_some_iff`).
-/

namespace BinaryCoverage

open Text (isBlank)

variable {text : List Char} {c : Char} {m n : Nat}

/-! ## Braces -/

namespace MaskedSource

theorem blockStep_eq_none_iff : blockStep m c = none ↔ c = '}' ∧ m ≤ 1 := by
  unfold blockStep
  split <;> simp_all

theorem foldlM_blockStep (h : text.foldlM blockStep m = some n) :
    m + text.count '{' = n + text.count '}' := by
  induction text generalizing m with
  | nil =>
      cases h
      rfl
  | cons c text ih =>
      rw [List.foldlM_cons] at h
      unfold blockStep at h
      split at h
      · have hrest := ih h
        simp only [List.count_cons]
        simp
        omega
      · split at h
        · cases h
        · have hrest := ih h
          simp only [List.count_cons]
          simp
          omega
      · have hrest := ih h
        simp_all

/-- An open block stays open until the scan stops. -/
theorem pos_of_foldlM_blockStep (h : text.foldlM blockStep m = some n) (hm : 0 < m) : 0 < n := by
  induction text generalizing m with
  | nil =>
      cases h
      exact hm
  | cons c text ih =>
      rw [List.foldlM_cons] at h
      unfold blockStep at h
      split at h
      · exact ih h (Nat.succ_pos m)
      · split at h
        · cases h
        · exact ih h (by omega)
      · exact ih h hm

end MaskedSource

/-! ## Parentheses -/

/-- One of so many open parentheses is still open wherever a text is cut off. -/
def StaysOpen (depth : Nat) (text : List Char) : Prop :=
  ∀ part, part <+: text → part.count ')' < depth + part.count '('

/-- A parenthesis opens in a text that the text does not close. -/
def InParenthesis (text : List Char) : Prop :=
  ∃ before after, text = before ++ '(' :: after ∧ StaysOpen 1 after

theorem StaysOpen.mono (h : StaysOpen m text) (hmn : m ≤ n) : StaysOpen n text := by
  intro part hpart
  have hopen := h part hpart
  omega

theorem staysOpen_nil : StaysOpen m [] ↔ 0 < m := by
  simp [StaysOpen]

theorem staysOpen_cons :
    StaysOpen m (c :: text) ↔
      0 < m ∧ ∀ part, part <+: text → (c :: part).count ')' < m + (c :: part).count '(' := by
  simp only [StaysOpen, List.prefix_cons_iff]
  constructor
  · intro h
    refine ⟨by simpa using h [] (Or.inl rfl), ?_⟩
    intro part hpart
    exact h (c :: part) (Or.inr ⟨part, rfl, hpart⟩)
  · rintro ⟨hm, h⟩ part (rfl | ⟨part, rfl, hpart⟩)
    · simpa using hm
    · exact h part hpart

theorem StaysOpen.pos (h : StaysOpen m text) : 0 < m := by
  simpa using h [] List.nil_prefix

theorem staysOpen_cons_opening :
    StaysOpen m ('(' :: text) ↔ 0 < m ∧ StaysOpen (m + 1) text := by
  rw [staysOpen_cons]
  refine and_congr_right fun _ => forall₂_congr fun part _ => ?_
  simp
  omega

theorem staysOpen_cons_closing : StaysOpen m (')' :: text) ↔ StaysOpen (m - 1) text := by
  rw [staysOpen_cons]
  constructor
  · rintro ⟨hm, hopen⟩ part hpart
    have hpart' := hopen part hpart
    simp at hpart'
    omega
  · intro hopen
    have hm := hopen.pos
    refine ⟨by omega, ?_⟩
    intro part hpart
    have hpart' := hopen part hpart
    simp
    omega

theorem staysOpen_cons_other (hopens : c ≠ '(') (hcloses : c ≠ ')') :
    StaysOpen m (c :: text) ↔ StaysOpen m text := by
  rw [staysOpen_cons]
  simp only [List.count_cons_of_ne hopens, List.count_cons_of_ne hcloses]
  constructor
  · rintro ⟨-, hopen⟩
    exact hopen
  · intro hopen
    exact ⟨hopen.pos, hopen⟩

theorem inParenthesis_cons :
    InParenthesis (c :: text) ↔ (c = '(' ∧ StaysOpen 1 text) ∨ InParenthesis text := by
  constructor
  · rintro ⟨before, after, htext, hopen⟩
    cases before with
    | nil =>
        cases htext
        exact Or.inl ⟨rfl, hopen⟩
    | cons b before =>
        cases htext
        exact Or.inr ⟨before, after, rfl, hopen⟩
  · rintro (⟨rfl, hopen⟩ | ⟨before, after, rfl, hopen⟩)
    · exact ⟨[], text, rfl, hopen⟩
    · exact ⟨c :: before, after, rfl, hopen⟩

theorem not_inParenthesis_nil : ¬ InParenthesis [] := by
  rintro ⟨before, after, htext, -⟩
  simp at htext

namespace MaskedSource

theorem statementStep_eq_none_iff : statementStep m c = none ↔ c = ';' ∧ m = 0 := by
  unfold statementStep
  split <;> simp_all

/-- A parenthesis is open after a text if one opens in it, or was open before, that it does not
close. -/
theorem foldlM_statementStep (h : text.foldlM statementStep m = some n) :
    0 < n ↔ InParenthesis text ∨ StaysOpen m text := by
  induction text generalizing m with
  | nil =>
      cases h
      simp [not_inParenthesis_nil, staysOpen_nil]
  | cons c text ih =>
      rw [List.foldlM_cons] at h
      rw [inParenthesis_cons]
      unfold statementStep at h
      split at h
      · rw [ih h, staysOpen_cons_opening]
        constructor
        · rintro (hin | hopen)
          · exact Or.inl (Or.inr hin)
          · -- What stays open is the parenthesis that opens here, or one of those before.
            rcases Nat.eq_zero_or_pos m with rfl | hm
            · exact Or.inl (Or.inl ⟨rfl, hopen⟩)
            · exact Or.inr ⟨hm, hopen⟩
        · rintro ((⟨-, hopen⟩ | hin) | ⟨-, hopen⟩)
          · exact Or.inr (hopen.mono (Nat.le_add_left 1 m))
          · exact Or.inl hin
          · exact Or.inr hopen
      · rw [ih h, staysOpen_cons_closing]
        simp
      · split at h
        · cases h
        · rw [ih h, staysOpen_cons_other (by decide) (by decide)]
          simp
      · rename_i hopens hcloses _
        rw [ih h, staysOpen_cons_other hopens hcloses]
        simp [show c ≠ '(' from hopens]

/-- The text from its first parenthesis on. -/
def fromParenthesis (text : List Char) : List Char := text.dropWhile (· != '(')

theorem foldlM_conditionStep_succ (h : text.foldlM conditionStep (m + 1) = some n) :
    m + 1 + text.count '(' = n + text.count ')' := by
  induction text generalizing m with
  | nil =>
      cases h
      rfl
  | cons c text ih =>
      rw [List.foldlM_cons] at h
      unfold conditionStep at h
      split at h
      · have hrest := ih h
        simp
        omega
      · split at h
        · cases h
        · rename_i hm
          -- The last open parenthesis would have stopped the scan.
          rcases m with _ | m
          · exact absurd rfl hm
          · have hrest := ih h
            simp
            omega
      · have hrest := ih h
        simp_all

/-- Parentheses count from the first one that opens. -/
theorem foldlM_conditionStep (h : text.foldlM conditionStep 0 = some n) :
    (fromParenthesis text).count '(' = n + (fromParenthesis text).count ')' := by
  induction text with
  | nil =>
      cases h
      simp [fromParenthesis]
  | cons c text ih =>
      rw [List.foldlM_cons] at h
      -- Up to the first parenthesis that opens the scan counts nothing.
      by_cases hopens : c = '('
      · subst hopens
        have hrest := foldlM_conditionStep_succ h
        simp [fromParenthesis]
        omega
      · have hskip : conditionStep 0 c = some 0 := by
          unfold conditionStep
          split <;> simp_all
        rw [hskip] at h
        have hdrop : fromParenthesis (c :: text) = fromParenthesis text := by
          simp [fromParenthesis, hopens]
        rw [hdrop]
        exact ih h

theorem conditionStep_eq_none_iff : conditionStep m c = none ↔ c = ')' ∧ m = 1 := by
  unfold conditionStep
  split <;> simp_all

/-! ## What the scanners find -/

variable {s : MaskedSource} {p q start stop close : Position}

/-- The first character at or after `p` that is no blank. -/
def FirstToken (s : MaskedSource) (p q : Position) (c : Char) : Prop :=
  s.IsFirst p (fun _ c => isBlank c = false) q c

/-- The first parenthesis that closes the first one opened from `p` on. -/
def ClosesCondition (s : MaskedSource) (p q : Position) : Prop :=
  s.IsFirst p (fun text c => c = ')' ∧
    (fromParenthesis text).count '(' = (fromParenthesis text).count ')' + 1) q ')'

/-- The first position from `start` on by which as many braces have closed as have opened. -/
def ClosesBlock (s : MaskedSource) (start close : Position) : Prop :=
  ∃ c, s.IsFirst start (fun text c => (text ++ [c]).count '}' = (text ++ [c]).count '{') close c

/-- The first semicolon from `start` on that is not inside a parenthesis opened since. -/
def EndsStatement (s : MaskedSource) (start stop : Position) : Prop :=
  s.IsFirst start (fun text c => c = ';' ∧ ¬ InParenthesis text) stop ';'

theorem nextToken?_eq_some_iff : s.nextToken? p = some (q, c) ↔ s.FirstToken p q c := by
  refine scan_eq_some_iff_isFirst ?_
  intro q c _ state _
  simp

theorem conditionEnd?_eq_some_iff :
    s.conditionEnd? p = some stop ↔ ∃ q, s.ClosesCondition p q ∧ stop = ⟨q.line, q.column + 1⟩ := by
  have hscan : ∀ q c, s.scan conditionStep 0 p = some (q, c) ↔
      s.IsFirst p (fun text c => c = ')' ∧
        (fromParenthesis text).count '(' = (fromParenthesis text).count ')' + 1) q c := by
    intro q c
    refine scan_eq_some_iff_isFirst ?_
    intro q c _ depth hrun
    have hcount := foldlM_conditionStep hrun
    rw [conditionStep_eq_none_iff]
    refine and_congr_right fun _ => ?_
    omega
  simp only [conditionEnd?, Option.map_eq_some_iff, Prod.exists, hscan]
  constructor
  · rintro ⟨q, c, hfirst, rfl⟩
    rcases hfirst.holds with ⟨rfl, -⟩
    exact ⟨q, hfirst, rfl⟩
  · rintro ⟨q, hfirst, rfl⟩
    exact ⟨q, ')', hfirst, rfl⟩

/-- Once its brace has opened, a block is open until the scan stops. -/
theorem pos_of_foldlM_upTo {depth : Nat} (hstart : (s.rest start).head? = some '{')
    (hq : start.Before q) (h : (s.upTo start q).foldlM blockStep 0 = some depth) : 0 < depth := by
  rw [upTo_cons hstart hq, List.foldlM_cons] at h
  exact pos_of_foldlM_blockStep h Nat.one_pos

theorem blockEnd?_eq_some_iff (hstart : (s.rest start).head? = some '{') :
    s.blockEnd? start = some close ↔ s.ClosesBlock start close := by
  have hscan : ∀ q c, s.scan blockStep 0 start = some (q, c) ↔
      s.IsFirst start (fun text c => (text ++ [c]).count '}' = (text ++ [c]).count '{') q c := by
    intro q c
    refine scan_eq_some_iff_isFirst ?_
    intro q c hq depth hrun
    have hcount := foldlM_blockStep hrun
    rw [blockStep_eq_none_iff, List.count_append, List.count_append, List.count_singleton,
      List.count_singleton]
    by_cases hfirst : q = start
    · -- The scan starts at the brace that opens the block.
      subst hfirst
      have hc := (mem_cellsFrom_iff.1 hq).2.2
      rw [hstart, Option.some.injEq] at hc
      subst hc
      simp [upTo_self]
    · have hdepth : 0 < depth := by
        refine pos_of_foldlM_upTo hstart ?_ hrun
        by_contra hnot
        exact hfirst (Position.eq_of_not_before (mem_cellsFrom_iff.1 hq).2.1 hnot)
      by_cases hcloses : c = '}'
      · subst hcloses
        simp
        omega
      · by_cases hopens : c = '{'
        · subst hopens
          simp
          omega
        · simp [hcloses, hopens]
          omega
  simp only [blockEnd?, Option.map_eq_some_iff, Prod.exists, hscan]
  constructor
  · rintro ⟨q, c, hfirst, rfl⟩
    exact ⟨c, hfirst⟩
  · rintro ⟨c, hfirst⟩
    exact ⟨close, c, hfirst, rfl⟩

theorem statementEnd?_eq_some_iff :
    s.statementEnd? start = some stop ↔ s.EndsStatement start stop := by
  have hscan : ∀ q c, s.scan statementStep 0 start = some (q, c) ↔
      s.IsFirst start (fun text c => c = ';' ∧ ¬ InParenthesis text) q c := by
    intro q c
    refine scan_eq_some_iff_isFirst ?_
    intro q c _ depth hrun
    have hdepth := foldlM_statementStep hrun
    have hnone : ¬ StaysOpen 0 (s.upTo start q) := fun h => absurd h.pos (Nat.lt_irrefl 0)
    rw [statementStep_eq_none_iff, ← Nat.le_zero, ← Nat.not_lt, hdepth, or_iff_left hnone]
  simp only [statementEnd?, Option.map_eq_some_iff, Prod.exists, hscan]
  constructor
  · rintro ⟨q, c, hfirst, rfl⟩
    rcases hfirst.holds with ⟨rfl, -⟩
    exact hfirst
  · intro hfirst
    exact ⟨stop, ';', hfirst, rfl⟩

/-! ## Where they find nothing -/

theorem nextToken?_eq_none_iff : s.nextToken? p = none ↔ ∀ q c, ¬ s.FirstToken p q c := by
  rw [Option.eq_none_iff_forall_ne_some, Prod.forall]
  exact forall₂_congr fun q c => not_congr nextToken?_eq_some_iff

theorem conditionEnd?_eq_none_iff : s.conditionEnd? p = none ↔ ∀ q, ¬ s.ClosesCondition p q := by
  rw [Option.eq_none_iff_forall_ne_some]
  constructor
  · intro h q hq
    exact h _ (conditionEnd?_eq_some_iff.2 ⟨q, hq, rfl⟩)
  · intro h stop hstop
    obtain ⟨q, hq, -⟩ := conditionEnd?_eq_some_iff.1 hstop
    exact h q hq

theorem blockEnd?_eq_none_iff (hstart : (s.rest p).head? = some '{') :
    s.blockEnd? p = none ↔ ∀ close, ¬ s.ClosesBlock p close := by
  rw [Option.eq_none_iff_forall_ne_some]
  exact forall_congr' fun close => not_congr (blockEnd?_eq_some_iff hstart)

theorem statementEnd?_eq_none_iff : s.statementEnd? p = none ↔ ∀ stop, ¬ s.EndsStatement p stop := by
  rw [Option.eq_none_iff_forall_ne_some]
  exact forall_congr' fun stop => not_congr statementEnd?_eq_some_iff

end MaskedSource

end BinaryCoverage
