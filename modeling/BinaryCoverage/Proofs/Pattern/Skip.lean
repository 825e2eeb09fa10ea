import BinaryCoverage.Pattern.Flags
import Mathlib.Data.List.Infix

/-!
# What is skipped before a parenthesis

Blanks and comments of a text are skipped alike when a closing parenthesis follows the text, unless the
text ends within a comment, which then takes the parenthesis (`Flags.skip_append`).
-/

namespace BinaryCoverage.Pattern

namespace Flags

variable {f : Flags} {cs rest : List Char} {c : Char}

theorem length_drop_dropWhile (cs : List Char) :
    ((cs.dropWhile (· != '\n')).drop 1).length ≤ cs.length := by
  have hdrop := (List.dropWhile_suffix (l := cs) (· != '\n')).length_le
  rw [List.length_drop]
  omega

theorem skipFuel_of_le {n : Nat} (h : cs.length ≤ n) : f.skipFuel n cs = f.skip cs := by
  unfold skip
  generalize hm : cs.length = m at h
  replace hm := hm.le
  -- Two amounts of fuel that are both enough come to the same.
  induction n generalizing cs m with
  | zero =>
      obtain rfl : m = 0 := Nat.le_zero.1 h
      rfl
  | succ n ih =>
      cases m with
      | zero =>
          obtain rfl := List.length_eq_zero_iff.1 (Nat.le_zero.1 hm)
          cases hspace : f.ignoreSpace <;> simp [skipFuel, hspace]
      | succ m =>
          rw [skipFuel.eq_def, skipFuel.eq_def]
          dsimp only
          split
          · rfl
          · cases cs with
            | nil =>
                rfl
            | cons c rest =>
                have hrest : rest.length ≤ m := Nat.le_of_succ_le_succ hm
                have hmn : m ≤ n := Nat.le_of_succ_le_succ h
                dsimp only
                rw [ih m hmn hrest, ih m hmn ((length_drop_dropWhile rest).trans hrest)]

theorem skip_nil (f : Flags) : f.skip [] = [] := rfl

theorem skip_of_keeps (h : f.ignoreSpace = false) (cs : List Char) : f.skip cs = cs := by
  unfold skip
  cases cs with
  | nil =>
      rfl
  | cons c rest =>
      simp [skipFuel, h]

theorem skip_cons (h : f.ignoreSpace = true) (c : Char) (rest : List Char) :
    f.skip (c :: rest) =
      if Text.isBlank c then f.skip rest
      else if c == '#' then f.skip ((rest.dropWhile (· != '\n')).drop 1)
      else c :: rest := by
  conv_lhs => rw [skip, List.length_cons, skipFuel]
  rw [if_neg (by simp [h]), skipFuel_of_le le_rfl, skipFuel_of_le (length_drop_dropWhile rest)]

theorem skip_suffix (f : Flags) (cs : List Char) : f.skip cs <:+ cs := by
  cases hspace : f.ignoreSpace with
  | false =>
      rw [skip_of_keeps hspace]
  | true =>
      induction hn : cs.length using Nat.strong_induction_on generalizing cs with
      | _ n ih =>
          subst hn
          cases cs with
          | nil =>
              exact List.suffix_rfl
          | cons c rest =>
              have hdrop : (rest.dropWhile (· != '\n')).drop 1 <:+ rest :=
                (List.drop_suffix 1 _).trans (List.dropWhile_suffix _)
              rw [skip_cons hspace]
              split
              · exact (ih _ (by simp) rest rfl).trans (List.suffix_cons c rest)
              · split
                · have hlt : ((rest.dropWhile (· != '\n')).drop 1).length < (c :: rest).length :=
                    Nat.lt_succ_of_le (length_drop_dropWhile rest)
                  exact (ih _ hlt _ rfl).trans (hdrop.trans (List.suffix_cons c rest))
                · exact List.suffix_rfl

theorem skip_visible (f : Flags) (hblank : Text.isBlank c = false) (hmark : (c == '#') = false)
    (rest : List Char) : f.skip (c :: rest) = c :: rest := by
  cases hspace : f.ignoreSpace with
  | false =>
      exact skip_of_keeps hspace _
  | true =>
      simp [skip_cons hspace, hblank, hmark]

theorem skip_closing (f : Flags) (t : List Char) : f.skip (')' :: t) = ')' :: t :=
  f.skip_visible (by decide) (by decide) t

/-- Either what is skipped ends before a parenthesis that follows, or the text ends within a comment
and the parenthesis is skipped too. -/
theorem skip_append (f : Flags) (cs : List Char) :
    (∀ t, f.skip (cs ++ ')' :: t) = f.skip cs ++ ')' :: t) ∨
      f.skip cs = [] ∧ f.skip (cs ++ [')']) = [] ∧ ∀ t, f.skip (cs ++ ')' :: t) <:+ t := by
  cases hspace : f.ignoreSpace with
  | false =>
      left
      intro t
      rw [skip_of_keeps hspace, skip_of_keeps hspace]
  | true =>
      induction hn : cs.length using Nat.strong_induction_on generalizing cs with
      | _ n ih =>
          subst hn
          cases cs with
          | nil =>
              exact Or.inl f.skip_closing
          | cons c rest =>
              simp only [List.cons_append, skip_cons hspace]
              split
              · exact ih _ (by simp) rest rfl
              · split
                · cases hline : rest.dropWhile (· != '\n') with
                  | nil =>
                      -- The comment has no end in the text.
                      refine Or.inr ⟨by simp [skip_nil], ?_, fun t => ?_⟩
                      · simp [List.dropWhile_append, hline, skip_nil]
                      · have hdrop : (t.dropWhile (· != '\n')).drop 1 <:+ t :=
                          (List.drop_suffix 1 _).trans (List.dropWhile_suffix _)
                        simpa [List.dropWhile_append, hline] using (f.skip_suffix _).trans hdrop
                  | cons x after =>
                      have hlt : after.length < (c :: rest).length := by
                        have hle := (List.dropWhile_suffix (l := rest) (· != '\n')).length_le
                        rw [hline, List.length_cons] at hle
                        rw [List.length_cons]
                        omega
                      simpa [List.dropWhile_append, hline] using ih _ hlt after rfl
                · exact Or.inl fun _ => rfl

theorem skip_append_of_nil (h : f.skip cs = []) (t : List Char) :
    f.skip (cs ++ ')' :: t) = ')' :: t ∨ f.skip (cs ++ ')' :: t) <:+ t := by
  rcases f.skip_append cs with hover | ⟨-, -, hsuffix⟩
  · rw [hover, h]
    exact Or.inl rfl
  · exact Or.inr (hsuffix t)

theorem skip_append_of_cons {more : List Char} (h : f.skip cs = c :: more) (t : List Char) :
    f.skip (cs ++ ')' :: t) = c :: (more ++ ')' :: t) := by
  rcases f.skip_append cs with hover | ⟨hnil, -, -⟩
  · rw [hover, h, List.cons_append]
  · rw [h] at hnil
    cases hnil

end Flags

/-! ## Texts up to a character -/

/-- The parenthesis comes before the first `d`, or after it. -/
theorem takeWhile_closing {d : Char} (hd : d ≠ ')') (cs t : List Char) :
    cs.dropWhile (· != d) = [] ∧ ')' ∈ (cs ++ ')' :: t).takeWhile (· != d) ∨
      cs.dropWhile (· != d) ≠ [] ∧ (cs ++ ')' :: t).takeWhile (· != d) = cs.takeWhile (· != d) ∧
        (cs ++ ')' :: t).dropWhile (· != d) = cs.dropWhile (· != d) ++ ')' :: t := by
  have hcs := List.takeWhile_append_dropWhile (p := (· != d)) (l := cs)
  cases hrest : cs.dropWhile (· != d) with
  | nil =>
      rw [hrest, List.append_nil] at hcs
      simp [List.takeWhile_append, hcs, hd.symm]
  | cons c rest =>
      have hlt : (cs.takeWhile (· != d)).length ≠ cs.length := by
        have hlength := congrArg List.length hcs
        rw [hrest, List.length_append, List.length_cons] at hlength
        omega
      refine Or.inr ⟨List.cons_ne_nil c rest, ?_, ?_⟩
      · rw [List.takeWhile_append, if_neg hlt]
      · rw [List.dropWhile_append, hrest, List.isEmpty_cons, if_neg Bool.false_ne_true]

end BinaryCoverage.Pattern
