import BinaryCoverage.Branch.Analysis
import BinaryCoverage.Proofs.Source.Word

/-!
# The second arm of an `if`

After the first arm of an `if`, an `else` is looked for on the rest of the line and on the line
after it.  This file defines:

* `ElseEndsAt` — where the first `else` of these two lines ends;
* `ElseFollows` — the next token is an `else`, so that the `if` has one of its own;

and shows when the second arm counts as covered (`secondArm_covered_iff`).  An `if` without an
`else` of its own may be given that of the construct around it, whose arm then decides.
-/

namespace BinaryCoverage.MaskedSource

open Source (IsWordAt IsFirstWordAt StartsWithWord findWord?_eq_some_iff findWord?_eq_none_iff)

variable {s : MaskedSource} {covered : Nat → Bool}

/-! ## The search for an `else` -/

inductive ElseEndsAt (s : MaskedSource) (stop : Position) : Position → Prop where
  | sameLine {i : Nat} :
      IsFirstWordAt "else".toList (s.rest stop) i →
      ElseEndsAt s stop ⟨stop.line, stop.column + i + 4⟩
  | nextLine {i : Nat} :
      (∀ j, ¬ IsWordAt "else".toList (s.rest stop) j) →
      IsFirstWordAt "else".toList (s.rest ⟨stop.line + 1, 0⟩) i →
      ElseEndsAt s stop ⟨stop.line + 1, i + 4⟩

def ElseFollows (s : MaskedSource) (stop : Position) : Prop :=
  ∃ q c, s.nextToken? stop = some (q, c) ∧ StartsWithWord "else".toList (s.rest q)

theorem else_ne_nil : "else".toList ≠ [] := by
  decide

theorem length_else : "else".toList.length = 4 := by
  decide

theorem elseEnd?_eq_some_iff {stop q : Position} :
    s.elseEnd? stop = some q ↔ s.ElseEndsAt stop q := by
  unfold elseEnd?
  cases hsame : Source.findWord? "else".toList false stop.column (s.rest stop) with
  | some column =>
      rcases (findWord?_eq_some_iff else_ne_nil).1 hsame with ⟨i, hi, hcolumn⟩
      constructor
      · intro h
        cases h
        rw [hcolumn, length_else]
        exact ElseEndsAt.sameLine hi
      · intro h
        cases h with
        | sameLine hj =>
            rw [(findWord?_eq_some_iff else_ne_nil).2 ⟨_, hj, rfl⟩] at hsame
            cases hsame
            rw [length_else]
        | nextLine hnone _ =>
            exact absurd hi.1 (hnone i)
  | none =>
      have hnone := (findWord?_eq_none_iff else_ne_nil).1 hsame
      -- The next line is searched from its first column, and a line past the end has no words.
      have hrest : s.rest ⟨stop.line + 1, 0⟩ = (s.line? (stop.line + 1)).getD [] := rfl
      constructor
      · intro h
        cases hline : s.line? (stop.line + 1) with
        | none =>
            simp [hline] at h
        | some line =>
            rw [hline] at h hrest
            rcases Option.map_eq_some_iff.1 h with ⟨column, hfound, rfl⟩
            rcases (findWord?_eq_some_iff else_ne_nil).1 hfound with ⟨i, hi, hcolumn⟩
            rw [hcolumn, Nat.zero_add, length_else]
            exact ElseEndsAt.nextLine hnone (hrest ▸ hi)
      · intro h
        cases h with
        | sameLine hj =>
            exact absurd hj.1 (hnone _)
        | @nextLine i _ hj =>
            cases hline : s.line? (stop.line + 1) with
            | none =>
                rw [hrest, hline] at hj
                exact absurd (by simpa using hj.1.2) (Source.not_startsWithWord_nil else_ne_nil)
            | some line =>
                rw [hrest, hline] at hj
                have hfound : Source.findWord? "else".toList false 0 _ = some _ :=
                  (findWord?_eq_some_iff else_ne_nil).2 ⟨i, hj, rfl⟩
                simp only [Option.getD_some] at hfound
                simp only [hfound, Option.map_some, length_else, Nat.zero_add]

/-! ## The two arms -/

theorem secondArm_eq_ok_iff {stop : Position} {second : Bool} :
    s.secondArm covered stop = .ok second ↔
      (second = true ∧ ∀ q, ¬ s.ElseEndsAt stop q) ∨
        ∃ q last, s.ElseEndsAt stop q ∧ s.arm covered q = .ok (second, last) := by
  unfold secondArm
  cases helse : s.elseEnd? stop with
  | none =>
      have hnone : ∀ q, ¬ s.ElseEndsAt stop q := by
        intro q hq
        rw [elseEnd?_eq_some_iff.2 hq] at helse
        cases helse
      constructor
      · intro h
        cases h
        exact Or.inl ⟨rfl, hnone⟩
      · rintro (⟨rfl, -⟩ | ⟨q, last, hq, -⟩)
        · rfl
        · exact absurd hq (hnone q)
  | some q =>
      have hq := elseEnd?_eq_some_iff.1 helse
      constructor
      · intro h
        cases harm : s.arm covered q with
        | error e =>
            simp [harm, Except.map] at h
        | ok arm =>
            rcases arm with ⟨flag, last⟩
            have hflag : flag = second := by
              simpa [harm, Except.map] using h
            exact Or.inr ⟨q, last, hq, by rw [harm, hflag]⟩
      · rintro (⟨-, hnone⟩ | ⟨r, last, hr, harm⟩)
        · exact absurd hq (hnone q)
        · have hqr : q = r := by
            have hr' := elseEnd?_eq_some_iff.2 hr
            rw [helse] at hr'
            exact Option.some.inj hr'
          subst hqr
          simp [harm, Except.map]

theorem conditionalArms_eq_ok_iff {n : Nat} {first second : Bool} :
    s.conditionalArms covered n = .ok (first, second) ↔
      ∃ p stop, s.conditionEnd? ⟨n, 0⟩ = some p ∧ s.arm covered p = .ok (first, stop) ∧
        s.secondArm covered stop = .ok second := by
  unfold conditionalArms
  cases hend : s.conditionEnd? ⟨n, 0⟩ with
  | none =>
      simp
  | some p =>
      cases harm : s.arm covered p with
      | error e =>
          simp [harm]
      | ok arm =>
          rcases arm with ⟨flag, stop⟩
          cases hsecond : s.secondArm covered stop with
          | error e =>
              simp [harm, hsecond, Except.map]
          | ok arm =>
              simp [harm, hsecond, Except.map]

/-- The second arm is covered unless the first `else` of the two lines after the first arm begins
an arm that is not, whether that `else` belongs to this `if` or not. -/
theorem secondArm_covered_iff {n : Nat} {first second : Bool}
    (h : s.conditionalArms covered n = .ok (first, second)) :
    ∃ p stop, s.conditionEnd? ⟨n, 0⟩ = some p ∧ s.arm covered p = .ok (first, stop) ∧
      (second = true ↔ ∀ q, s.ElseEndsAt stop q → ∃ last, s.arm covered q = .ok (true, last)) := by
  rcases conditionalArms_eq_ok_iff.1 h with ⟨p, stop, hend, harm, hsecond⟩
  refine ⟨p, stop, hend, harm, ?_⟩
  rcases secondArm_eq_ok_iff.1 hsecond with ⟨rfl, hnone⟩ | ⟨q, last, hq, hqarm⟩
  · refine ⟨fun _ r hr => absurd hr (hnone r), fun _ => rfl⟩
  · constructor
    · rintro rfl r hr
      -- There is but one first `else`, so its arm is the one that counts.
      have hqr : q = r := by
        have hfound := elseEnd?_eq_some_iff.2 hq
        rw [elseEnd?_eq_some_iff.2 hr] at hfound
        exact (Option.some.inj hfound).symm
      exact ⟨last, hqr ▸ hqarm⟩
    · intro hall
      rcases hall q hq with ⟨last', hqarm'⟩
      rw [hqarm] at hqarm'
      cases hqarm'
      rfl

/-- An `if` inside the first arm of another one that has an `else`. -/
def nestedConditional : String :=
  "    if (a) \x7b\n        if (b) \x7b x(); \x7d\n    \x7d else \x7b\n        y();\n    \x7d\n"

theorem secondArm_covered_iff_nested :
    let s := ofText nestedConditional
    s.conditionalArms (· == 4) 2 = .ok (false, true) ∧
      ∃ p stop, s.conditionEnd? ⟨2, 0⟩ = some p ∧ s.arm (· == 4) p = .ok (false, stop) ∧
        (true = true ↔ ∀ q, s.ElseEndsAt stop q → ∃ last, s.arm (· == 4) q = .ok (true, last)) :=
  have h : (ofText nestedConditional).conditionalArms (· == 4) 2 = .ok (false, true) := by
    decide +kernel
  ⟨h, secondArm_covered_iff h⟩

/-- The inner `if` has no `else` of its own, and yet its second arm is not covered. -/
theorem secondArm_takes_outer_else :
    let s := ofText nestedConditional
    let c : FileCoverage := {}
    ∃ p stop, s.conditionEnd? ⟨2, 0⟩ = some p ∧ s.arm c.coversLine p = .ok (false, stop) ∧
      ¬ s.ElseFollows stop ∧ s.conditionalArms c.coversLine 2 = .ok (false, false) := by
  refine ⟨⟨2, 14⟩, ⟨2, 23⟩, by decide +kernel, by decide +kernel, ?_, by decide +kernel⟩
  rintro ⟨q, c, htoken, rest, hrest, -⟩
  -- The token after the inner arm is the brace that closes the outer one.
  have hbrace : (ofText nestedConditional).nextToken? ⟨2, 23⟩ = some (⟨3, 4⟩, '}') := by
    decide +kernel
  rw [hbrace] at htoken
  cases htoken
  have hhead : ((ofText nestedConditional).rest ⟨3, 4⟩).head? = some '}' := by
    decide +kernel
  rw [hrest] at hhead
  cases hhead

end BinaryCoverage.MaskedSource
