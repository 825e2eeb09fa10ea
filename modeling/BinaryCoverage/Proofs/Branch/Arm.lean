import BinaryCoverage.Branch.Arms
import BinaryCoverage.Proofs.Source.Bracket

/-!
# The extent of an arm

An arm is a block or a statement, and is judged by some of its lines alone.  This file defines:

* `BlockLine` — the lines that decide on a block;
* `ArmSpan` — where an arm ends and which lines decide on it;
* `Unterminated` — why there is no arm;

and shows that an arm is found exactly where it has an extent, and covered when one of its lines is
(`arm_spec`).
-/

namespace BinaryCoverage.MaskedSource

open Text (isBlankText)

/-- The lines between two braces, the closing line when code stands before its brace, and the line of
both braces when they share one. -/
inductive BlockLine (s : MaskedSource) (start close : Position) : Nat → Prop where
  | between {n : Nat} : start.line < n → n < close.line → BlockLine s start close n
  | closing : start.line < close.line →
      isBlankText ((s.rest ⟨close.line, 0⟩).take close.column) = false →
      BlockLine s start close close.line
  | shared : close.line = start.line → BlockLine s start close start.line

/-- A block opens with a brace on the line of `p` or the next. -/
def OpensBlock (p start : Position) (c : Char) : Prop := c = '{' ∧ start.line ≤ p.line + 1

/-- The arm right after `p` ends before a position, and the given lines decide on it. -/
inductive ArmSpan (s : MaskedSource) (p : Position) : Position → (Nat → Prop) → Prop where
  | block {start close : Position} {c : Char} :
      s.FirstToken p start c → OpensBlock p start c → s.ClosesBlock start close →
      ArmSpan s p ⟨close.line, close.column + 1⟩ (s.BlockLine start close)
  | statement {start stop : Position} {c : Char} :
      s.FirstToken p start c → ¬ OpensBlock p start c → s.EndsStatement start stop →
      ArmSpan s p ⟨stop.line, stop.column + 1⟩ (· = start.line)

inductive Unterminated (s : MaskedSource) (p : Position) : ScanFailure → Prop where
  | nothing : (∀ start c, ¬ s.FirstToken p start c) → Unterminated s p .unterminatedStatement
  | block {start : Position} {c : Char} :
      s.FirstToken p start c → OpensBlock p start c → (∀ close, ¬ s.ClosesBlock start close) →
      Unterminated s p .unterminatedBlock
  | statement {start : Position} {c : Char} :
      s.FirstToken p start c → ¬ OpensBlock p start c → (∀ stop, ¬ s.EndsStatement start stop) →
      Unterminated s p .unterminatedStatement

variable {s : MaskedSource} {covered covered' : Nat → Bool} {p start stop close : Position}
  {c : Char}

/-! ## Covered lines -/

theorem anyCovered_eq_true_iff {first last : Nat} :
    anyCovered covered first last = true ↔ ∃ n, first ≤ n ∧ n ≤ last ∧ covered n = true := by
  unfold anyCovered
  rw [List.any_eq_true]
  constructor
  · rintro ⟨n, hn, hcovered⟩
    rw [List.mem_range'_1] at hn
    exact ⟨n, hn.1, by omega, hcovered⟩
  · rintro ⟨n, hfirst, hlast, hcovered⟩
    exact ⟨n, List.mem_range'_1.2 (by omega), hcovered⟩

/-- The lines of a block whose braces stand on different lines. -/
theorem blockLine_iff {n : Nat} (hbelow : start.line < close.line) :
    s.BlockLine start close n ↔ start.line < n ∧ (n < close.line ∨ n = close.line ∧
      isBlankText ((s.rest ⟨close.line, 0⟩).take close.column) = false) := by
  constructor
  · intro h
    cases h with
    | between hafter hbefore =>
        exact ⟨hafter, Or.inl hbefore⟩
    | closing hafter hcode =>
        exact ⟨hafter, Or.inr ⟨rfl, hcode⟩⟩
    | shared hsame =>
        exact absurd hsame (Nat.ne_of_gt hbelow)
  · rintro ⟨hafter, hbefore | ⟨rfl, hcode⟩⟩
    · exact .between hafter hbefore
    · exact .closing hafter hcode

theorem isBlockCovered_eq_true_iff (h : start.line ≤ close.line) :
    s.isBlockCovered covered start close = true ↔
      ∃ n, s.BlockLine start close n ∧ covered n = true := by
  unfold isBlockCovered
  split
  · rename_i hsame
    constructor
    · intro hcovered
      exact ⟨start.line, .shared hsame, hcovered⟩
    · rintro ⟨n, hn, hcovered⟩
      cases hn with
      | between hafter hbefore =>
          omega
      | closing hafter _ =>
          omega
      | shared _ =>
          exact hcovered
  · rename_i hne
    have hbelow : start.line < close.line := Nat.lt_of_le_of_ne h (Ne.symm hne)
    -- Text before the closing brace decides whether its line is one of the arm's.
    have hline : (s.line? close.line).getD [] = s.rest ⟨close.line, 0⟩ := rfl
    simp only [hline, anyCovered_eq_true_iff, blockLine_iff hbelow, ← and_assoc]
    refine exists_congr fun n => and_congr_left fun _ => ?_
    cases isBlankText ((s.rest ⟨close.line, 0⟩).take close.column) with
    | true =>
        simp
        omega
    | false =>
        simp
        omega

/-! ## Arms -/

theorem FirstToken.head?_rest (h : s.FirstToken p start c) : (s.rest start).head? = some c :=
  (mem_cellsFrom_iff.1 h.mem).2.2

theorem ClosesBlock.line_le (h : s.ClosesBlock start close) : start.line ≤ close.line := by
  rcases h with ⟨c, h⟩
  have hnot := (mem_cellsFrom_iff.1 h.mem).2.1
  unfold Position.Before at hnot
  omega

/-- A block is scanned from its opening brace. -/
theorem FirstToken.head?_of_opensBlock (htoken : s.FirstToken p start c)
    (hopens : OpensBlock p start c) : (s.rest start).head? = some '{' := by
  rw [htoken.head?_rest, hopens.1]

/-- An arm by its first token. -/
theorem arm_of_firstToken (covered : Nat → Bool) (htoken : s.FirstToken p start c) :
    (OpensBlock p start c → s.arm covered p =
      match s.blockEnd? start with
      | none => .error .unterminatedBlock
      | some close => .ok (s.isBlockCovered covered start close, ⟨close.line, close.column + 1⟩)) ∧
    (¬ OpensBlock p start c → s.arm covered p =
      match s.statementEnd? start with
      | none => .error .unterminatedStatement
      | some stop => .ok (covered start.line, ⟨stop.line, stop.column + 1⟩)) := by
  unfold arm
  rw [nextToken?_eq_some_iff.2 htoken]
  exact ⟨fun hopens => if_pos hopens, fun hopens => if_neg hopens⟩

/-- An arm has an extent, or it has no end. -/
theorem arm_cases (s : MaskedSource) (covered : Nat → Bool) (p : Position) :
    (∃ flag stop lines, s.arm covered p = .ok (flag, stop) ∧ s.ArmSpan p stop lines ∧
      (flag = true ↔ ∃ n, lines n ∧ covered n = true)) ∨
    ∃ e, s.arm covered p = .error e ∧ s.Unterminated p e := by
  cases htoken : s.nextToken? p with
  | none =>
      exact Or.inr ⟨_, by rw [arm, htoken], .nothing (nextToken?_eq_none_iff.1 htoken)⟩
  | some token =>
      rcases token with ⟨start, c⟩
      rw [nextToken?_eq_some_iff] at htoken
      by_cases hopens : OpensBlock p start c
      · have harm := (arm_of_firstToken covered htoken).1 hopens
        have hstart := htoken.head?_of_opensBlock hopens
        cases hclose : s.blockEnd? start with
        | none =>
            rw [hclose] at harm
            exact Or.inr ⟨_, harm, .block htoken hopens ((blockEnd?_eq_none_iff hstart).1 hclose)⟩
        | some close =>
            rw [hclose] at harm
            have hcloses := (blockEnd?_eq_some_iff hstart).1 hclose
            exact Or.inl ⟨_, _, _, harm, .block htoken hopens hcloses,
              isBlockCovered_eq_true_iff hcloses.line_le⟩
      · have harm := (arm_of_firstToken covered htoken).2 hopens
        cases hend : s.statementEnd? start with
        | none =>
            rw [hend] at harm
            exact Or.inr ⟨_, harm, .statement htoken hopens (statementEnd?_eq_none_iff.1 hend)⟩
        | some stop =>
            -- A statement is judged by the line on which it starts, wherever it ends.
            rw [hend] at harm
            exact Or.inl ⟨_, _, _, harm,
              .statement htoken hopens (statementEnd?_eq_some_iff.1 hend), by simp⟩

theorem arm_eq_ok_iff {flag : Bool} :
    s.arm covered p = .ok (flag, stop) ↔
      ∃ lines, s.ArmSpan p stop lines ∧ (flag = true ↔ ∃ n, lines n ∧ covered n = true) := by
  constructor
  · intro h
    rcases s.arm_cases covered p with ⟨_, _, lines, harm, hspan, hflag⟩ | ⟨_, harm, -⟩
    · rw [h] at harm
      cases harm
      exact ⟨lines, hspan, hflag⟩
    · rw [h] at harm
      cases harm
  · rintro ⟨lines, hspan, hflag⟩
    cases hspan with
    | block htoken hopens hcloses =>
        rw [(arm_of_firstToken covered htoken).1 hopens,
          (blockEnd?_eq_some_iff (htoken.head?_of_opensBlock hopens)).2 hcloses]
        rw [← isBlockCovered_eq_true_iff hcloses.line_le, ← Bool.eq_iff_iff] at hflag
        simp only [hflag]
    | statement htoken hopens hends =>
        rw [(arm_of_firstToken covered htoken).2 hopens, statementEnd?_eq_some_iff.2 hends]
        simp only [exists_eq_left, ← Bool.eq_iff_iff] at hflag
        simp only [hflag]

theorem arm_eq_error_iff {e : ScanFailure} : s.arm covered p = .error e ↔ s.Unterminated p e := by
  constructor
  · intro h
    rcases s.arm_cases covered p with ⟨_, _, _, harm, -⟩ | ⟨_, harm, hnever⟩
    · rw [h] at harm
      cases harm
    · rw [h] at harm
      cases harm
      exact hnever
  · intro h
    cases h with
    | nothing hnothing =>
        rw [arm, nextToken?_eq_none_iff.2 hnothing]
    | block htoken hopens hnever =>
        rw [(arm_of_firstToken covered htoken).1 hopens,
          (blockEnd?_eq_none_iff (htoken.head?_of_opensBlock hopens)).2 hnever]
    | statement htoken hopens hnever =>
        rw [(arm_of_firstToken covered htoken).2 hopens, statementEnd?_eq_none_iff.2 hnever]

/-- An arm ends where its block or its statement does, is covered when a line is that decides on it,
and is missing for want of a token or of an end.  No other line has any influence. -/
theorem arm_spec (s : MaskedSource) (covered : Nat → Bool) (p : Position) :
    (∀ flag stop, s.arm covered p = .ok (flag, stop) ↔
      ∃ lines, s.ArmSpan p stop lines ∧ (flag = true ↔ ∃ n, lines n ∧ covered n = true)) ∧
    (∀ e, s.arm covered p = .error e ↔ s.Unterminated p e) ∧
    ∀ covered' : Nat → Bool,
      (∀ stop lines n, s.ArmSpan p stop lines → lines n → covered' n = covered n) →
      s.arm covered' p = s.arm covered p := by
  refine ⟨fun flag stop => arm_eq_ok_iff, fun e => arm_eq_error_iff, ?_⟩
  intro covered' hsame
  cases harm : s.arm covered p with
  | error e =>
      exact arm_eq_error_iff.2 (arm_eq_error_iff.1 harm)
  | ok result =>
      rcases result with ⟨flag, stop⟩
      rcases arm_eq_ok_iff.1 harm with ⟨lines, hspan, hflag⟩
      refine arm_eq_ok_iff.2 ⟨lines, hspan, hflag.trans ?_⟩
      refine exists_congr fun n => and_congr_right fun hn => ?_
      rw [hsame stop lines n hspan hn]

end BinaryCoverage.MaskedSource
