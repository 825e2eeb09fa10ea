import BinaryCoverage.Branch.Arms
import BinaryCoverage.Proofs.Source.Bracket
import Mathlib.Data.List.Forall2

/-!
# The arms of a `switch`

The body of a `switch` is gone through line by line, and an arm opens on each line that begins with a
label outside of all nested blocks.  This file defines:

* `IsBody` — the braces of the body of a `switch`;
* `IsLabelLine`, `labelLines` — the lines on which arms open;
* `ArmCovered` — the lines that decide on an arm;

and shows when there are arms and what they say (`selectionArms_spec`).
-/

namespace BinaryCoverage.MaskedSource

open Source (labelTail?)
open Text (isBlankText)

/-- The body of the `switch` on line `n` is the block from `start` to `close`. -/
def IsBody (s : MaskedSource) (n : Nat) (start close : Position) : Prop :=
  ∃ p, s.ClosesCondition ⟨n, 0⟩ p ∧ s.FirstToken ⟨p.line, p.column + 1⟩ start '{' ∧
    s.blockEnd? start = some close

/-- Where a line of a body begins, which on its first line is after the brace. -/
def bodyStart (start : Position) (n : Nat) : Position :=
  if n = start.line then ⟨start.line, start.column + 1⟩ else ⟨n, 0⟩

def bodyText (s : MaskedSource) (start : Position) (n : Nat) : List Char :=
  s.rest (bodyStart start n)

/-- How many of the braces from `start` up to `q` are open. -/
def depthAt (s : MaskedSource) (start q : Position) : Nat :=
  (s.upTo start q).count '{' - (s.upTo start q).count '}'

def IsLabelLine (s : MaskedSource) (start : Position) (n : Nat) : Prop :=
  s.depthAt start (bodyStart start n) = 1 ∧ (labelTail? (s.bodyText start n)).isSome

instance (s : MaskedSource) (start : Position) : DecidablePred (s.IsLabelLine start) :=
  fun _ => inferInstanceAs (Decidable (_ ∧ _))

/-- The label lines from the line of the opening brace on, up to a line. -/
def labelLines (s : MaskedSource) (start : Position) (stop : Nat) : List Nat :=
  (List.range' start.line (stop - start.line)).filter (s.IsLabelLine start)

/-- The arm of label line `n` is covered by its own line, when code follows the label, or by a line
between it and the next label line, above line `stop`. -/
def ArmCovered (s : MaskedSource) (covered : Nat → Bool) (start : Position) (stop n : Nat) : Prop :=
  (covered n = true ∧
    ∃ tail, labelTail? (s.bodyText start n) = some tail ∧ isBlankText tail = false) ∨
  ∃ m, n < m ∧ m < stop ∧ covered m = true ∧ ∀ k, n < k → k ≤ m → ¬ s.IsLabelLine start k

variable {s : MaskedSource} {covered : Nat → Bool} {start close p q r : Position} {m n stop : Nat}
  {arms : List Bool}

/-! ## Label lines -/

theorem mem_labelLines_iff :
    n ∈ s.labelLines start stop ↔ start.line ≤ n ∧ n < stop ∧ s.IsLabelLine start n := by
  unfold labelLines
  rw [List.mem_filter, List.mem_range'_1, decide_eq_true_iff]
  constructor
  · rintro ⟨⟨hfirst, hlast⟩, hlabel⟩
    exact ⟨hfirst, by omega, hlabel⟩
  · rintro ⟨hfirst, hlast, hlabel⟩
    exact ⟨⟨hfirst, by omega⟩, hlabel⟩

theorem pairwise_labelLines (s : MaskedSource) (start : Position) (stop : Nat) :
    (s.labelLines start stop).Pairwise (· < ·) :=
  List.Pairwise.filter _ List.pairwise_lt_range'

theorem labelLines_succ (h : start.line ≤ m) :
    s.labelLines start (m + 1) =
      s.labelLines start m ++ if s.IsLabelLine start m then [m] else [] := by
  have hsize : m + 1 - start.line = (m - start.line) + 1 := by
    omega
  have hlast : start.line + 1 * (m - start.line) = m := by
    omega
  unfold labelLines
  rw [hsize, List.range'_concat, hlast, List.filter_append, List.filter_singleton]
  congr 1
  split <;> simp_all

/-! ## A line of the body -/

/-- The arms found above line `m`, the latest first, are those of the label lines there. -/
def ArmsAbove (s : MaskedSource) (covered : Nat → Bool) (start : Position) (m : Nat)
    (arms : List Bool) : Prop :=
  List.Forall₂ (fun n flag => flag = true ↔ s.ArmCovered covered start m n)
    (s.labelLines start m).reverse arms

/-- A line below the next label line has no influence on an arm. -/
theorem armCovered_succ_of_label {k : Nat} (hlabel : s.IsLabelLine start k) (hnk : n < k)
    (hkm : k ≤ m) : s.ArmCovered covered start (m + 1) n ↔ s.ArmCovered covered start m n := by
  refine or_congr_right (exists_congr fun line => ?_)
  constructor
  · rintro ⟨hn, hline, hcovered, hnone⟩
    refine ⟨hn, ?_, hcovered, hnone⟩
    by_contra hlast
    exact hnone k hnk (by omega) hlabel
  · rintro ⟨hn, hline, hcovered, hnone⟩
    exact ⟨hn, by omega, hcovered, hnone⟩

/-- Down to the next label line each line is one of the arm's. -/
theorem armCovered_succ_of_no_label (hnm : n < m)
    (hnone : ∀ k, n < k → k ≤ m → ¬ s.IsLabelLine start k) :
    s.ArmCovered covered start (m + 1) n ↔
      s.ArmCovered covered start m n ∨ covered m = true := by
  constructor
  · rintro (hown | ⟨line, hn, hline, hcovered, hfree⟩)
    · exact Or.inl (Or.inl hown)
    · rcases Nat.lt_or_eq_of_le (Nat.le_of_lt_succ hline) with hline | rfl
      · exact Or.inl (Or.inr ⟨line, hn, hline, hcovered, hfree⟩)
      · exact Or.inr hcovered
  · rintro ((hown | ⟨line, hn, hline, hcovered, hfree⟩) | hcovered)
    · exact Or.inl hown
    · exact Or.inr ⟨line, hn, by omega, hcovered, hfree⟩
    · exact Or.inr ⟨m, hnm, Nat.lt_succ_self m, hcovered, hnone⟩

theorem armCovered_self :
    s.ArmCovered covered start (n + 1) n ↔ covered n = true ∧
      ∃ tail, labelTail? (s.bodyText start n) = some tail ∧ isBlankText tail = false := by
  refine or_iff_left ?_
  rintro ⟨line, hn, hline, -, -⟩
  omega

theorem armsAfterLine_of_label (covered : Nat → Bool) (arms : List Bool)
    (hlabel : s.IsLabelLine start m) :
    ∃ tail, labelTail? (s.bodyText start m) = some tail ∧
      armsAfterLine covered (s.depthAt start (bodyStart start m)) m (s.bodyText start m) arms =
        (!isBlankText tail && covered m) :: arms := by
  rcases Option.isSome_iff_exists.1 hlabel.2 with ⟨tail, htail⟩
  exact ⟨tail, htail, by simp [armsAfterLine, hlabel.1, htail]⟩

theorem armsAfterLine_of_not_label (hlabel : ¬ s.IsLabelLine start m) :
    armsAfterLine covered (s.depthAt start (bodyStart start m)) m (s.bodyText start m) arms =
      match arms with
      | [] => []
      | latest :: rest => (latest || covered m) :: rest := by
  have hnone : (if s.depthAt start (bodyStart start m) = 1 then labelTail? (s.bodyText start m)
      else none) = none := by
    split
    · rename_i hdepth
      rw [← Option.not_isSome_iff_eq_none]
      exact fun hsome => hlabel ⟨hdepth, hsome⟩
    · rfl
  unfold armsAfterLine
  cases arms <;> simp only [hnone]

/-- The latest label line comes last, and no label line lies between it and line `m`. -/
theorem of_reverse_labelLines {rest : List Nat} (h : (s.labelLines start m).reverse = n :: rest) :
    (n < m ∧ ∀ k, n < k → k < m → ¬ s.IsLabelLine start k) ∧
      ∀ k ∈ rest, k < n ∧ s.IsLabelLine start n := by
  have hmem : ∀ k, k ∈ n :: rest ↔ start.line ≤ k ∧ k < m ∧ s.IsLabelLine start k := by
    intro k
    rw [← h, List.mem_reverse, mem_labelLines_iff]
  have hsorted : (n :: rest).Pairwise (fun a b => b < a) := by
    rw [← h, List.pairwise_reverse]
    exact pairwise_labelLines s start m
  rcases List.pairwise_cons.1 hsorted with ⟨hlatest, -⟩
  rcases (hmem n).1 (List.mem_cons_self ..) with ⟨hfirst, hn, hlabel⟩
  refine ⟨⟨hn, ?_⟩, fun k hk => ⟨hlatest k hk, hlabel⟩⟩
  intro k hnk hkm hk
  rcases List.mem_cons.1 ((hmem k).2 ⟨by omega, hkm, hk⟩) with rfl | hk
  · omega
  · have hlater := hlatest k hk
    omega

/-- One line of the body: it opens an arm or belongs to the latest one. -/
theorem armsAbove_succ (hm : start.line ≤ m) (h : s.ArmsAbove covered start m arms) :
    s.ArmsAbove covered start (m + 1)
      (armsAfterLine covered (s.depthAt start (bodyStart start m)) m (s.bodyText start m) arms) := by
  unfold ArmsAbove at h ⊢
  rw [labelLines_succ hm]
  by_cases hlabel : s.IsLabelLine start m
  · rcases armsAfterLine_of_label covered arms hlabel with ⟨tail, htail, harms⟩
    rw [harms, if_pos hlabel, List.reverse_append, List.reverse_singleton, List.singleton_append]
    refine List.Forall₂.cons ?_ ?_
    · simp [armCovered_self, htail, and_comm]
    · have habove : ∀ k ∈ (s.labelLines start m).reverse, k < m := by
        intro k hk
        exact (mem_labelLines_iff.1 (List.mem_reverse.1 hk)).2.1
      refine ((List.forall₂_and_left _ _).2 ⟨habove, h⟩).imp ?_
      rintro k flag ⟨hk, hflag⟩
      rw [armCovered_succ_of_label hlabel hk (Nat.le_refl m)]
      exact hflag
  · rw [armsAfterLine_of_not_label hlabel, if_neg hlabel, List.append_nil]
    cases hlines : (s.labelLines start m).reverse with
    | nil =>
        rw [hlines] at h
        cases h
        exact List.Forall₂.nil
    | cons n rest =>
        rw [hlines] at h
        rcases of_reverse_labelLines hlines with ⟨⟨hnm, hnone⟩, hrest⟩
        cases h with
        | cons hlatest hothers =>
            refine List.Forall₂.cons ?_ ?_
            · have hfree : ∀ k, n < k → k ≤ m → ¬ s.IsLabelLine start k := by
                intro k hnk hkm
                rcases Nat.lt_or_eq_of_le hkm with hkm | rfl
                · exact hnone k hnk hkm
                · exact hlabel
              rw [armCovered_succ_of_no_label hnm hfree, Bool.or_eq_true, hlatest]
            · refine ((List.forall₂_and_left _ _).2 ⟨hrest, hothers⟩).imp ?_
              rintro k flag ⟨⟨hkn, hn⟩, hflag⟩
              rw [armCovered_succ_of_label hn hkn (Nat.le_of_lt hnm)]
              exact hflag

/-! ## The extent of the body -/

theorem depthAfter_eq (depth : Nat) (cs : List Char) :
    depthAfter depth cs = cs.foldlM blockStep depth := by
  induction cs generalizing depth with
  | nil =>
      rfl
  | cons c cs ih =>
      rw [depthAfter, List.foldlM_cons]
      cases blockStep depth c with
      | none =>
          rfl
      | some depth =>
          exact ih depth

theorem line_bodyStart (start : Position) (n : Nat) : (bodyStart start n).line = n := by
  unfold bodyStart
  split
  · rename_i h
    exact h.symm
  · rfl

theorem bodyStart_of_lt (h : start.line < n) : bodyStart start n = ⟨n, 0⟩ := if_neg (by omega)

theorem before_bodyStart (h : start.line ≤ n) : start.Before (bodyStart start n) := by
  rcases Nat.lt_or_eq_of_le h with h | rfl
  · rw [bodyStart_of_lt h]
    exact Or.inl h
  · rw [bodyStart, if_pos rfl]
    exact Or.inr ⟨rfl, Nat.lt_succ_self _⟩

theorem line_pos_of_head? {c : Char} (h : (s.rest p).head? = some c) : 0 < p.line := by
  refine Nat.pos_of_ne_zero fun hzero => ?_
  simp [rest, line?, hzero] at h

theorem linesFrom_eq_bodyText_cons {line : List Char} (hline : s.line? stop = some line)
    (hm : start.line < m) (hstop : m ≤ stop) :
    s.linesFrom m = s.bodyText start m :: s.linesFrom (m + 1) := by
  rcases line?_of_le hline (by omega) hstop with ⟨text, htext⟩
  have hbody : s.bodyText start m = text := by
    simp [bodyText, bodyStart_of_lt hm, rest, htext]
  rw [linesFrom_eq_cons, hbody]
  exact ⟨htext, rfl⟩

section Closed

variable (hstart : (s.rest start).head? = some '{') (hclose : s.blockEnd? start = some close)

include hstart

theorem upTo_succ_line (hm : start.line ≤ m) :
    s.upTo start ⟨m + 1, 0⟩ = s.upTo start (bodyStart start m) ++ s.bodyText start m := by
  have hnext : ¬ Position.Before ⟨m + 1, 0⟩ (bodyStart start m) := by
    unfold Position.Before
    rw [line_bodyStart]
    simp only
    omega
  have hline := upTo_nextLine s (bodyStart start m)
  rw [line_bodyStart] at hline
  rw [upTo_append (line_pos_of_head? hstart) (before_bodyStart hm).not_before hnext, hline]
  rfl

include hclose

theorem before_close : start.Before close := by
  rcases (blockEnd?_eq_some_iff hstart).1 hclose with ⟨c, hfirst⟩
  by_contra hnot
  have hsame := Position.eq_of_not_before hnot (mem_cellsFrom_iff.1 hfirst.mem).2.1
  subst hsame
  have hc := (mem_cellsFrom_iff.1 hfirst.mem).2.2
  rw [hstart, Option.some.injEq] at hc
  subst hc
  have hcount := hfirst.holds
  rw [upTo_self] at hcount
  revert hcount
  decide

theorem foldlM_upTo_eq_none_iff_close_before (hr : ¬ r.Before start) :
    (s.upTo start r).foldlM blockStep 0 = none ↔ close.Before r := by
  rw [foldlM_upTo_eq_none_iff (line_pos_of_head? hstart) hr]
  rcases Option.map_eq_some_iff.1 hclose with ⟨⟨q, c⟩, hscan, rfl⟩
  simp only [hscan, Option.some.injEq, Prod.mk.injEq]
  constructor
  · rintro ⟨q, c, ⟨rfl, rfl⟩, hbefore⟩
    exact hbefore
  · intro hbefore
    exact ⟨q, c, ⟨rfl, rfl⟩, hbefore⟩

/-- Inside a block its brace is open. -/
theorem foldlM_upTo_eq_depthAt (hr : start.Before r) (hrc : ¬ close.Before r) :
    (s.upTo start r).foldlM blockStep 0 = some (s.depthAt start r) ∧
      (s.upTo start r).count '}' < (s.upTo start r).count '{' := by
  cases hrun : (s.upTo start r).foldlM blockStep 0 with
  | none =>
      exact absurd ((foldlM_upTo_eq_none_iff_close_before hstart hclose hr.not_before).1 hrun) hrc
  | some depth =>
      have hcount := foldlM_blockStep hrun
      have hdepth := pos_of_foldlM_upTo hstart hr hrun
      refine ⟨?_, by omega⟩
      rw [depthAt]
      congr 1
      omega

theorem not_close_before_bodyStart (hm : m ≤ close.line) :
    ¬ close.Before (bodyStart start m) := by
  have hbefore := before_close hstart hclose
  unfold bodyStart Position.Before at *
  split <;> simp only <;> omega

theorem exists_line_close : ∃ line, s.line? close.line = some line := by
  rcases (blockEnd?_eq_some_iff hstart).1 hclose with ⟨c, hfirst⟩
  have hc := (mem_cellsFrom_iff.1 hfirst.mem).2.2
  cases hline : s.line? close.line with
  | none =>
      simp [rest, hline] at hc
  | some line =>
      exact ⟨line, rfl⟩

/-! ## From line to line -/

/-- The depth that a line leaves is that with which the next one begins. -/
theorem depthAfter_bodyText (hm : start.line ≤ m) (hmc : m ≤ close.line) :
    depthAfter (s.depthAt start (bodyStart start m)) (s.bodyText start m) =
      if m < close.line then some (s.depthAt start (bodyStart start (m + 1))) else none := by
  have hdepth := (foldlM_upTo_eq_depthAt hstart hclose (before_bodyStart hm)
    (not_close_before_bodyStart hstart hclose hmc)).1
  have hnext : bodyStart start (m + 1) = ⟨m + 1, 0⟩ := bodyStart_of_lt (Nat.lt_succ_of_le hm)
  have hrun : depthAfter (s.depthAt start (bodyStart start m)) (s.bodyText start m) =
      (s.upTo start ⟨m + 1, 0⟩).foldlM blockStep 0 := by
    rw [upTo_succ_line hstart hm, List.foldlM_append, hdepth, depthAfter_eq]
    rfl
  have hbefore : start.Before ⟨m + 1, 0⟩ := Or.inl (Nat.lt_succ_of_le hm)
  rw [hrun]
  split
  · rename_i hlater
    rw [hnext]
    refine (foldlM_upTo_eq_depthAt hstart hclose hbefore ?_).1
    unfold Position.Before
    simp only
    omega
  · rename_i hlast
    refine (foldlM_upTo_eq_none_iff_close_before hstart hclose hbefore.not_before).2 (Or.inl ?_)
    simp only
    omega

/-- From each line of the body on its arms are found, up to the line of the closing brace. -/
theorem armsFrom_body (hm : start.line ≤ m) (hmc : m ≤ close.line)
    (habove : s.ArmsAbove covered start m arms) :
    ∃ result,
      armsFrom covered (s.depthAt start (bodyStart start m)) m
        (s.bodyText start m :: s.linesFrom (m + 1)) arms = .ok result ∧
      s.ArmsAbove covered start (close.line + 1) result.reverse := by
  -- The induction is on the number of lines that are left.
  induction hleft : close.line - m generalizing m arms with
  | zero =>
      have hlast : m = close.line := by
        omega
      subst hlast
      rw [armsFrom, depthAfter_bodyText hstart hclose hm hmc, if_neg (Nat.lt_irrefl _)]
      exact ⟨_, rfl, by rw [List.reverse_reverse]; exact armsAbove_succ hm habove⟩
  | succ left ih =>
      have hmore : m < close.line := by
        omega
      rcases exists_line_close hstart hclose with ⟨line, hlast⟩
      rw [armsFrom, depthAfter_bodyText hstart hclose hm hmc, if_pos hmore,
        linesFrom_eq_bodyText_cons hlast (Nat.lt_succ_of_le hm) hmore]
      exact ih (by omega) hmore (armsAbove_succ hm habove) (by omega)

/-- The lines that begin inside a block within the body are no label lines. -/
theorem not_isLabelLine_of_nested (hq : (s.rest q).head? = some '{') (hsq : start.Before q)
    (hqc : q.Before close) (hend : s.blockEnd? q = some r) (hqm : q.line < m) (hmr : m ≤ r.line) :
    ¬ s.IsLabelLine start m := by
  rintro ⟨hdepth, -⟩
  have hsm : start.line < m := by
    unfold Position.Before at hsq
    omega
  have hqb : q.Before ⟨m, 0⟩ := Or.inl hqm
  have hrb : ¬ r.Before ⟨m, 0⟩ := by
    unfold Position.Before
    simp only
    omega
  -- Both the brace of the body and that of the inner block are open there.
  have houter := (foldlM_upTo_eq_depthAt hstart hclose hsq hqc.not_before).2
  have hinner := (foldlM_upTo_eq_depthAt hq hend hqb hrb).2
  rw [bodyStart_of_lt hsm, depthAt,
    upTo_append (line_pos_of_head? hstart) hsq.not_before hqb.not_before, List.count_append,
    List.count_append] at hdepth
  omega

end Closed

/-! ## Arms of a selection -/

theorem armsFrom_eq_error {depth after line : Nat} {segments : List (List Char)}
    (h : segments.flatten.foldlM blockStep depth = some after) :
    armsFrom covered depth line segments arms = .error .unterminatedBlock := by
  induction segments generalizing depth line arms with
  | nil =>
      rfl
  | cons segment rest ih =>
      rw [List.flatten_cons, List.foldlM_append] at h
      rw [armsFrom, depthAfter_eq]
      cases hsegment : segment.foldlM blockStep depth with
      | none =>
          simp [hsegment] at h
      | some next =>
          rw [hsegment] at h
          exact ih h

/-- Without a closing brace the scan comes to the end of the source. -/
theorem exists_run_of_blockEnd?_eq_none (hstart : (s.rest start).head? = some '{')
    (hnone : s.blockEnd? start = none) :
    ∃ after, (s.rest ⟨start.line, start.column + 1⟩ ::
      s.linesFrom (start.line + 1)).flatten.foldlM blockStep 1 = some after := by
  rw [blockEnd?, Option.map_eq_none_iff, scan_eq, stop?_eq_none_iff, cellsFrom_cons hstart] at hnone
  rcases hnone with ⟨after, hrun⟩
  have hpos : 0 < start.line := line_pos_of_head? hstart
  rw [List.map_cons, map_snd_cellsFrom (p := ⟨start.line, start.column + 1⟩) hpos] at hrun
  exact ⟨after, hrun⟩

theorem linesFrom_drop_one (hn : 0 < n) : (s.linesFrom n).drop 1 = s.linesFrom (n + 1) := by
  cases n with
  | zero =>
      cases hn
  | succ n =>
      simp [linesFrom]

/-- The lines of a body are gone through from the one that opens it. -/
theorem selectionArms_of_opens (hend : s.conditionEnd? ⟨n, 0⟩ = some p)
    (htoken : s.FirstToken p start '{') :
    s.selectionArms covered n =
      armsFrom covered 1 start.line
        (s.rest ⟨start.line, start.column + 1⟩ :: s.linesFrom (start.line + 1)) [] := by
  have hstart := (mem_cellsFrom_iff.1 htoken.mem).2.2
  rw [selectionArms, hend]
  simp only [nextToken?_eq_some_iff.2 htoken, linesFrom_drop_one (line_pos_of_head? hstart)]

theorem selectionArms_of_isBody (covered : Nat → Bool) (h : s.IsBody n start close) :
    ∃ arms, s.selectionArms covered n = .ok arms ∧
      List.Forall₂ (fun line flag => flag = true ↔ s.ArmCovered covered start (close.line + 1) line)
        (s.labelLines start (close.line + 1)) arms := by
  rcases h with ⟨p, hcondition, htoken, hclose⟩
  have hend := conditionEnd?_eq_some_iff.2 ⟨p, hcondition, rfl⟩
  have hstart := (mem_cellsFrom_iff.1 htoken.mem).2.2
  have hfirst : bodyStart start start.line = ⟨start.line, start.column + 1⟩ := if_pos rfl
  have hdepth : s.depthAt start (bodyStart start start.line) = 1 := by
    have hbefore : start.Before (bodyStart start start.line) :=
      before_bodyStart (Nat.le_refl start.line)
    rw [depthAt, upTo_cons hstart hbefore, hfirst, upTo_self]
    decide
  have hnone : s.ArmsAbove covered start start.line [] := by
    simp [ArmsAbove, labelLines]
  have hlines := (before_close hstart hclose)
  rcases armsFrom_body hstart hclose (Nat.le_refl start.line)
    (by unfold Position.Before at hlines; omega) hnone with ⟨result, hresult, harms⟩
  refine ⟨result, ?_, List.forall₂_reverse_iff.1 harms⟩
  rw [selectionArms_of_opens hend htoken, ← hresult, hdepth, bodyText, hfirst]

theorem exists_isBody_of_selectionArms (h : s.selectionArms covered n = .ok arms) :
    ∃ start close, s.IsBody n start close := by
  cases hend : s.conditionEnd? ⟨n, 0⟩ with
  | none =>
      simp [selectionArms, hend] at h
  | some p =>
      rcases conditionEnd?_eq_some_iff.1 hend with ⟨q, hcondition, rfl⟩
      rcases htoken : s.nextToken? ⟨q.line, q.column + 1⟩ with _ | ⟨start, c⟩
      · simp [selectionArms, hend, htoken] at h
      · by_cases hopens : c = '{'
        · subst hopens
          rw [nextToken?_eq_some_iff] at htoken
          have hstart := (mem_cellsFrom_iff.1 htoken.mem).2.2
          rw [selectionArms_of_opens hend htoken] at h
          cases hclose : s.blockEnd? start with
          | none =>
              rcases exists_run_of_blockEnd?_eq_none hstart hclose with ⟨after, hrun⟩
              rw [armsFrom_eq_error hrun] at h
              cases h
          | some close =>
              exact ⟨start, close, q, hcondition, htoken, hclose⟩
        · rw [selectionArms, hend] at h
          simp only [htoken] at h
          split at h
          · rename_i heq
            cases heq
            exact absurd rfl hopens
          · cases h

/-- A `switch` has arms exactly when it has a body.  They are those of its label lines, in order,
and no line that begins inside a nested block is one. -/
theorem selectionArms_spec (s : MaskedSource) (covered : Nat → Bool) (n : Nat) :
    ((∃ arms, s.selectionArms covered n = .ok arms) ↔ ∃ start close, s.IsBody n start close) ∧
    ∀ start close, s.IsBody n start close →
      (∃ arms, s.selectionArms covered n = .ok arms ∧
        List.Forall₂
          (fun line flag => flag = true ↔ s.ArmCovered covered start (close.line + 1) line)
          (s.labelLines start (close.line + 1)) arms) ∧
      ∀ q r, (s.rest q).head? = some '{' → start.Before q → q.Before close →
        s.blockEnd? q = some r →
        ∀ line ∈ s.labelLines start (close.line + 1), ¬ (q.line < line ∧ line ≤ r.line) := by
  refine ⟨⟨?_, ?_⟩, ?_⟩
  · rintro ⟨arms, harms⟩
    exact exists_isBody_of_selectionArms harms
  · rintro ⟨start, close, hbody⟩
    rcases selectionArms_of_isBody covered hbody with ⟨arms, harms, -⟩
    exact ⟨arms, harms⟩
  · intro start close hbody
    refine ⟨selectionArms_of_isBody covered hbody, ?_⟩
    rintro q r hq hsq hqc hend line hline ⟨hql, hlr⟩
    rcases hbody with ⟨p, -, htoken, hclose⟩
    have hstart := (mem_cellsFrom_iff.1 htoken.mem).2.2
    exact not_isLabelLine_of_nested hstart hclose hq hsq hqc hend hql hlr
      (mem_labelLines_iff.1 hline).2.2

end BinaryCoverage.MaskedSource
