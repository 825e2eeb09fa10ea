import BinaryCoverage.Proofs.Branch.Arm
import BinaryCoverage.Proofs.Branch.MissingElse
import BinaryCoverage.Proofs.Branch.Selection
import BinaryCoverage.Proofs.Source.Within

/-!
# Branches inside a larger source

The arms of a branch are found and judged by its own lines alone.  An `if` may be given an `else` on
the line after its first arm, so that this line is one of its own too.  This file shows that other
lines above and below, and their coverage, have no influence on the arms (`arms_within`).
-/

namespace BinaryCoverage.MaskedSource

variable {s : MaskedSource} {above below : List (List Char)} {covered covered' : Nat → Bool}
  {p start close stop : Position} {flag : Bool} {n : Nat}

/-- The `else` is looked for on two lines, both of which are lines of the source. -/
theorem elseEnd?_within {last next : List Char} (hlast : s.line? stop.line = some last)
    (hnext : s.line? (stop.line + 1) = some next) :
    (s.within above below).elseEnd? (stop.down above.length) =
      (s.elseEnd? stop).map (·.down above.length) := by
  have hnext' : (s.within above below).line? (stop.line + above.length + 1) = some next := by
    rw [Nat.add_right_comm]
    exact line?_within hnext
  unfold elseEnd?
  rw [rest_within hlast, Position.line_down, Position.column_down, hnext', hnext]
  cases Source.findWord? "else".toList false stop.column (s.rest stop) with
  | some column =>
      rfl
  | none =>
      simp only [Option.map_map]
      refine congrArg (Option.map · _) (funext fun column => ?_)
      simp only [Function.comp_apply, Position.down, Nat.add_right_comm]

/-- Only the lines of the body decide on the arms, and none is read after the one that closes it. -/
theorem armsFrom_append {depth line k : Nat} {segments : List (List Char)} {arms result : List Bool}
    (hlines : ∀ m, line ≤ m → m < line + segments.length → covered' (m + k) = covered m)
    (h : armsFrom covered depth line segments arms = .ok result) :
    armsFrom covered' depth (line + k) (segments ++ below) arms = .ok result := by
  induction segments generalizing depth line arms with
  | nil =>
      cases h
  | cons segment rest ih =>
      have hfirst : covered' (line + k) = covered line :=
        hlines line (Nat.le_refl line) (by simp)
      have harms : armsAfterLine covered' depth (line + k) segment arms =
          armsAfterLine covered depth line segment arms := by
        unfold armsAfterLine
        rw [hfirst]
      have hrest : ∀ m, line + 1 ≤ m → m < line + 1 + rest.length → covered' (m + k) = covered m := by
        intro m hm hm'
        refine hlines m (by omega) ?_
        rw [List.length_cons]
        omega
      rw [armsFrom] at h
      rw [List.cons_append, armsFrom, harms]
      cases hdepth : depthAfter depth segment with
      | none =>
          rw [hdepth] at h
          exact h
      | some depth' =>
          simp only [hdepth] at h
          have hbelow := ih hrest h
          rw [Nat.add_right_comm] at hbelow
          exact hbelow

section Covered

variable (hcovered : ∀ n, 0 < n → n ≤ s.size → covered' (n + above.length) = covered n)

include hcovered

/-! ## One arm -/

theorem anyCovered_within {first last : Nat} (hfirst : 0 < first) (hlast : last ≤ s.size) :
    anyCovered covered' (first + above.length) (last + above.length) =
      anyCovered covered first last := by
  rw [Bool.eq_iff_iff, anyCovered_eq_true_iff, anyCovered_eq_true_iff]
  constructor
  · intro h
    obtain ⟨n, hn, hn', hline⟩ := h
    have hplace : n - above.length + above.length = n := by
      omega
    refine ⟨n - above.length, by omega, by omega, ?_⟩
    rw [← hcovered (n - above.length) (by omega) (by omega), hplace]
    exact hline
  · intro h
    obtain ⟨n, hn, hn', hline⟩ := h
    refine ⟨n + above.length, by omega, by omega, ?_⟩
    rw [hcovered n (by omega) (by omega)]
    exact hline

theorem isBlockCovered_within {first last : List Char} (hstart : s.line? start.line = some first)
    (hclose : s.line? close.line = some last) :
    (s.within above below).isBlockCovered covered' (start.down above.length)
        (close.down above.length) = s.isBlockCovered covered start close := by
  obtain ⟨hpos, hstartSize⟩ := line?_bounds hstart
  obtain ⟨hclosePos, hcloseSize⟩ := line?_bounds hclose
  have hsame : (close.down above.length).line = (start.down above.length).line ↔
      close.line = start.line :=
    Nat.add_right_cancel_iff
  unfold isBlockCovered
  simp only [hsame]
  split
  · exact hcovered start.line hpos hstartSize
  · -- The text before the closing brace is the same, so the same line is the last one to count.
    have htext : (s.within above below).line? (close.down above.length).line = some last :=
      line?_within hclose
    have hfirst : (start.down above.length).line + 1 = start.line + 1 + above.length :=
      Nat.add_right_comm ..
    have hlast : (close.down above.length).line - 1 = close.line - 1 + above.length := by
      rw [Position.line_down]
      omega
    rw [htext, hclose, hfirst, hlast, Position.line_down, Position.column_down]
    split
    · exact anyCovered_within hcovered (Nat.succ_pos _) hcloseSize
    · exact anyCovered_within hcovered (Nat.succ_pos _) (by omega)

theorem arm_within (h : s.arm covered p = .ok (flag, stop)) :
    (s.within above below).arm covered' (p.down above.length) =
        .ok (flag, stop.down above.length) ∧
      ∃ line, s.line? stop.line = some line := by
  unfold arm at h ⊢
  rcases htoken : s.nextToken? p with _ | ⟨start, c⟩
  · simp [htoken] at h
  · obtain ⟨first, hfirst⟩ := exists_line_of_scan htoken
    obtain ⟨hpos, hsize⟩ := line?_bounds hfirst
    have hopens : (c = '{' ∧ (start.down above.length).line ≤ (p.down above.length).line + 1) ↔
        (c = '{' ∧ start.line ≤ p.line + 1) := by
      rw [Position.line_down, Position.line_down]
      refine and_congr_right fun _ => ?_
      omega
    simp only [htoken] at h
    simp only [nextToken?_within htoken, hopens]
    split at h
    · rename_i hblock
      rw [if_pos hblock]
      cases hclose : s.blockEnd? start with
      | none =>
          simp [hclose] at h
      | some close =>
          obtain ⟨last, hlast⟩ := exists_line_of_blockEnd? hclose
          simp only [hclose, Except.ok.injEq, Prod.mk.injEq] at h
          obtain ⟨rfl, rfl⟩ := h
          simp only [blockEnd?_within hclose, isBlockCovered_within hcovered hfirst hlast]
          exact ⟨rfl, last, hlast⟩
    · rename_i hblock
      rw [if_neg hblock]
      cases hend : s.statementEnd? start with
      | none =>
          simp [hend] at h
      | some final =>
          obtain ⟨last, hlast⟩ := exists_line_of_statementEnd? hend
          simp only [hend, Except.ok.injEq, Prod.mk.injEq] at h
          obtain ⟨rfl, rfl⟩ := h
          have hline : covered' (start.down above.length).line = covered start.line :=
            hcovered start.line hpos hsize
          simp only [statementEnd?_within hend, hline]
          exact ⟨rfl, last, hlast⟩

/-! ## The arms of an `if` -/

theorem secondArm_within {last next : List Char} (hlast : s.line? stop.line = some last)
    (hnext : s.line? (stop.line + 1) = some next) (h : s.secondArm covered stop = .ok flag) :
    (s.within above below).secondArm covered' (stop.down above.length) = .ok flag := by
  unfold secondArm at h ⊢
  rw [elseEnd?_within hlast hnext]
  cases helse : s.elseEnd? stop with
  | none =>
      rw [helse] at h
      exact h
  | some q =>
      simp only [helse] at h
      simp only [Option.map_some]
      cases harm : s.arm covered q with
      | error e =>
          rw [harm] at h
          cases h
      | ok result =>
          obtain ⟨second, last'⟩ := result
          rw [harm] at h
          rw [(arm_within hcovered harm).1]
          exact h

theorem conditionalArms_within {first second : Bool}
    (h : s.conditionalArms covered n = .ok (first, second))
    (hnext : ∀ p flag stop, s.conditionEnd? ⟨n, 0⟩ = some p → s.arm covered p = .ok (flag, stop) →
      stop.line < s.size) :
    (s.within above below).conditionalArms covered' (n + above.length) = .ok (first, second) := by
  obtain ⟨p, stop, hend, harm, hsecond⟩ := conditionalArms_eq_ok_iff.1 h
  obtain ⟨harm', last, hlast⟩ := arm_within hcovered harm
  obtain ⟨next, hnextLine⟩ := exists_line_of_le (Nat.succ_pos stop.line) (hnext p first stop hend harm)
  exact conditionalArms_eq_ok_iff.2 ⟨p.down above.length, stop.down above.length,
    conditionEnd?_within hend, harm', secondArm_within hcovered hlast hnextLine hsecond⟩

/-! ## The arms of a `switch` -/

theorem selectionArms_within {arms : List Bool} (h : s.selectionArms covered n = .ok arms) :
    (s.within above below).selectionArms covered' (n + above.length) = .ok arms := by
  obtain ⟨start, close, p, hcondition, htoken, hclose⟩ := exists_isBody_of_selectionArms h
  have hend := conditionEnd?_eq_some_iff.2 ⟨p, hcondition, rfl⟩
  have hopens := nextToken?_eq_some_iff.2 htoken
  obtain ⟨line, hline⟩ := exists_line_of_scan hopens
  obtain ⟨hpos, hsize⟩ := line?_bounds hline
  rw [selectionArms_of_opens hend htoken] at h
  have hopens' : (s.within above below).selectionArms covered' (n + above.length) = _ :=
    selectionArms_of_opens (conditionEnd?_within hend)
      (nextToken?_eq_some_iff.1 (nextToken?_within hopens))
  have hrest : (s.within above below).rest ⟨start.line + above.length, start.column + 1⟩ =
      s.rest ⟨start.line, start.column + 1⟩ :=
    rest_within (p := ⟨start.line, start.column + 1⟩) hline
  have hbelow : (s.within above below).linesFrom (start.line + above.length + 1) =
      s.linesFrom (start.line + 1) ++ below := by
    rw [Nat.add_right_comm]
    exact linesFrom_within (Nat.succ_pos start.line) (Nat.succ_le_succ hsize)
  rw [hopens', Position.line_down, Position.column_down, hrest, hbelow, ← List.cons_append]
  refine armsFrom_append ?_ h
  intro m hm hm'
  refine hcovered m (by omega) ?_
  -- The lines gone through are those from the brace to the end of the source.
  rw [List.length_cons, linesFrom, List.length_drop] at hm'
  unfold size at hsize ⊢
  omega

end Covered

/-! ## All arms -/

/-- The arms of a branch stay the same whatever lines stand above and below its source, and whatever
their coverage is. -/
theorem arms_within {above inner below : List (List Char)}
    (hlines : ∀ line ∈ above ++ inner ++ below, '\n' ∉ line) {covered covered' : Nat → Bool}
    (hcovered : ∀ n, 0 < n → n ≤ inner.length → covered' (n + above.length) = covered n) (n : Nat) :
    (∀ arms, (ofChars (Text.terminated inner)).selectionArms covered n = .ok arms →
      (ofChars (Text.terminated (above ++ inner ++ below))).selectionArms covered'
        (n + above.length) = .ok arms) ∧
    ∀ arms, (ofChars (Text.terminated inner)).conditionalArms covered n = .ok arms →
      (∀ p flag stop, (ofChars (Text.terminated inner)).conditionEnd? ⟨n, 0⟩ = some p →
        (ofChars (Text.terminated inner)).arm covered p = .ok (flag, stop) →
        stop.line < inner.length) →
      (ofChars (Text.terminated (above ++ inner ++ below))).conditionalArms covered'
        (n + above.length) = .ok arms := by
  obtain ⟨front, back, hfront, houter⟩ := ofChars_terminated hlines
  have hinner : ∀ line ∈ inner, '\n' ∉ line := by
    intro line hline
    exact hlines line (List.mem_append_left _ (List.mem_append_right _ hline))
  have hsize := size_ofChars_terminated hinner
  rw [← hfront, ← hsize] at hcovered
  rw [houter, ← hfront]
  refine ⟨fun arms => selectionArms_within hcovered, ?_⟩
  intro arms h hnext
  rw [← hsize] at hnext
  exact conditionalArms_within hcovered h hnext

/-- An `if` without an `else`, and a `switch`. -/
def twoBranches : List (List Char) :=
  ["    if (a)", "        x();", "    switch (b) \x7b", "    case 1:", "        y();", "    \x7d"].map
    String.toList

def lineAbove : List (List Char) := ["    if (c) \x7b".toList]

def linesBelow : List (List Char) := ["    \x7d else \x7b", "        z();", "    \x7d"].map String.toList

/-- Below stands an `else`, and the line above is covered in the larger source only. -/
theorem arms_within_twoBranches :
    let inner := ofChars (Text.terminated twoBranches)
    let outer := ofChars (Text.terminated (lineAbove ++ twoBranches ++ linesBelow))
    let covered : Nat → Bool := fun n => n == 2 || n == 5
    let covered' : Nat → Bool := fun n => n == 1 || n == 3 || n == 6
    (∀ line ∈ lineAbove ++ twoBranches ++ linesBelow, '\n' ∉ line) ∧
      (∀ n, 0 < n → n ≤ twoBranches.length → covered' (n + lineAbove.length) = covered n) ∧
      inner.selectionArms covered 3 = .ok [true] ∧
      outer.selectionArms covered' (3 + lineAbove.length) = .ok [true] ∧
      inner.conditionalArms covered 1 = .ok (true, true) ∧
      (∀ p flag stop, inner.conditionEnd? ⟨1, 0⟩ = some p → inner.arm covered p = .ok (flag, stop) →
        stop.line < twoBranches.length) ∧
      outer.conditionalArms covered' (1 + lineAbove.length) = .ok (true, true) := by
  intro inner outer covered covered'
  have hlines : ∀ line ∈ lineAbove ++ twoBranches ++ linesBelow, '\n' ∉ line := by
    decide +kernel
  have hcovered : ∀ n, 0 < n → n ≤ twoBranches.length →
      covered' (n + lineAbove.length) = covered n := by
    intro n hn _
    have hlength : lineAbove.length = 1 := rfl
    rw [Bool.eq_iff_iff, hlength]
    simp only [covered, covered', Bool.or_eq_true, beq_iff_eq]
    omega
  have hselection : inner.selectionArms covered 3 = .ok [true] := by
    decide +kernel
  have hconditional : inner.conditionalArms covered 1 = .ok (true, true) := by
    decide +kernel
  have hnext : ∀ p flag stop, inner.conditionEnd? ⟨1, 0⟩ = some p →
      inner.arm covered p = .ok (flag, stop) → stop.line < twoBranches.length := by
    intro p flag stop hp harm
    have hend : inner.conditionEnd? ⟨1, 0⟩ = some ⟨1, 10⟩ := by
      decide +kernel
    have hfirst : inner.arm covered ⟨1, 10⟩ = .ok (true, ⟨2, 12⟩) := by
      decide +kernel
    rw [hend, Option.some.injEq] at hp
    subst hp
    rw [hfirst] at harm
    cases harm
    decide
  exact ⟨hlines, hcovered, hselection, (arms_within hlines hcovered 3).1 _ hselection, hconditional,
    hnext, (arms_within hlines hcovered 1).2 _ hconditional hnext⟩

end BinaryCoverage.MaskedSource
