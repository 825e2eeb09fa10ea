import BinaryCoverage.Proofs.Branch.Heading
import BinaryCoverage.Proofs.Branch.Monotone

/-!
# What becomes of each branch line

Every branch line of a source becomes either a branch point or a diagnostic.  This file defines:

* `FileCoverage.HasBranchInstruction` — some binary has a control transfer on a line;
* `BranchAnalysis.pointLines`, `BranchAnalysis.droppedLines` — the lines that became one or the other;
* `BranchAnalysis.AccountsFor` — no branch line is lost, and none counts twice;

and shows that an analysis accounts for all branch lines of its source (`ofSource_accountsFor`).
-/

namespace BinaryCoverage

namespace FileCoverage

/-- Some instruction that some binary has on the line has a control-transfer mnemonic. -/
def HasBranchInstruction (c : FileCoverage) (n : Nat) : Prop :=
  ∃ l binary address r mnemonic, c.line? n = some l ∧ l.record? binary address = some r ∧
    Opcode.mnemonic? r.opcode = some mnemonic ∧ Opcode.isControlTransfer mnemonic = true

theorem transfersControl_eq_true_iff {c : FileCoverage} {n : Nat} :
    c.transfersControl n = true ↔ c.HasBranchInstruction n := by
  unfold transfersControl LineCoverage.transfersControl HasBranchInstruction
  simp only [Option.any_eq_true, List.any_eq_true, List.mem_filterMap, LineCoverage.mem_opcodes_iff]
  constructor
  · rintro ⟨l, hl, mnemonic, ⟨_, ⟨binary, address, r, hr, rfl⟩, hmnemonic⟩, htransfers⟩
    exact ⟨l, binary, address, r, mnemonic, hl, hr, hmnemonic, htransfers⟩
  · rintro ⟨l, binary, address, r, mnemonic, hl, hr, hmnemonic, htransfers⟩
    exact ⟨l, hl, mnemonic, ⟨_, ⟨binary, address, r, hr, rfl⟩, hmnemonic⟩, htransfers⟩

end FileCoverage

namespace BranchAnalysis

open Source (Heading branchKind?_eq_some_iff)

def pointLines (a : BranchAnalysis) : List Nat := a.points.map (·.line)

def droppedLines (a : BranchAnalysis) : List Nat := a.diagnostics.filterMap (·.line)

/-- The points and the diagnostics of an analysis account for every branch line of a source, and the
condition of a branch line begins at the parenthesis after its keyword. -/
structure AccountsFor (file : String) (s : MaskedSource) (c : FileCoverage) (a : BranchAnalysis) :
    Prop where
  pointsOrdered : a.pointLines.Pairwise (· < ·)
  droppedOrdered : a.droppedLines.Pairwise (· < ·)
  disjoint : ∀ n ∈ a.pointLines, n ∉ a.droppedLines
  complete : ∀ n, n ∈ a.pointLines ∨ n ∈ a.droppedLines ↔ n ∈ s.branchLines.map (·.1)
  located : ∀ d ∈ a.diagnostics, d.file = file ∧ ∃ n, d.line = some n
  mismatch : ∀ n kind, (n, kind) ∈ s.branchLines →
    ((∃ d ∈ a.diagnostics, d.line = some n ∧ d.kind = .branchMismatch) ↔
      ¬ c.HasBranchInstruction n)
  unterminated : ∀ n kind, (n, kind) ∈ s.branchLines →
    ((∃ d ∈ a.diagnostics, d.line = some n ∧ d.kind = .unterminated) ↔
      c.HasBranchInstruction n ∧ ∃ e, arms s c n kind = .error e)
  point : ∀ n kind, (n, kind) ∈ s.branchLines → ∀ p,
    (p ∈ a.points ∧ p.line = n ↔
      c.HasBranchInstruction n ∧ ∃ flags, arms s c n kind = .ok flags ∧ p = ⟨n, kind, flags⟩)
  twoArms : ∀ p ∈ a.points, p.kind = .conditional → p.arms.length = 2
  detected : ∀ n kind, (n, kind) ∈ s.branchLines ↔
    ∃ head tail, Heading kind head ∧ s.line? n = some (head ++ '(' :: tail)
  condition : ∀ n kind head tail, Heading kind head → s.line? n = some (head ++ '(' :: tail) →
    s.IsFirst ⟨n, 0⟩ (fun _ c => c = '(') ⟨n, head.length⟩ '(' ∧
      s.conditionEnd? ⟨n, 0⟩ = s.conditionEnd? ⟨n, head.length⟩

variable {file : String} {s : MaskedSource} {c : FileCoverage} {n : Nat} {kind : BranchKind}

/-! ## One line -/

theorem judge_eq_ok_iff {p : BranchPoint} :
    judge file s c n kind = .ok p ↔
      c.HasBranchInstruction n ∧ ∃ flags, arms s c n kind = .ok flags ∧ p = ⟨n, kind, flags⟩ := by
  rw [← FileCoverage.transfersControl_eq_true_iff]
  unfold judge
  split
  · rename_i htransfers
    cases harms : arms s c n kind with
    | error e =>
        simp
    | ok flags =>
        simp [htransfers, eq_comm]
  · rename_i htransfers
    simp [htransfers]

theorem judge_eq_error_iff {d : Diagnostic} :
    judge file s c n kind = .error d ↔
      (¬ c.HasBranchInstruction n ∧ d =
        { file, line := some n, kind := .branchMismatch
          message := s!"line {n} looks like {kind.phrase} but no branch " ++
            "instruction was recorded for it" }) ∨
      (c.HasBranchInstruction n ∧ ∃ e, arms s c n kind = .error e ∧
        d = ⟨file, some n, .unterminated, e.message⟩) := by
  rw [← FileCoverage.transfersControl_eq_true_iff]
  unfold judge
  split
  · rename_i htransfers
    cases harms : arms s c n kind with
    | error e =>
        simp [htransfers, eq_comm]
    | ok flags =>
        simp [htransfers]
  · rename_i htransfers
    simp [htransfers, eq_comm]

theorem located_of_judge {d : Diagnostic} (h : judge file s c n kind = .error d) :
    d.file = file ∧ d.line = some n := by
  rcases judge_eq_error_iff.1 h with ⟨-, rfl⟩ | ⟨-, e, -, rfl⟩
  · exact ⟨rfl, rfl⟩
  · exact ⟨rfl, rfl⟩

theorem length_arms_of_conditional {flags : List Bool} (h : arms s c n .conditional = .ok flags) :
    flags.length = 2 := by
  rw [arms] at h
  cases hboth : s.conditionalArms c.coversLine n with
  | error e =>
      rw [hboth] at h
      cases h
  | ok both =>
      rw [hboth] at h
      cases h
      rfl

/-! ## All lines -/

/-- The lines that became points are those that are judged so, in the same order; the others became
diagnostics. -/
theorem lines_ofJudgements (lines : List (Nat × BranchKind)) :
    (ofJudgements (lines.map fun (n, kind) => judge file s c n kind)).pointLines =
        (lines.filter fun (n, kind) => (judge file s c n kind).isOk).map (·.1) ∧
      (ofJudgements (lines.map fun (n, kind) => judge file s c n kind)).droppedLines =
        (lines.filter fun (n, kind) => !(judge file s c n kind).isOk).map (·.1) := by
  induction lines with
  | nil =>
      exact ⟨rfl, rfl⟩
  | cons first rest ih =>
      obtain ⟨n, kind⟩ := first
      cases hjudge : judge file s c n kind with
      | ok p =>
          obtain ⟨-, flags, -, rfl⟩ := judge_eq_ok_iff.1 hjudge
          simpa [ofJudgements, pointLines, droppedLines, hjudge, Except.isOk, Except.toBool] using ih
      | error d =>
          have hline := (located_of_judge hjudge).2
          simpa [ofJudgements, pointLines, droppedLines, hjudge, hline, Except.isOk,
            Except.toBool] using ih

theorem pointLines_ofMasked (file : String) (s : MaskedSource) (c : FileCoverage) :
    (ofMasked file s c).pointLines =
      (s.branchLines.filter fun (n, kind) => (judge file s c n kind).isOk).map (·.1) :=
  (lines_ofJudgements s.branchLines).1

theorem droppedLines_ofMasked (file : String) (s : MaskedSource) (c : FileCoverage) :
    (ofMasked file s c).droppedLines =
      (s.branchLines.filter fun (n, kind) => !(judge file s c n kind).isOk).map (·.1) :=
  (lines_ofJudgements s.branchLines).2

/-- Any selection of the branch lines is in order. -/
theorem pairwise_filter_branchLines (s : MaskedSource) (keep : Nat × BranchKind → Bool) :
    ((s.branchLines.filter keep).map (·.1)).Pairwise (· < ·) := by
  have hordered : s.branchLines.Pairwise (·.1 < ·.1) := Source.pairwise_branchLinesFrom 1 s.lines
  exact List.pairwise_map.2 (hordered.filter keep)

/-- A branch line has one kind. -/
theorem kind_unique {kind' : BranchKind} (h : (n, kind) ∈ s.branchLines)
    (h' : (n, kind') ∈ s.branchLines) : kind = kind' := by
  obtain ⟨head, tail, hheading, hline⟩ := MaskedSource.mem_branchLines_iff.1 h
  obtain ⟨head', tail', hheading', hline'⟩ := MaskedSource.mem_branchLines_iff.1 h'
  rw [hline, Option.some.injEq] at hline'
  -- A line with two headings would have two kinds.
  have hkind := branchKind?_eq_some_iff.2 ⟨head, tail, hheading, rfl⟩
  rw [hline', branchKind?_eq_some_iff.2 ⟨head', tail', hheading', rfl⟩, Option.some.injEq] at hkind
  exact hkind.symm

theorem disjoint_lines : ∀ n ∈ (ofMasked file s c).pointLines, n ∉ (ofMasked file s c).droppedLines := by
  intro n hpoint hdropped
  rw [pointLines_ofMasked, List.mem_map] at hpoint
  rw [droppedLines_ofMasked, List.mem_map] at hdropped
  obtain ⟨⟨_, kind⟩, hmem, rfl⟩ := hpoint
  obtain ⟨⟨_, kind'⟩, hmem', hline⟩ := hdropped
  simp only at hline
  subst hline
  rw [List.mem_filter] at hmem hmem'
  -- The judgement of a line depends on its kind alone, and there is but one.
  have hkind := kind_unique hmem.1 hmem'.1
  subst hkind
  simp [hmem.2] at hmem'

theorem mem_lines_iff :
    n ∈ (ofMasked file s c).pointLines ∨ n ∈ (ofMasked file s c).droppedLines ↔
      n ∈ s.branchLines.map (·.1) := by
  rw [pointLines_ofMasked, droppedLines_ofMasked]
  simp only [List.mem_map, List.mem_filter]
  constructor
  · intro h
    rcases h with ⟨b, ⟨hb, -⟩, hn⟩ | ⟨b, ⟨hb, -⟩, hn⟩
    · exact ⟨b, hb, hn⟩
    · exact ⟨b, hb, hn⟩
  · intro h
    obtain ⟨b, hb, hn⟩ := h
    cases hjudge : (judge file s c b.1 b.2).isOk with
    | true =>
        exact Or.inl ⟨b, ⟨hb, hjudge⟩, hn⟩
    | false =>
        exact Or.inr ⟨b, ⟨hb, by simpa using hjudge⟩, hn⟩

/-! ## The points and the diagnostics of a line -/

theorem mem_diagnostics_ofMasked_iff {d : Diagnostic} :
    d ∈ (ofMasked file s c).diagnostics ↔
      ∃ n kind, (n, kind) ∈ s.branchLines ∧ judge file s c n kind = .error d := by
  unfold ofMasked
  rw [mem_diagnostics_ofJudgements_iff, List.mem_map]
  simp only [Prod.exists]

theorem exists_diagnostic_iff (h : (n, kind) ∈ s.branchLines) (which : DiagnosticKind) :
    (∃ d ∈ (ofMasked file s c).diagnostics, d.line = some n ∧ d.kind = which) ↔
      ∃ d, judge file s c n kind = .error d ∧ d.kind = which := by
  constructor
  · intro hdiagnostic
    obtain ⟨d, hd, hline, hwhich⟩ := hdiagnostic
    obtain ⟨n', kind', hmem, hjudge⟩ := mem_diagnostics_ofMasked_iff.1 hd
    -- A diagnostic for a line comes from the judgement of that line.
    rw [(located_of_judge hjudge).2, Option.some.injEq] at hline
    subst hline
    rw [kind_unique hmem h] at hjudge
    exact ⟨d, hjudge, hwhich⟩
  · intro hjudged
    obtain ⟨d, hjudge, hwhich⟩ := hjudged
    exact ⟨d, mem_diagnostics_ofMasked_iff.2 ⟨n, kind, h, hjudge⟩, (located_of_judge hjudge).2,
      hwhich⟩

theorem exists_mismatch_iff (h : (n, kind) ∈ s.branchLines) :
    (∃ d ∈ (ofMasked file s c).diagnostics, d.line = some n ∧ d.kind = .branchMismatch) ↔
      ¬ c.HasBranchInstruction n := by
  rw [exists_diagnostic_iff h]
  simp only [judge_eq_error_iff]
  constructor
  · intro hdiagnostic
    rcases hdiagnostic with ⟨d, ⟨hnone, -⟩ | ⟨-, e, -, rfl⟩, hkind⟩
    · exact hnone
    · cases hkind
  · intro hnone
    exact ⟨_, Or.inl ⟨hnone, rfl⟩, rfl⟩

theorem exists_unterminated_iff (h : (n, kind) ∈ s.branchLines) :
    (∃ d ∈ (ofMasked file s c).diagnostics, d.line = some n ∧ d.kind = .unterminated) ↔
      c.HasBranchInstruction n ∧ ∃ e, arms s c n kind = .error e := by
  rw [exists_diagnostic_iff h]
  simp only [judge_eq_error_iff]
  constructor
  · intro hdiagnostic
    rcases hdiagnostic with ⟨d, ⟨-, rfl⟩ | ⟨hsome, e, he, -⟩, hkind⟩
    · cases hkind
    · exact ⟨hsome, e, he⟩
  · intro hfailed
    obtain ⟨hsome, e, he⟩ := hfailed
    exact ⟨_, Or.inr ⟨hsome, e, he, rfl⟩, rfl⟩

theorem mem_points_iff (h : (n, kind) ∈ s.branchLines) (p : BranchPoint) :
    p ∈ (ofMasked file s c).points ∧ p.line = n ↔
      c.HasBranchInstruction n ∧ ∃ flags, arms s c n kind = .ok flags ∧ p = ⟨n, kind, flags⟩ := by
  rw [mem_points_ofMasked_iff]
  constructor
  · intro hpoint
    obtain ⟨⟨n', kind', hmem, hjudge⟩, hline⟩ := hpoint
    obtain ⟨hsome, flags, hflags, rfl⟩ := judge_eq_ok_iff.1 hjudge
    simp only at hline
    subst hline
    rw [kind_unique h hmem]
    exact ⟨hsome, flags, hflags, rfl⟩
  · intro hjudge
    refine ⟨⟨n, kind, h, judge_eq_ok_iff.2 hjudge⟩, ?_⟩
    obtain ⟨-, flags, -, rfl⟩ := hjudge
    rfl

/-- Every branch line of a source is accounted for once. -/
theorem ofSource_accountsFor (file text : String) (c : FileCoverage) :
    (ofSource file text c).AccountsFor file (MaskedSource.ofText text) c where
  pointsOrdered := by
    rw [ofSource, pointLines_ofMasked]
    exact pairwise_filter_branchLines _ _
  droppedOrdered := by
    rw [ofSource, droppedLines_ofMasked]
    exact pairwise_filter_branchLines _ _
  disjoint := disjoint_lines
  complete _ := mem_lines_iff
  located := by
    intro d hd
    obtain ⟨n, kind, -, hjudge⟩ := mem_diagnostics_ofMasked_iff.1 hd
    exact ⟨(located_of_judge hjudge).1, n, (located_of_judge hjudge).2⟩
  mismatch _ _ h := exists_mismatch_iff h
  unterminated _ _ h := exists_unterminated_iff h
  point _ _ h := mem_points_iff h
  twoArms := by
    intro p hp hkind
    obtain ⟨n, kind, -, hjudge⟩ := mem_points_ofMasked_iff.1 hp
    obtain ⟨-, flags, hflags, rfl⟩ := judge_eq_ok_iff.1 hjudge
    simp only at hkind
    subst hkind
    exact length_arms_of_conditional hflags
  detected _ _ := MaskedSource.mem_branchLines_iff
  condition _ _ _ _ := MaskedSource.conditionEnd?_of_heading

end BranchAnalysis

end BinaryCoverage
