import BinaryCoverage.Branch.Analysis
import BinaryCoverage.Proofs.Branch.MissingElse
import BinaryCoverage.Proofs.Coverage.Merge
import Mathlib.Data.List.Forall2

/-!
# Branches under merging

The arms of a branch are delimited in the source alone, and judged by lines that are covered.  So
more coverage keeps each branch point, with all of its covered arms.  This file defines:

* `BranchPoint.GrowsTo` — a branch point is found again, with at least the arms covered;
* `FileCoverage.record?` — the instruction that a binary has at an address of a line;
* `FileCoverage.OpcodesAgree` — two files have the same opcodes wherever both have one;

and shows that merging loses no branch point and no covered arm (`ofSource_merge_grows`).
-/

namespace BinaryCoverage

/-- An arm that was covered still is. -/
def CoversAtLeast (before after : Bool) : Prop := before = true → after = true

structure BranchPoint.GrowsTo (p q : BranchPoint) : Prop where
  line : q.line = p.line
  kind : q.kind = p.kind
  arms : List.Forall₂ CoversAtLeast p.arms q.arms

/-! ## Arms -/

namespace MaskedSource

variable {s : MaskedSource} {covered covered' : Nat → Bool}

section Monotone

variable (hcovered : ∀ n, covered n = true → covered' n = true)

include hcovered

theorem anyCovered_mono {first last : Nat} (h : anyCovered covered first last = true) :
    anyCovered covered' first last = true := by
  rcases List.any_eq_true.1 h with ⟨n, hn, hline⟩
  exact List.any_eq_true.2 ⟨n, hn, hcovered n hline⟩

theorem isBlockCovered_mono {start close : Position}
    (h : s.isBlockCovered covered start close = true) :
    s.isBlockCovered covered' start close = true := by
  unfold isBlockCovered at h ⊢
  split
  · rename_i hline
    rw [if_pos hline] at h
    exact hcovered start.line h
  · rename_i hline
    rw [if_neg hline] at h
    exact anyCovered_mono hcovered h

/-- Where an arm ends does not depend on coverage. -/
theorem arm_mono {p stop : Position} {flag : Bool} (h : s.arm covered p = .ok (flag, stop)) :
    ∃ flag', s.arm covered' p = .ok (flag', stop) ∧ (flag = true → flag' = true) := by
  unfold arm at h ⊢
  rcases htoken : s.nextToken? p with _ | ⟨start, c⟩
  · simp [htoken] at h
  · simp only [htoken] at h ⊢
    split at h
    · rename_i hopens
      rw [if_pos hopens]
      cases hclose : s.blockEnd? start with
      | none =>
          simp [hclose] at h
      | some close =>
          simp only [hclose, Except.ok.injEq, Prod.mk.injEq] at h ⊢
          rcases h with ⟨rfl, rfl⟩
          exact ⟨_, ⟨rfl, rfl⟩, isBlockCovered_mono hcovered⟩
    · rename_i hopens
      rw [if_neg hopens]
      cases hend : s.statementEnd? start with
      | none =>
          simp [hend] at h
      | some last =>
          simp only [hend, Except.ok.injEq, Prod.mk.injEq] at h ⊢
          rcases h with ⟨rfl, rfl⟩
          exact ⟨_, ⟨rfl, rfl⟩, hcovered start.line⟩

theorem secondArm_mono {stop : Position} {flag : Bool} (h : s.secondArm covered stop = .ok flag) :
    ∃ flag', s.secondArm covered' stop = .ok flag' ∧ (flag = true → flag' = true) := by
  unfold secondArm at h ⊢
  cases helse : s.elseEnd? stop with
  | none =>
      -- Without an `else` the second arm counts as covered.
      exact ⟨true, rfl, fun _ => rfl⟩
  | some q =>
      simp only [helse] at h ⊢
      rcases harm : s.arm covered q with e | ⟨flag₀, last⟩
      · simp [harm, Except.map] at h
      · rcases arm_mono hcovered harm with ⟨flag', harm', hflag⟩
        rw [harm] at h
        cases h
        exact ⟨flag', by rw [harm']; rfl, hflag⟩

theorem conditionalArms_mono {n : Nat} {first second : Bool}
    (h : s.conditionalArms covered n = .ok (first, second)) :
    ∃ first' second', s.conditionalArms covered' n = .ok (first', second') ∧
      (first = true → first' = true) ∧ (second = true → second' = true) := by
  rcases conditionalArms_eq_ok_iff.1 h with ⟨p, stop, hend, harm, hsecond⟩
  rcases arm_mono hcovered harm with ⟨first', harm', hfirst⟩
  rcases secondArm_mono hcovered hsecond with ⟨second', hsecond', hflag⟩
  exact ⟨first', second', conditionalArms_eq_ok_iff.2 ⟨p, stop, hend, harm', hsecond'⟩, hfirst,
    hflag⟩

/-- A line opens the same arms, and adds to the latest one at least the same coverage. -/
theorem armsAfterLine_mono (depth line : Nat) (segment : List Char) {arms arms' : List Bool}
    (h : List.Forall₂ CoversAtLeast arms arms') :
    List.Forall₂ CoversAtLeast (armsAfterLine covered depth line segment arms)
      (armsAfterLine covered' depth line segment arms') := by
  unfold armsAfterLine
  split
  · rename_i tail _
    refine List.Forall₂.cons ?_ h
    intro hflag
    rw [Bool.and_eq_true] at hflag ⊢
    exact ⟨hflag.1, hcovered line hflag.2⟩
  · cases h with
    | nil =>
        exact List.Forall₂.nil
    | cons hlatest hrest =>
        refine List.Forall₂.cons ?_ hrest
        intro hflag
        rw [Bool.or_eq_true] at hflag ⊢
        exact hflag.imp hlatest (hcovered line)

theorem armsFrom_mono (depth line : Nat) (segments : List (List Char))
    {arms arms' result : List Bool}
    (h : List.Forall₂ CoversAtLeast arms arms')
    (hresult : armsFrom covered depth line segments arms = .ok result) :
    ∃ result', armsFrom covered' depth line segments arms' = .ok result' ∧
      List.Forall₂ CoversAtLeast result result' := by
  induction segments generalizing depth line arms arms' with
  | nil =>
      cases hresult
  | cons segment rest ih =>
      have hline := armsAfterLine_mono hcovered depth line segment h
      rw [armsFrom] at hresult ⊢
      -- The body closes on the same line, whatever the arms have come to.
      cases hdepth : depthAfter depth segment with
      | none =>
          simp only [hdepth, Except.ok.injEq] at hresult ⊢
          subst hresult
          exact ⟨_, rfl, List.rel_reverse hline⟩
      | some depth' =>
          simp only [hdepth] at hresult ⊢
          exact ih depth' (line + 1) hline hresult

theorem selectionArms_mono {n : Nat} {arms : List Bool} (h : s.selectionArms covered n = .ok arms) :
    ∃ arms', s.selectionArms covered' n = .ok arms' ∧ List.Forall₂ CoversAtLeast arms arms' := by
  unfold selectionArms at h ⊢
  cases hend : s.conditionEnd? ⟨n, 0⟩ with
  | none =>
      simp [hend] at h
  | some p =>
      simp only [hend] at h ⊢
      split at h
      · rename_i start htoken
        exact armsFrom_mono hcovered 1 start.line _ List.Forall₂.nil h
      · cases h

end Monotone

end MaskedSource

/-! ## Opcodes -/

theorem LineCoverage.mem_opcodes_iff {l : LineCoverage} {opcode : String} :
    opcode ∈ l.opcodes ↔ ∃ binary address r, l.record? binary address = some r ∧
      r.opcode = opcode := by
  unfold opcodes record?
  simp only [List.mem_flatMap, List.mem_map, Prod.exists,
    Std.ExtTreeMap.mem_toList_iff_getElem?_eq_some, Option.bind_eq_some_iff]
  constructor
  · rintro ⟨binary, byAddress, hbinary, address, r, hr, hopcode⟩
    exact ⟨binary, address, r, ⟨byAddress, hbinary, hr⟩, hopcode⟩
  · rintro ⟨binary, address, r, ⟨byAddress, hbinary, hr⟩, hopcode⟩
    exact ⟨binary, byAddress, hbinary, address, r, hr, hopcode⟩

namespace FileCoverage

def record? (c : FileCoverage) (n binary : UInt32) (address : UInt64) : Option InstructionRecord :=
  (c.lines[n]?).bind fun l => l.record? binary address

/-- Where both files have an instruction of one binary at one address of a line, its opcode is the
same in both. -/
def OpcodesAgree (c d : FileCoverage) : Prop :=
  ∀ n binary address r r', c.record? n binary address = some r →
    d.record? n binary address = some r' → r.opcode = r'.opcode

variable {c d : FileCoverage}

theorem line?_merge (c d : FileCoverage) (n : Nat) :
    (c.merge d).line? n = Option.merge LineCoverage.merge (c.line? n) (d.line? n) := by
  unfold line?
  split
  · exact Table.getElem?_unionWith LineCoverage.merge c.lines d.lines _
  · rfl

theorem coversLine_merge {n : Nat} (h : c.coversLine n = true) :
    (c.merge d).coversLine n = true := by
  unfold coversLine at h ⊢
  rw [line?_merge]
  cases hc : c.line? n with
  | none =>
      simp [hc] at h
  | some l =>
      cases d.line? n <;> simp_all [LineCoverage.merge]

end FileCoverage

/-- Merging keeps the opcodes of a line that it overwrites with themselves only. -/
theorem LineCoverage.mem_opcodes_merge {l m : LineCoverage} {opcode : String}
    (hagree : ∀ binary address r r', l.record? binary address = some r →
      m.record? binary address = some r' → r.opcode = r'.opcode) (h : opcode ∈ l.opcodes) :
    opcode ∈ (l.merge m).opcodes := by
  rcases mem_opcodes_iff.1 h with ⟨binary, address, r, hr, rfl⟩
  refine mem_opcodes_iff.2 ⟨binary, address, ?_⟩
  rw [record?_merge]
  cases hr' : m.record? binary address with
  | none =>
      exact ⟨r, by rw [hr]; rfl, rfl⟩
  | some r' =>
      exact ⟨r', rfl, (hagree binary address r r' hr hr').symm⟩

theorem LineCoverage.transfersControl_of_opcodes {l m : LineCoverage}
    (hopcodes : ∀ opcode ∈ l.opcodes, opcode ∈ m.opcodes) (h : l.transfersControl = true) :
    m.transfersControl = true := by
  unfold transfersControl at h ⊢
  rw [List.any_filterMap, List.any_eq_true] at h ⊢
  rcases h with ⟨opcode, hopcode, hmnemonic⟩
  exact ⟨opcode, hopcodes opcode hopcode, hmnemonic⟩

theorem FileCoverage.transfersControl_merge {c d : FileCoverage} (hagree : c.OpcodesAgree d)
    {n : Nat} (h : c.transfersControl n = true) : (c.merge d).transfersControl n = true := by
  unfold transfersControl at h ⊢
  rw [line?_merge]
  unfold line? at h ⊢
  split at h
  · rename_i hn
    rw [if_pos hn, if_pos hn]
    cases hc : c.lines[UInt32.ofNat n]? with
    | none =>
        simp [hc] at h
    | some l =>
        rw [hc] at h
        cases hd : d.lines[UInt32.ofNat n]? with
        | none =>
            exact h
        | some m =>
            -- The opcode that transfers control may be overwritten, but by itself only.
            refine LineCoverage.transfersControl_of_opcodes ?_ h
            intro opcode hopcode
            refine LineCoverage.mem_opcodes_merge ?_ hopcode
            intro binary address r r' hr hr'
            exact hagree (UInt32.ofNat n) binary address r r' (by simp [record?, hc, hr])
              (by simp [record?, hd, hr'])
  · cases h

/-! ## Branch points -/

namespace BranchAnalysis

variable {s : MaskedSource} {file : String} {c d : FileCoverage}

theorem arms_mono (hcovered : ∀ n, c.coversLine n = true → d.coversLine n = true) {line : Nat}
    {kind : BranchKind} {flags : List Bool} (h : arms s c line kind = .ok flags) :
    ∃ flags', arms s d line kind = .ok flags' ∧ List.Forall₂ CoversAtLeast flags flags' := by
  cases kind with
  | conditional =>
      unfold arms at h ⊢
      rcases hboth : s.conditionalArms c.coversLine line with e | ⟨first, second⟩
      · rw [hboth] at h
        cases h
      · rcases MaskedSource.conditionalArms_mono hcovered hboth with
          ⟨first', second', hboth', hfirst, hsecond⟩
        rw [hboth] at h
        cases h
        refine ⟨[first', second'], by rw [hboth']; rfl, ?_⟩
        exact List.Forall₂.cons hfirst (List.Forall₂.cons hsecond List.Forall₂.nil)
  | selection =>
      exact MaskedSource.selectionArms_mono hcovered h

theorem judge_mono (hcovered : ∀ n, c.coversLine n = true → d.coversLine n = true) {line : Nat}
    (htransfers : c.transfersControl line = true → d.transfersControl line = true)
    {kind : BranchKind} {p : BranchPoint} (h : judge file s c line kind = .ok p) :
    ∃ q, judge file s d line kind = .ok q ∧ p.GrowsTo q := by
  unfold judge at h ⊢
  split at h
  · rename_i hline
    rw [if_pos (htransfers hline)]
    cases harms : arms s c line kind with
    | error e =>
        simp [harms] at h
    | ok flags =>
        rcases arms_mono hcovered harms with ⟨flags', harms', hflags⟩
        rw [harms] at h
        cases h
        exact ⟨⟨line, kind, flags'⟩, by rw [harms'], ⟨rfl, rfl, hflags⟩⟩
  · cases h

theorem mem_points_ofJudgements_iff {judgements : List (Except Diagnostic BranchPoint)}
    {p : BranchPoint} : p ∈ (ofJudgements judgements).points ↔ .ok p ∈ judgements := by
  induction judgements with
  | nil =>
      simp [ofJudgements]
  | cons judgement rest ih =>
      cases judgement with
      | error diagnostic =>
          simp [ofJudgements, ih]
      | ok point =>
          simp [ofJudgements, ih]

theorem mem_diagnostics_ofJudgements_iff {judgements : List (Except Diagnostic BranchPoint)}
    {d : Diagnostic} : d ∈ (ofJudgements judgements).diagnostics ↔ .error d ∈ judgements := by
  induction judgements with
  | nil =>
      simp [ofJudgements]
  | cons judgement rest ih =>
      cases judgement with
      | error diagnostic =>
          simp [ofJudgements, ih]
      | ok point =>
          simp [ofJudgements, ih]

theorem mem_points_ofMasked_iff {p : BranchPoint} :
    p ∈ (ofMasked file s c).points ↔
      ∃ line kind, (line, kind) ∈ s.branchLines ∧ judge file s c line kind = .ok p := by
  unfold ofMasked
  rw [mem_points_ofJudgements_iff, List.mem_map]
  simp only [Prod.exists]

/-- Merging more coverage into a file loses no branch point and no covered arm of one, as long as
it changes no opcode. -/
theorem ofSource_merge_grows (file text : String) {c d : FileCoverage}
    (hagree : c.OpcodesAgree d) :
    ∀ p ∈ (ofSource file text c).points, ∃ q ∈ (ofSource file text (c.merge d)).points,
      p.GrowsTo q := by
  intro p hp
  rcases mem_points_ofMasked_iff.1 hp with ⟨line, kind, hline, hjudge⟩
  rcases judge_mono (fun n => FileCoverage.coversLine_merge)
    (FileCoverage.transfersControl_merge hagree) hjudge with ⟨q, hjudge', hwithin⟩
  exact ⟨q, mem_points_ofMasked_iff.2 ⟨line, kind, hline, hjudge'⟩, hwithin⟩

/-- An `if` with a branch instruction, of which a run has taken the first arm. -/
def firstRun : FileCoverage :=
  (({} : FileCoverage).updateLine 1 (·.record 0 4096 "54000041\tb.ne\t1010" 1)).updateLine 2
    (·.record 0 4100 "d503201f\tnop" 1)

/-- The same instructions, when a run has taken the second arm. -/
def secondRun : FileCoverage :=
  (({} : FileCoverage).updateLine 1 (·.record 0 4096 "54000041\tb.ne\t1010" 2)).updateLine 4
    (·.record 0 4112 "d65f03c0\tret" 2)

def bothArms : String :=
  "    if (a) \x7b\n        x();\n    \x7d else \x7b\n        y();\n    \x7d\n"

theorem ofSource_merge_grows_secondRun :
    firstRun.OpcodesAgree secondRun ∧
      (ofSource "f.c" bothArms firstRun).points = [⟨1, .conditional, [true, false]⟩] ∧
      ∀ p ∈ (ofSource "f.c" bothArms firstRun).points,
        ∃ q ∈ (ofSource "f.c" bothArms (firstRun.merge secondRun)).points, p.GrowsTo q := by
  have hagree : firstRun.OpcodesAgree secondRun := by
    intro n binary address r r' hr hr'
    by_cases hn : 1 = n
    · subst hn
      simp [firstRun, secondRun, FileCoverage.record?, FileCoverage.updateLine,
        Table.getElem?_update, LineCoverage.record?_record] at hr hr'
      grind
    · by_cases hn : 2 = n
      · subst hn
        simp [secondRun, FileCoverage.record?, FileCoverage.updateLine,
          Table.getElem?_update] at hr'
      · simp [firstRun, FileCoverage.record?, FileCoverage.updateLine,
          Table.getElem?_update, *] at hr
  exact ⟨hagree, by decide +kernel, ofSource_merge_grows "f.c" bothArms hagree⟩

end BranchAnalysis

end BinaryCoverage
