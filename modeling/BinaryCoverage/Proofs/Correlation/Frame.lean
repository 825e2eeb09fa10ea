import BinaryCoverage.Proofs.Correlation.Answer
import BinaryCoverage.Proofs.Correlation.Observation
import BinaryCoverage.Proofs.Correlation.Progress
import BinaryCoverage.Proofs.Coverage.Addition

/-!
# Correlating in any correlator

A correlation writes to the document and never reads it, so that it takes down the same notes
whatever document it starts from.  The declaration lines in them depend on what the index of
declarations answers, and on nothing else.  This file defines:

* `SourceView.Answers` — related indices answer alike, of declared lines, and stay related;
* `Note.DeclaredBy` — a note gives a function the line that is declared for it;
* `Correlator.noting` — a correlator after some notes and questions;
* `Progress.Writes` — a step takes down notes that depend on the answers alone;

and shows that correlating a binary is merging what it gives by itself (`take_eq_merge`).
-/

namespace BinaryCoverage

open Disassembly (Transcript)

/-! ## Other correlators -/

/-- The correlator with notes taken down and with what has been asked on the way. -/
def Correlator.noting (c : Correlator) (xs : List Note) (index : Option DeclarationIndex) :
    Correlator :=
  { c with document := c.document.noteAll xs, index }

def Progress.withCorrelator (p : Progress) (c : Correlator) : Progress := { p with correlator := c }

/-! ## Answers -/

structure SourceView.Answers (v : SourceView) (keys : List String)
    (line : String → String → UInt32 → Prop)
    (R : Option DeclarationIndex → Option DeclarationIndex → Prop) : Prop where
  same : ∀ x y, R x y → ∀ key ∈ keys, ∀ function,
    (v.ask y key function).1 = (v.ask x key function).1
  kept : ∀ x y, R x y → ∀ key ∈ keys, ∀ function,
    R (v.ask x key function).2 (v.ask y key function).2
  told : ∀ x y, R x y → ∀ key ∈ keys, ∀ function n,
    (v.ask x key function).1 = .ok n → line key function n

def Note.DeclaredBy (line : String → String → UInt32 → Prop) (x : Note) : Prop :=
  ∀ name n covered, x.finding = .function name n covered → line x.key name n

theorem Note.declaredBy_of_mem_cons {line : String → String → UInt32 → Prop} {key name : String}
    {n : UInt32} {covered : Bool} {xs : List Note} (hn : line key name n)
    (hxs : ∀ x ∈ xs, x.DeclaredBy line) :
    ∀ x ∈ (⟨key, .function name n covered⟩ :: xs : List Note), x.DeclaredBy line := by
  intro x hx
  rcases List.mem_cons.1 hx with rfl | hx
  · rintro name' n' covered' ⟨⟩
    exact hn
  · exact hxs x hx

/-- Of the notes of a run only the first one is about a function. -/
theorem SourceRun.declaredBy_of_mem_notes {m : SourceMapping} {binary : UInt32}
    {traces : TraceStore} {owner : String} {n : UInt32} {run : SourceRun}
    {line : String → String → UInt32 → Prop} (hn : line (run.key m) owner n) :
    ∀ x ∈ run.notes m binary traces owner n, x.DeclaredBy line := by
  refine Note.declaredBy_of_mem_cons hn ?_
  intro x hx name n' covered hfinding
  rcases List.mem_cons.1 hx with rfl | hx
  · cases hfinding
  · rcases List.mem_map.1 hx with ⟨i, _, rfl⟩
    cases hfinding

namespace Progress

variable {v : SourceView} {keys : List String} {line : String → String → UInt32 → Prop}
  {R : Option DeclarationIndex → Option DeclarationIndex → Prop} {p : Progress}
  {y : Option DeclarationIndex}

/-! ## Steps -/

/-- A step takes notes down, and the same ones in any other correlator with the index `y`. -/
def Writes (line : String → String → UInt32 → Prop)
    (R : Option DeclarationIndex → Option DeclarationIndex → Prop)
    (step : Progress → Option Failure × Progress) (p : Progress) (y : Option DeclarationIndex) :
    Prop :=
  ∃ xs y', (∀ x ∈ xs, Note.DeclaredBy line x) ∧
    (step p).2.correlator.document = p.correlator.document.noteAll xs ∧
    R (step p).2.correlator.index y' ∧
    ∀ c : Correlator, c.index = y →
      step (p.withCorrelator c) = ((step p).1, (step p).2.withCorrelator (c.noting xs y'))

theorem Writes.congr {step step' : Progress → Option Failure × Progress}
    (h : Writes line R step' p y) (hp : step p = step' p)
    (hc : ∀ c : Correlator, c.index = y →
      step (p.withCorrelator c) = step' (p.withCorrelator c)) : Writes line R step p y := by
  rcases h with ⟨xs, y', hxs, hdocument, hindex, hsame⟩
  refine ⟨xs, y', hxs, ?_, ?_, ?_⟩
  · rw [hp, hdocument]
  · rw [hp]
    exact hindex
  · intro c hy
    rw [hp, hc c hy, hsame c hy]

/-- The second step is taken where the first one succeeds. -/
def andThen (first second : Progress → Option Failure × Progress) (p : Progress) :
    Option Failure × Progress :=
  match first p with
  | (some e, q) => (some e, q)
  | (none, q) => second q

theorem attemptEach_cons {α : Type} (step : Progress → α → Option Failure × Progress)
    (p : Progress) (a : α) (rest : List α) :
    attemptEach step p (a :: rest) = andThen (step · a) (attemptEach step · rest) p := by
  rw [attemptEach, andThen]
  rcases step p a with ⟨_ | e, q⟩ <;> rfl

/-- A step that counts and reports only. -/
theorem writes_nothing {step : Progress → Option Failure × Progress}
    (hp : R p.correlator.index y) (hcorrelator : (step p).2.correlator = p.correlator)
    (hsame : ∀ c, step (p.withCorrelator c) = ((step p).1, (step p).2.withCorrelator c)) :
    Writes line R step p y := by
  refine ⟨[], y, by simp, ?_, ?_, ?_⟩
  · rw [hcorrelator]
    rfl
  · rw [hcorrelator]
    exact hp
  · rintro c rfl
    exact hsame c

theorem writes_andThen {first second : Progress → Option Failure × Progress}
    (hfirst : Writes line R first p y)
    (hsecond : ∀ q z, R q.correlator.index z → Writes line R second q z) :
    Writes line R (andThen first second) p y := by
  rcases hfirst with ⟨xs, z, hxs, hdocument, hindex, hsame⟩
  rcases hresult : first p with ⟨_ | e, q⟩
  · simp only [hresult] at hdocument hindex hsame
    rcases hsecond q z hindex with ⟨ys, z', hys, hdocument', hindex', hsame'⟩
    -- The second step goes on from the document and the index that the first one leaves.
    refine ⟨xs ++ ys, z', ?_, ?_, ?_, ?_⟩
    · intro x hx
      exact (List.mem_append.1 hx).elim (hxs x) (hys x)
    · simp only [andThen, hresult, hdocument', hdocument, Document.noteAll_append]
    · simpa only [andThen, hresult] using hindex'
    · intro c hy
      simp only [andThen, hresult, hsame c hy, hsame' (c.noting xs z) rfl]
      simp only [Correlator.noting, Document.noteAll_append]
  · simp only [hresult] at hdocument hindex hsame
    refine ⟨xs, z, hxs, ?_, ?_, ?_⟩
    · simpa only [andThen, hresult] using hdocument
    · simpa only [andThen, hresult] using hindex
    · intro c hy
      simp only [andThen, hresult, hsame c hy]

theorem writes_attemptEach {α : Type} {step : Progress → α → Option Failure × Progress}
    {items : List α}
    (hstep : ∀ q z, R q.correlator.index z → ∀ a ∈ items, Writes line R (step · a) q z)
    (hp : R p.correlator.index y) : Writes line R (attemptEach step · items) p y := by
  induction items generalizing p y with
  | nil =>
      exact writes_nothing hp rfl fun c => rfl
  | cons a rest ih =>
      refine Writes.congr (writes_andThen (hstep p y hp a (by simp)) ?_)
        (attemptEach_cons step p a rest) fun c _ => attemptEach_cons step (p.withCorrelator c) a rest
      intro q z hq
      exact ih (fun q' z' hq' b hb => hstep q' z' hq' b (by simp [hb])) hq

section Steps

variable (binary : UInt32) (traces : TraceStore)

/-! ## Runs -/

theorem run_of_error {owner : String} {sourceRun : SourceRun} {e : Failure}
    (h : (v.ask p.correlator.index (sourceRun.key v.mapping) owner).1 = .error e) :
    run v binary traces p (owner, sourceRun) =
      (some e, { p with
        correlator := p.correlator.noting []
          (v.ask p.correlator.index (sourceRun.key v.mapping) owner).2
        functions := p.functions.mark owner }) := by
  unfold SourceRun.key at h ⊢
  simp only [run, Correlator.declarationLine_eq_ask, h]
  rfl

theorem run_of_ok {owner : String} {sourceRun : SourceRun} {n : UInt32}
    (h : (v.ask p.correlator.index (sourceRun.key v.mapping) owner).1 = .ok n) :
    run v binary traces p (owner, sourceRun) =
      (none, { p with
        correlator := p.correlator.noting (sourceRun.notes v.mapping binary traces owner n)
          (v.ask p.correlator.index (sourceRun.key v.mapping) owner).2
        functions := p.functions.mark owner
        stats := p.stats.addRun traces sourceRun }) := by
  unfold Correlator.noting
  rw [← updateFile_recordRun]
  unfold SourceRun.key at h ⊢
  simp only [run, Correlator.declarationLine_eq_ask, h]
  rfl

theorem writes_run (h : v.Answers keys line R) (hp : R p.correlator.index y)
    {owned : String × SourceRun} (hkey : owned.2.key v.mapping ∈ keys) :
    Writes line R (run v binary traces · owned) p y := by
  rcases owned with ⟨owner, sourceRun⟩
  have hsame := h.same _ _ hp _ hkey owner
  have hkept := h.kept _ _ hp _ hkey owner
  have htold := h.told _ _ hp _ hkey owner
  dsimp only at hsame hkept htold
  rcases hline : (v.ask p.correlator.index (sourceRun.key v.mapping) owner).1 with e | n
  · have hrun := run_of_error binary traces hline
    refine ⟨[], (v.ask y (sourceRun.key v.mapping) owner).2, by simp, ?_, ?_, ?_⟩
    · simp only [hrun]
      rfl
    · simp only [hrun]
      exact hkept
    · rintro c rfl
      simp only [hrun, run_of_error binary traces (p := p.withCorrelator c) (hsame.trans hline)]
      rfl
  · have hrun := run_of_ok binary traces hline
    refine ⟨sourceRun.notes v.mapping binary traces owner n,
      (v.ask y (sourceRun.key v.mapping) owner).2, ?_, ?_, ?_, ?_⟩
    · exact SourceRun.declaredBy_of_mem_notes (htold n hline)
    · simp only [hrun]
      rfl
    · simp only [hrun]
      exact hkept
    · rintro c rfl
      simp only [hrun, run_of_ok binary traces (p := p.withCorrelator c) (hsame.trans hline)]
      rfl

/-! ## Blocks -/

/-- Counts a block. -/
def countBlock (p : Progress) : Option Failure × Progress :=
  (none, { p with stats := { p.stats with blocks := p.stats.blocks + 1 } })

/-- Declares the label of a block. -/
def declareLabel (v : SourceView) (label home : String) (n : UInt32) (p : Progress) :
    Option Failure × Progress :=
  (none, { p with
    correlator := p.correlator.noting [⟨home, .function label n false⟩]
      (v.ask p.correlator.index home label).2
    functions := p.functions.mark label
    stats := { p.stats with attributedBlocks := p.stats.attributedBlocks + 1 } })

/-- Covers the label of a block, when its runs are done. -/
def coverLabel (label home : String) (n : UInt32) (hasRun : Bool) (p : Progress) :
    Option Failure × Progress :=
  if hasRun then
    (none, { p with
      correlator := p.correlator.updateFile home (·.setFunction label n true)
      stats := { p.stats with coveredBlocks := p.stats.coveredBlocks + 1 } })
  else (none, p)

theorem attributed_of_error {b : FunctionBlock} {home : String} {e : Failure}
    (h : (v.ask p.correlator.index home b.label).1 = .error e) :
    attributed v binary traces p b home =
      (some e, { p with
        correlator := p.correlator.noting []
          (v.ask p.correlator.index home b.label).2
        functions := p.functions.mark b.label
        stats := { p.stats with attributedBlocks := p.stats.attributedBlocks + 1 } }) := by
  simp only [attributed, Correlator.declarationLine_eq_ask, h]
  rfl

theorem attributed_of_ok {b : FunctionBlock} {home : String} {n : UInt32}
    (h : (v.ask p.correlator.index home b.label).1 = .ok n) :
    attributed v binary traces p b home =
      andThen (declareLabel v b.label home n)
        (andThen (attemptEach (run v binary traces) · b.resolvedRuns)
          (coverLabel b.label home n (b.runs.any traces.hasRun))) p := by
  have hdeclare := p.correlator.document.updateFile_declareFunction home b.label n
  simp only [andThen, declareLabel, Correlator.noting, Document.noteAll_cons, Document.noteAll_nil,
    ← hdeclare]
  simp only [attributed, Correlator.declarationLine_eq_ask, h]
  rfl

theorem writes_declareLabel (h : v.Answers keys line R) (hp : R p.correlator.index y)
    {label home : String} {n : UInt32} (hhome : home ∈ keys)
    (hline : (v.ask p.correlator.index home label).1 = .ok n) :
    Writes line R (declareLabel v label home n) p y := by
  have hlabel := h.told _ _ hp home hhome label n hline
  refine ⟨[⟨home, .function label n false⟩], (v.ask y home label).2,
    Note.declaredBy_of_mem_cons hlabel (by simp), rfl, h.kept _ _ hp home hhome label, ?_⟩
  rintro c rfl
  rfl

theorem writes_coverLabel (hp : R p.correlator.index y) {label home : String} {n : UInt32}
    (hlabel : line home label n) (hasRun : Bool) :
    Writes line R (coverLabel label home n hasRun) p y := by
  cases hasRun with
  | false =>
      exact writes_nothing hp rfl fun c => rfl
  | true =>
      refine ⟨[⟨home, .function label n true⟩], y, Note.declaredBy_of_mem_cons hlabel (by simp),
        p.correlator.document.updateFile_setFunction home label n, hp, ?_⟩
      rintro c rfl
      unfold Correlator.noting
      rw [Document.noteAll_cons, ← Document.updateFile_setFunction]
      rfl

theorem writes_attributed (h : v.Answers keys line R) (hp : R p.correlator.index y)
    {b : FunctionBlock} {home : String} (hhome : home ∈ keys)
    (hruns : ∀ run ∈ b.runs, run.key v.mapping ∈ keys) :
    Writes line R (attributed v binary traces · b home) p y := by
  have hsame := h.same _ _ hp home hhome b.label
  rcases hline : (v.ask p.correlator.index home b.label).1 with e | n
  · have hblock := attributed_of_error binary traces hline
    refine ⟨[], (v.ask y home b.label).2, by simp, ?_, ?_, ?_⟩
    · simp only [hblock]
      rfl
    · simp only [hblock]
      exact h.kept _ _ hp home hhome b.label
    · rintro c rfl
      simp only [hblock, attributed_of_error binary traces (p := p.withCorrelator c)
        (hsame.trans hline)]
      rfl
  · have howned : ∀ owned ∈ b.resolvedRuns, owned.2.key v.mapping ∈ keys := by
      intro owned howned
      refine hruns owned.2 ?_
      rw [← b.map_snd_resolvedRuns]
      exact List.mem_map_of_mem howned
    have hlabel := h.told _ _ hp home hhome b.label n hline
    -- The label is declared, the runs are added, and the label is covered if any of them ran.
    refine Writes.congr (writes_andThen (writes_declareLabel h hp hhome hline) ?_)
      (attributed_of_ok binary traces hline) ?_
    · intro q z hq
      refine writes_andThen (writes_attemptEach ?_ hq) fun q' z' hq' =>
        writes_coverLabel hq' hlabel _
      intro q' z' hq' owned hmem
      exact writes_run binary traces h hq' (howned owned hmem)
    · rintro c rfl
      exact attributed_of_ok binary traces (p := p.withCorrelator c) (hsame.trans hline)

theorem writes_block (h : v.Answers keys line R) (hp : R p.correlator.index y) {b : FunctionBlock}
    (hruns : ∀ run ∈ b.runs, run.key v.mapping ∈ keys) :
    Writes line R (block v binary traces · b) p y := by
  cases hhome : b.homeRun? with
  | none =>
      refine writes_nothing hp ?_ fun c => ?_
      · simp only [block, hhome]
      · simp only [block, hhome]
        rfl
  | some home =>
      have hkey := hruns home (FunctionBlock.home_mem_runs hhome)
      by_cases hactive : p.functions.contains b.label
      · -- The block is counted first.  The document does not decide which functions are active.
        have hcount : Writes line R countBlock p y := writes_nothing hp rfl fun c => rfl
        refine Writes.congr (writes_andThen hcount fun q z hq =>
          writes_attributed binary traces h hq hkey hruns) ?_ fun c _ => ?_
        · simp only [block, hhome, hactive, if_true]
          rfl
        · simp only [block, hhome, withCorrelator, hactive, if_true]
          rfl
      · refine writes_nothing hp ?_ fun c => ?_
        · simp only [block, hhome, hactive]
          rfl
        · simp only [block, hhome, withCorrelator, hactive]
          rfl

end Steps

end Progress

/-! ## Transcripts -/

/-- The files that a transcript names. -/
def BinaryInput.keys (m : SourceMapping) (b : BinaryInput) : List String :=
  (Transcript.blocksOf b.transcript).flatMap fun block => block.runs.map (·.key m)

namespace Correlator

variable {c : Correlator} {v : SourceView} {keys : List String}
  {line : String → String → UInt32 → Prop}
  {R : Option DeclarationIndex → Option DeclarationIndex → Prop} {b : BinaryInput}

/-- A transcript is taken down alike in any two documents, where the binary has the same index and
the declarations are answered alike. -/
theorem take_writes {y : Option DeclarationIndex} (h : v.Answers keys line R) (hc : R c.index y)
    (hkeys : ∀ key ∈ b.keys v.mapping, key ∈ keys) :
    ∃ xs y', (∀ x ∈ xs, Note.DeclaredBy line x) ∧
      (c.take v b).2.correlator.document = c.document.noteAll xs ∧
      R (c.take v b).2.correlator.index y' ∧
      ∀ c' : Correlator, c'.index = y →
        (c'.registry.index b.name).1 = (c.registry.index b.name).1 →
          c'.take v b = ((c.take v b).1, (c.take v b).2.withCorrelator
            ⟨c'.document.noteAll xs, (c'.registry.index b.name).2, y'⟩) := by
  have hblocks : Progress.Writes line R
      (attemptEach (Progress.block v (c.registry.index b.name).1 b.traces) ·
        (Transcript.blocksOf b.transcript))
      { correlator := { c with registry := (c.registry.index b.name).2 }
        functions := b.functions } y := by
    refine Progress.writes_attemptEach ?_ hc
    intro q z hq block hblock
    refine Progress.writes_block _ b.traces h hq ?_
    intro run hrun
    exact hkeys _ (List.mem_flatMap.2 ⟨block, hblock, List.mem_map_of_mem hrun⟩)
  rcases hblocks with ⟨xs, y', hxs, hdocument, hindex, hsame⟩
  refine ⟨xs, y', hxs, hdocument, hindex, ?_⟩
  intro c' hy hbinary
  have htake : c'.take v b =
      attemptEach (Progress.block v (c'.registry.index b.name).1 b.traces)
        ⟨{ c' with registry := (c'.registry.index b.name).2 }, b.functions, {}, []⟩
        (Transcript.blocksOf b.transcript) := rfl
  rw [htake, hbinary]
  exact hsame { c' with registry := (c'.registry.index b.name).2 } hy

/-- A transcript adds to any document what it gives by itself. -/
theorem take_eq_merge (c : Correlator) (v : SourceView) (b : BinaryInput) :
    (c.take v b).1 = (({ c with document := {} } : Correlator).take v b).1 ∧
      (c.take v b).2.correlator.document =
        c.document.merge (({ c with document := {} } : Correlator).take v b).2.correlator.document := by
  -- Nothing is asked of the answers here.
  have hanswers : v.Answers (b.keys v.mapping) (fun _ _ _ => True) Eq := by
    refine ⟨?_, ?_, fun _ _ _ _ _ _ _ _ => trivial⟩
    · rintro x y rfl key _ function
      rfl
    · rintro x y rfl key _ function
      rfl
  rcases take_writes (c := c) hanswers rfl fun _ hkey => hkey with ⟨xs, _, -, hdocument, -, hsame⟩
  rw [hsame { c with document := {} } rfl rfl, hdocument]
  exact ⟨rfl, c.document.noteAll_eq_merge xs⟩

end Correlator

end BinaryCoverage
