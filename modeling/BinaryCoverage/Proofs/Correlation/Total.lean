import BinaryCoverage.Proofs.Correlation.Exactness

/-!
# Sources that answer

A correlation fails only where a look-up does.  This file defines:

* `DeclarationSource.Total` — a source that can be asked for any path;

and shows that binaries are correlated to the last one where each source is total
(`correlateAll_succeeds`).
-/

namespace BinaryCoverage

/-- Steps that never fail are all taken. -/
theorem attemptEach_succeeds {σ α : Type} {step : σ → α → Option Failure × σ} (items : List α)
    (hstep : ∀ s, ∀ a ∈ items, (step s a).1 = none) (s : σ) :
    (attemptEach step s items).1 = none :=
  (attemptEach_invariant (fun _ => True) items (fun s _ a ha => ⟨hstep s a ha, trivial⟩) trivial).1

/-- A source that can be asked for any path. -/
def DeclarationSource.Total (s : DeclarationSource) : Prop := ∀ p, ∃ d, s.lookup p = .ok d

theorem DeclarationIndex.declarations_succeeds {s : DeclarationSource} (hs : s.Total)
    (x : DeclarationIndex) (p : Path) : ∃ d, (x.declarations s p).1 = .ok d := by
  rcases hs p with ⟨d, hd⟩
  unfold declarations fetch
  split
  · exact ⟨_, rfl⟩
  · rw [hd]
    split
    · exact ⟨d, rfl⟩
    · exact ⟨∅, rfl⟩

theorem Correlator.declarationLine_succeeds {v : SourceView} (hv : v.declarations.Total)
    (c : Correlator) (key function : String) :
    ∃ line, (c.declarationLine v key function).1 = .ok line := by
  rcases c with ⟨document, registry, _ | x⟩
  · exact ⟨0, rfl⟩
  · rcases x.declarations_succeeds hv (v.mapping.localPath key) with ⟨d, hd⟩
    refine ⟨d[function]?.getD 0, ?_⟩
    unfold declarationLine DeclarationIndex.lineNumber DeclarationIndex.line?
    dsimp only
    rw [hd]
    rfl

namespace Progress

variable {v : SourceView} {binary : UInt32} {traces : TraceStore}

theorem run_succeeds (hv : v.declarations.Total) (p : Progress) (owned : String × SourceRun) :
    (run v binary traces p owned).1 = none := by
  rcases owned with ⟨owner, sourceRun⟩
  rcases p.correlator.declarationLine_succeeds hv (sourceRun.key v.mapping) owner with
    ⟨line, hline⟩
  unfold SourceRun.key at hline
  unfold run
  dsimp only
  rcases hanswer : p.correlator.declarationLine v (v.mapping.keyOfBuilt ⟨sourceRun.file⟩) owner
    with ⟨answer, c⟩
  rw [hanswer] at hline
  cases hline
  rfl

theorem attributed_succeeds (hv : v.declarations.Total) (p : Progress) (b : FunctionBlock)
    (home : String) : (attributed v binary traces p b home).1 = none := by
  rcases p.correlator.declarationLine_succeeds hv home b.label with ⟨line, hline⟩
  unfold attributed
  dsimp only
  rcases hanswer : p.correlator.declarationLine v home b.label with ⟨answer, c⟩
  rw [hanswer] at hline
  cases hline
  dsimp only
  generalize Progress.mk _ _ _ _ = q
  have hruns : (attemptEach (run v binary traces) q b.resolvedRuns).1 = none :=
    attemptEach_succeeds _ (fun q' owned _ => run_succeeds hv q' owned) q
  rcases hresult : attemptEach (run v binary traces) q b.resolvedRuns with ⟨failure, q'⟩
  rw [hresult] at hruns
  cases hruns
  dsimp only
  split
  · rfl
  · rfl

theorem block_succeeds (hv : v.declarations.Total) (p : Progress) (b : FunctionBlock) :
    (block v binary traces p b).1 = none := by
  unfold block
  dsimp only
  split
  · rfl
  · split
    · exact attributed_succeeds hv _ b _
    · rfl

end Progress

namespace Correlator

theorem take_succeeds {v : SourceView} (hv : v.declarations.Total) (c : Correlator)
    (b : BinaryInput) : (c.take v b).1 = none :=
  attemptEach_succeeds _ (fun p block _ => Progress.block_succeeds hv p block) _

/-- A correlation fails only where a look-up does. -/
theorem correlateAll_succeeds {inputs : List (DeclarationSource × BinaryInput)}
    (hinputs : ∀ input ∈ inputs, input.1.Total) (c : Correlator) (m : SourceMapping) :
    (c.correlateAll m inputs).1 = none := by
  refine attemptEach_succeeds inputs ?_ c
  intro d input hinput
  exact take_succeeds (v := ⟨m, input.1⟩) (hinputs input hinput) d input.2

end Correlator

end BinaryCoverage
