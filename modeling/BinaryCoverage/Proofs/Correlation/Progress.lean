import BinaryCoverage.Proofs.Correlation.History
import BinaryCoverage.Proofs.Correlation.Index
import BinaryCoverage.Proofs.Image.Marks
import Mathlib.Data.List.Basic

/-!
# What a correlation adds

Each step of a correlation adds notes to the document and marks functions of the table, both
known beforehand from the transcript.  A failing step leaves a beginning of them.  This file
defines:

* `DoneOf` — how much of a plan has been carried out;
* `Progress.Advances` — a step carries out planned notes and marks;

and shows that runs, blocks and transcripts advance by what their history says
(`correlate_advances`).
-/

namespace BinaryCoverage

open Disassembly (Transcript)

/-! ## Plans -/

/-- All of a plan has been done, or a beginning of it where something has failed. -/
structure DoneOf {α : Type} (failure : Option Failure) (done plan : List α) : Prop where
  begins : done <+: plan
  complete : failure = none → done = plan

namespace DoneOf

variable {α : Type} {failure : Option Failure} {done plan done' plan' : List α}

theorem all : DoneOf failure plan plan := by
  refine ⟨List.prefix_refl plan, ?_⟩
  intro _
  rfl

theorem nothing {e : Failure} : DoneOf (some e) [] plan := by
  refine ⟨List.nil_prefix, ?_⟩
  intro h
  cases h

theorem append (h : DoneOf none done plan) (h' : DoneOf failure done' plan') :
    DoneOf failure (done ++ done') (plan ++ plan') := by
  have hdone : done = plan := h.complete rfl
  subst hdone
  refine ⟨(List.prefix_append_right_inj done).2 h'.begins, ?_⟩
  intro hnone
  rw [h'.complete hnone]

theorem stop {e : Failure} (h : DoneOf (some e) done plan) :
    DoneOf (some e) done (plan ++ plan') := by
  refine ⟨h.begins.trans (List.prefix_append plan plan'), ?_⟩
  intro hnone
  cases hnone

end DoneOf

/-! ## Steps -/

section Steps

variable {σ α : Type} {step : σ → α → Option Failure × σ} {s : σ} {a : α} {rest : List α}

theorem attemptEach_cons_of_none (h : (step s a).1 = none) (rest : List α) :
    attemptEach step s (a :: rest) = attemptEach step (step s a).2 rest := by
  rw [attemptEach]
  split
  · rename_i hresult
    rw [hresult] at h
    cases h
  · rename_i hresult
    rw [hresult]

theorem attemptEach_cons_of_some {e : Failure} (h : (step s a).1 = some e) (rest : List α) :
    attemptEach step s (a :: rest) = (some e, (step s a).2) := by
  rw [attemptEach]
  split
  · rename_i hresult
    rw [hresult] at h ⊢
    rw [← h]
  · rename_i hresult
    rw [hresult] at h
    cases h

/-- Where no step fails, the first one does not. -/
theorem first_of_attemptEach_cons (h : (attemptEach step s (a :: rest)).1 = none) :
    (step s a).1 = none := by
  cases hfirst : (step s a).1 with
  | none =>
      rfl
  | some e =>
      rw [attemptEach_cons_of_some hfirst] at h
      cases h

end Steps

/-- What each step of a sequence respects, the whole sequence respects. -/
theorem attemptEach_respects {σ α : Type} {step : σ → α → Option Failure × σ} {R : σ → σ → Prop}
    (hrefl : ∀ s, R s s) (htrans : ∀ {s t u}, R s t → R t u → R s u) (items : List α)
    (hstep : ∀ s, ∀ a ∈ items, R s (step s a).2) (s : σ) : R s (attemptEach step s items).2 := by
  induction items generalizing s with
  | nil =>
      exact hrefl s
  | cons a rest ih =>
      have hfirst := hstep s a (by simp)
      have hrest := ih fun t b hb => hstep t b (by simp [hb])
      cases hfailure : (step s a).1 with
      | none =>
          rw [attemptEach_cons_of_none hfailure]
          exact htrans hfirst (hrest (step s a).2)
      | some e =>
          rw [attemptEach_cons_of_some hfailure]
          exact hfirst

/-- An invariant under which no step fails. -/
theorem attemptEach_invariant {σ α : Type} {step : σ → α → Option Failure × σ} (P : σ → Prop)
    (items : List α) (hstep : ∀ s, P s → ∀ a ∈ items, (step s a).1 = none ∧ P (step s a).2) {s : σ}
    (hs : P s) : (attemptEach step s items).1 = none ∧ P (attemptEach step s items).2 := by
  induction items generalizing s with
  | nil =>
      exact ⟨rfl, hs⟩
  | cons a rest ih =>
      obtain ⟨hfirst, hP⟩ := hstep s hs a List.mem_cons_self
      rw [attemptEach_cons_of_none hfirst]
      exact ih (fun s hs b hb => hstep s hs b (List.mem_cons_of_mem a hb)) hP

namespace Progress

variable {m : SourceMapping} {v : SourceView} {binary : UInt32} {traces : TraceStore}

/-- A step carries out planned notes and marks, and leaves the registry alone. -/
structure Advances (p : Progress) (notes : List Note) (marks : List String)
    (r : Option Failure × Progress) : Prop where
  document : ∃ xs, DoneOf r.1 (xs.map Note.bare) notes ∧
    r.2.correlator.document = p.correlator.document.noteAll xs
  functions : ∃ names, DoneOf r.1 names marks ∧ r.2.functions = p.functions.markAll names
  registry : r.2.correlator.registry = p.correlator.registry
  index : Option.Rel DeclarationIndex.Extends p.correlator.index r.2.correlator.index

namespace Advances

variable {p q : Progress} {notes notes' : List Note} {marks marks' : List String}
  {r : Option Failure × Progress}

/-- A step that only counts and reports. -/
theorem same (hcorrelator : q.correlator = p.correlator) (hfunctions : q.functions = p.functions) :
    p.Advances [] [] (none, q) := by
  refine ⟨⟨[], DoneOf.all, ?_⟩, ⟨[], DoneOf.all, hfunctions⟩, ?_, ?_⟩
  · rw [hcorrelator]
    rfl
  · rw [hcorrelator]
  · rw [hcorrelator]
    exact DeclarationIndex.rel_refl _

theorem refl (p : Progress) : p.Advances [] [] (none, p) := same rfl rfl

theorem append (h : p.Advances notes marks (none, q)) (h' : q.Advances notes' marks' r) :
    p.Advances (notes ++ notes') (marks ++ marks') r := by
  rcases h with ⟨⟨xs, hxs, hdocument⟩, ⟨ns, hns, hfunctions⟩, hregistry, hindex⟩
  rcases h' with ⟨⟨ys, hys, hdocument'⟩, ⟨ms, hms, hfunctions'⟩, hregistry', hindex'⟩
  refine ⟨⟨xs ++ ys, ?_, ?_⟩, ⟨ns ++ ms, hns.append hms, ?_⟩, hregistry'.trans hregistry,
    DeclarationIndex.rel_trans hindex hindex'⟩
  · rw [List.map_append]
    exact hxs.append hys
  · rw [hdocument', hdocument, Document.noteAll_append]
  · rw [hfunctions', hfunctions, FunctionTable.markAll_append]

theorem of_same (h : q.Advances notes marks r) (hcorrelator : q.correlator = p.correlator)
    (hfunctions : q.functions = p.functions) : p.Advances notes marks r :=
  (same hcorrelator hfunctions).append h

theorem stop {e : Failure} (h : p.Advances notes marks (some e, q)) :
    p.Advances (notes ++ notes') (marks ++ marks') (some e, q) := by
  rcases h with ⟨⟨xs, hxs, hdocument⟩, ⟨ns, hns, hfunctions⟩, hregistry, hindex⟩
  exact ⟨⟨xs, hxs.stop, hdocument⟩, ⟨ns, hns.stop, hfunctions⟩, hregistry, hindex⟩

theorem contains_eq (h : p.Advances notes marks r) (name : String) :
    r.2.functions.contains name = p.functions.contains name := by
  rcases h.functions with ⟨names, -, hfunctions⟩
  rw [hfunctions, FunctionTable.contains_markAll]

end Advances

/-- What each step of a sequence plans, the whole sequence plans.  The plan of a step may depend
on which functions are active, for that does not change on the way. -/
theorem attemptEach_advances {α : Type} {step : Progress → α → Option Failure × Progress}
    {notes : α → List Note} {marks : α → List String} (p : Progress) (items : List α)
    (hstep : ∀ q : Progress, (∀ name, q.functions.contains name = p.functions.contains name) →
      ∀ a ∈ items, q.Advances (notes a) (marks a) (step q a)) :
    p.Advances (items.flatMap notes) (items.flatMap marks) (attemptEach step p items) := by
  induction items generalizing p with
  | nil =>
      exact Advances.refl p
  | cons a rest ih =>
      have hfirst := hstep p (fun _ => rfl) a (by simp)
      rw [List.flatMap_cons, List.flatMap_cons, attemptEach]
      rcases hresult : step p a with ⟨_ | e, q⟩
      · rw [hresult] at hfirst
        -- Marking leaves the same functions active, so that the plan of the rest still stands.
        refine hfirst.append (ih q ?_)
        intro q' hq' b hb
        refine hstep q' ?_ b (by simp [hb])
        intro name
        rw [hq', hfirst.contains_eq]
      · rw [hresult] at hfirst
        -- The rest is planned and never reached.
        exact hfirst.stop

end Progress

/-! ## Declaration lines -/

namespace Correlator

/-- A correlator has done no more than ask for declarations. -/
structure OnlyAsks (c d : Correlator) : Prop where
  document : d.document = c.document
  registry : d.registry = c.registry
  index : Option.Rel DeclarationIndex.Extends c.index d.index

theorem onlyAsks_declarationLine (c : Correlator) (v : SourceView) (key function : String) :
    c.OnlyAsks (c.declarationLine v key function).2 := by
  rcases c with ⟨document, registry, _ | x⟩
  · exact ⟨rfl, rfl, Option.Rel.none⟩
  · exact ⟨rfl, rfl, Option.Rel.some (DeclarationIndex.extends_lineNumber x _ _ function)⟩

end Correlator

/-! ## Runs and blocks -/

namespace Progress

variable (v : SourceView) (binary : UInt32) (traces : TraceStore)

theorem map_bare_notes (m : SourceMapping) (owner : String) (line : UInt32)
    (sourceRun : SourceRun) :
    (sourceRun.notes m binary traces owner line).map Note.bare =
      sourceRun.notes m binary traces owner 0 := by
  simp [SourceRun.notes, Note.bare, Function.comp_def]

theorem updateFile_recordRun (d : Document) (m : SourceMapping) (owner : String) (line : UInt32)
    (sourceRun : SourceRun) :
    d.updateFile (sourceRun.key m) (·.recordRun binary traces owner line sourceRun) =
      d.noteAll (sourceRun.notes m binary traces owner line) := by
  -- The notes of a run are all about its file, so that file alone takes them in.
  have hnotes : sourceRun.notes m binary traces owner line =
      (Finding.function owner line (traces.hasRun sourceRun) :: Finding.line sourceRun.line ::
        sourceRun.instructions.map fun i =>
          Finding.instruction sourceRun.line binary i.address
            ⟨i.opcode, traces.count i.address⟩).map (⟨sourceRun.key m, ·⟩) := by
    simp [SourceRun.notes, Function.comp_def]
  rw [hnotes, Document.noteAll_map_key]
  congr 1
  funext c
  exact c.recordRun_eq_foldl_note binary traces owner line sourceRun

theorem run_advances (p : Progress) (owned : String × SourceRun) :
    p.Advances (owned.2.notes v.mapping binary traces owned.1 0) [owned.1]
      (run v binary traces p owned) := by
  rcases owned with ⟨owner, sourceRun⟩
  have hasks := p.correlator.onlyAsks_declarationLine v (sourceRun.key v.mapping) owner
  -- The function is marked before its declaration line is asked for.
  have hmark : ∀ failure, ∃ names, DoneOf failure names [owner] ∧
      p.functions.mark owner = p.functions.markAll names :=
    fun _ => ⟨[owner], DoneOf.all, rfl⟩
  unfold SourceRun.key at hasks
  unfold run
  dsimp only
  rcases hline : p.correlator.declarationLine v (v.mapping.keyOfBuilt ⟨sourceRun.file⟩) owner
    with ⟨e | line, c⟩
  · rw [hline] at hasks
    -- Without a declaration line nothing of the run is noted.
    exact ⟨⟨[], DoneOf.nothing, hasks.document⟩, hmark _, hasks.registry, hasks.index⟩
  · rw [hline] at hasks
    refine ⟨⟨sourceRun.notes v.mapping binary traces owner line, ?_, ?_⟩, hmark _,
      hasks.registry, hasks.index⟩
    · rw [map_bare_notes]
      exact DoneOf.all
    · have hdocument : c.document = p.correlator.document := hasks.document
      rw [← hdocument]
      exact updateFile_recordRun binary traces c.document v.mapping owner line sourceRun

theorem runs_advance (p : Progress) (runs : List (String × SourceRun)) :
    p.Advances (runs.flatMap fun owned => owned.2.notes v.mapping binary traces owned.1 0)
      (runs.map (·.1)) (attemptEach (run v binary traces) p runs) := by
  rw [List.map_eq_flatMap]
  refine attemptEach_advances p runs ?_
  intro q _ owned _
  exact run_advances v binary traces q owned

section Function

variable {p q : Progress} {key label : String} {line : UInt32}

theorem advances_declare {c : Correlator} (hasks : p.correlator.OnlyAsks c)
    (hcorrelator : q.correlator = c.updateFile key (·.declareFunction label line))
    (hfunctions : q.functions = p.functions.mark label) :
    p.Advances [⟨key, .function label 0 false⟩] [label] (none, q) := by
  refine ⟨⟨[⟨key, .function label line false⟩], DoneOf.all, ?_⟩, ⟨[label], DoneOf.all, hfunctions⟩,
    ?_, ?_⟩
  · dsimp only
    rw [hcorrelator, ← hasks.document]
    exact c.document.updateFile_declareFunction key label line
  · dsimp only
    rw [hcorrelator]
    exact hasks.registry
  · dsimp only
    rw [hcorrelator]
    exact hasks.index

theorem advances_cover
    (hcorrelator : q.correlator = p.correlator.updateFile key (·.setFunction label line true))
    (hfunctions : q.functions = p.functions) :
    p.Advances [⟨key, .function label 0 true⟩] [] (none, q) := by
  refine ⟨⟨[⟨key, .function label line true⟩], DoneOf.all, ?_⟩, ⟨[], DoneOf.all, hfunctions⟩,
    ?_, ?_⟩
  · dsimp only
    rw [hcorrelator]
    exact p.correlator.document.updateFile_setFunction key label line
  · dsimp only
    rw [hcorrelator]
    rfl
  · dsimp only
    rw [hcorrelator]
    exact DeclarationIndex.rel_refl _

end Function

theorem attributed_advances (p : Progress) (b : FunctionBlock) {home : SourceRun}
    (hhome : b.homeRun? = some home) :
    p.Advances (CountedBlock.notes v.mapping ⟨binary, traces, b, home, hhome⟩)
      (CountedBlock.marks ⟨binary, traces, b, home, hhome⟩)
      (attributed v binary traces p b (home.key v.mapping)) := by
  have hasks := p.correlator.onlyAsks_declarationLine v (home.key v.mapping) b.label
  -- The steps of a block mark its label, then the owners of its runs, then nothing more.
  have hmarks : CountedBlock.marks ⟨binary, traces, b, home, hhome⟩ =
      [b.label] ++ (b.resolvedRuns.map (·.1) ++ []) := by
    simp [CountedBlock.marks]
  rw [hmarks]
  unfold attributed CountedBlock.notes CountedBlock.hasRun
  dsimp only
  rcases hline : p.correlator.declarationLine v (home.key v.mapping) b.label with ⟨e | line, c⟩
  · rw [hline] at hasks
    -- The label has been marked, and its runs are not reached.
    exact ⟨⟨[], DoneOf.nothing, hasks.document⟩, ⟨[b.label], DoneOf.all.stop, rfl⟩,
      hasks.registry, hasks.index⟩
  · rw [hline] at hasks
    dsimp only
    generalize hdeclared : Progress.mk _ _ _ _ = q
    have hfirst : p.Advances [⟨home.key v.mapping, .function b.label 0 false⟩] [b.label]
        (none, q) := by
      subst hdeclared
      exact advances_declare hasks rfl rfl
    have hruns := runs_advance v binary traces q b.resolvedRuns
    rcases hresult : attemptEach (run v binary traces) q b.resolvedRuns with ⟨_ | e, q'⟩
    · rw [hresult] at hruns
      -- All runs are recorded, and the label is covered in the end if any of them ran.
      refine hfirst.append (hruns.append ?_)
      dsimp only
      split
      · exact advances_cover rfl rfl
      · exact Advances.refl q'
    · rw [hresult] at hruns
      exact hfirst.append hruns.stop

/-- A block that does not count changes nothing but counters and notices. -/
theorem block_advances (p : Progress) (b : FunctionBlock) :
    p.Advances
      ((b.counted? p.functions binary traces).toList.flatMap (CountedBlock.notes v.mapping))
      ((b.counted? p.functions binary traces).toList.flatMap CountedBlock.marks)
      (block v binary traces p b) := by
  unfold block FunctionBlock.counted?
  dsimp only
  split
  · rename_i hhome
    simp only [hhome]
    exact Advances.same rfl rfl
  · rename_i home hhome
    simp only [hhome]
    split
    · simp only [Option.toList_some, List.flatMap_singleton]
      exact (attributed_advances v binary traces _ b hhome).of_same rfl rfl
    · exact Advances.same rfl rfl

end Progress

/-! ## Transcripts -/

namespace Correlator

variable {c : Correlator} {v : SourceView} {b : BinaryInput}

/-- Correlates a binary. -/
def take (c : Correlator) (v : SourceView) (b : BinaryInput) : Option Failure × Progress :=
  c.correlate v b.name b.transcript b.functions b.traces

/-- What the transcript of a binary adds, even when it is cut short. -/
structure Takes (c : Correlator) (v : SourceView) (b : BinaryInput)
    (r : Option Failure × Progress) : Prop where
  document : ∃ xs, DoneOf r.1 (xs.map Note.bare)
      ((b.counted (c.registry.index b.name).1).flatMap (CountedBlock.notes v.mapping)) ∧
    r.2.correlator.document = c.document.noteAll xs
  functions : ∃ names, DoneOf r.1 names
      ((b.counted (c.registry.index b.name).1).flatMap CountedBlock.marks) ∧
    r.2.functions = b.functions.markAll names
  registry : r.2.correlator.registry = (c.registry.index b.name).2
  index : Option.Rel DeclarationIndex.Extends c.index r.2.correlator.index

theorem flatMap_counted {α : Type} (b : BinaryInput) (binary : UInt32) (f : CountedBlock → List α) :
    (b.counted binary).flatMap f =
      (Transcript.blocksOf b.transcript).flatMap fun block =>
        (block.counted? b.functions binary b.traces).toList.flatMap f := by
  rw [BinaryInput.counted, List.filterMap_eq_flatMap_toList, List.flatMap_assoc]

theorem take_spec (c : Correlator) (v : SourceView) (b : BinaryInput) :
    c.Takes v b (c.take v b) := by
  have hblocks : Progress.Advances
      { correlator := { c with registry := (c.registry.index b.name).2 }, functions := b.functions }
      ((b.counted (c.registry.index b.name).1).flatMap (CountedBlock.notes v.mapping))
      ((b.counted (c.registry.index b.name).1).flatMap CountedBlock.marks) (c.take v b) := by
    rw [flatMap_counted, flatMap_counted]
    refine Progress.attemptEach_advances _ _ ?_
    intro q hq block _
    -- Whether a block counts depends on the active functions, which are those of the start.
    have hcounted : block.counted? q.functions (c.registry.index b.name).1 b.traces =
        block.counted? b.functions (c.registry.index b.name).1 b.traces := by
      simp only [FunctionBlock.counted?, hq]
    rw [← hcounted]
    exact Progress.block_advances v _ b.traces q block
  exact ⟨hblocks.document, hblocks.functions, hblocks.registry, hblocks.index⟩

end Correlator

end BinaryCoverage
