import BinaryCoverage.Proofs.Correlation.Attribution
import BinaryCoverage.Proofs.Correlation.Frame
import BinaryCoverage.Proofs.Correlation.Registry
import BinaryCoverage.Proofs.Correlation.Total
import BinaryCoverage.Proofs.Coverage.Algebra

/-!
# Correlating again

A correlation that has succeeded leaves an index that knows every file it has asked about.  From
then on the same transcript asks for nothing, marks the same functions and takes down the same
notes, which a document that has them takes in without a change.  This file defines:

* `SourceView.withSource` — the view with other declarations;
* `Progress.Repeats` — a step does the same again where everything it asks for is known;

and shows that correlating a binary once more leaves everything as it is (`take_take`).
-/

namespace BinaryCoverage

open Disassembly (Transcript)

/-! ## Questions that have been answered -/

namespace SourceView

/-- The same paths, whatever has become of the files. -/
def withSource (v : SourceView) (s : DeclarationSource) : SourceView := { v with declarations := s }

variable {v : SourceView} {x y : Option DeclarationIndex} {key function : String} {n : UInt32}

theorem extends_ask (v : SourceView) (x : Option DeclarationIndex) (key function : String) :
    Option.Rel DeclarationIndex.Extends x (v.ask x key function).2 := by
  cases x with
  | none =>
      exact Option.Rel.none
  | some x =>
      exact Option.Rel.some (x.extends_lineNumber _ _ function)

/-- An index that has learnt the answer gives it again, whatever the source says by now. -/
theorem ask_again (h : (v.ask x key function).1 = .ok n)
    (hy : Option.Rel DeclarationIndex.Extends (v.ask x key function).2 y) (s : DeclarationSource) :
    (v.withSource s).ask y key function = (.ok n, y) := by
  cases x with
  | none =>
      cases hy
      cases h
      rfl
  | some x =>
      unfold ask at h hy ⊢
      dsimp only at h hy ⊢
      rcases hline : x.lineNumber v.declarations (v.mapping.localPath key) function with ⟨e | _, x⟩
      · rw [hline] at h
        cases h
      · rw [hline] at h hy
        cases h
        cases hy with
        | some hextends =>
            dsimp only
            rw [withSource, DeclarationIndex.lineNumber_again hline hextends s]

end SourceView

/-! ## Notes that are there -/

theorem Document.noteAll_noteAll (d : Document) (xs : List Note) :
    (d.noteAll xs).noteAll xs = d.noteAll xs := by
  have hassoc : ∀ e : Document, (d.merge e).merge e = d.merge (e.merge e) := fun e =>
    Std.Associative.assoc d e e
  have hidempotent : ∀ e : Document, e.merge e = e := Std.IdempotentOp.idempotent
  rw [(d.noteAll xs).noteAll_eq_merge, d.noteAll_eq_merge, hassoc, hidempotent]

namespace Progress

/-- The state with another correlator and another function table. -/
def replaced (p : Progress) (c : Correlator) (functions : FunctionTable) : Progress :=
  { p with correlator := c, functions }

/-- A step only learns, and where it succeeds the second step does the same once more: with an index
that knows what has been learnt it takes down the same notes and marks the same functions. -/
structure Repeats (step again : Progress → Option Failure × Progress) (p : Progress) : Prop where
  learns : Option.Rel DeclarationIndex.Extends p.correlator.index (step p).2.correlator.index
  same : (step p).1 = none → ∃ xs names,
    (step p).2.correlator.document = p.correlator.document.noteAll xs ∧
      (step p).2.functions = p.functions.markAll names ∧
      ∀ c functions, Option.Rel DeclarationIndex.Extends (step p).2.correlator.index c.index →
        (∀ name, functions.contains name = p.functions.contains name) →
          again (p.replaced c functions) =
            (none, (step p).2.replaced (c.noting xs c.index) (functions.markAll names))

variable {v : SourceView} {s : DeclarationSource} {p : Progress}
  {first first' second second' : Progress → Option Failure × Progress}

theorem Repeats.andThen (hfirst : Repeats first first' p)
    (hsecond : ∀ q, Repeats second second' q) :
    Repeats (andThen first second) (andThen first' second') p := by
  rcases hresult : first p with ⟨_ | e, q⟩
  · obtain ⟨hlearns, hsame⟩ := hfirst
    rw [hresult] at hlearns hsame
    obtain ⟨xs, names, hdocument, hfunctions, hagain⟩ := hsame rfl
    obtain ⟨hlearns', hsame'⟩ := hsecond q
    refine ⟨?_, ?_⟩
    · simpa only [Progress.andThen, hresult] using DeclarationIndex.rel_trans hlearns hlearns'
    · intro hsucceeds
      simp only [Progress.andThen, hresult] at hsucceeds ⊢
      obtain ⟨ys, names', hdocument', hfunctions', hagain'⟩ := hsame' hsucceeds
      refine ⟨xs ++ ys, names ++ names', ?_, ?_, ?_⟩
      · rw [hdocument', hdocument, Document.noteAll_append]
      · rw [hfunctions', hfunctions, FunctionTable.markAll_append]
      · intro c functions hknows hcontains
        -- What the first step has learnt is known, as the second one has forgotten nothing.
        rw [hagain c functions (DeclarationIndex.rel_trans hlearns' hknows) hcontains]
        dsimp only
        refine (hagain' (c.noting xs c.index) (functions.markAll names) hknows ?_).trans ?_
        · intro name
          rw [FunctionTable.contains_markAll, hcontains, hfunctions, FunctionTable.contains_markAll]
        · simp only [Correlator.noting, Document.noteAll_append, FunctionTable.markAll_append]
  · refine ⟨?_, ?_⟩
    · simpa only [Progress.andThen, hresult] using hfirst.learns
    · intro hsucceeds
      simp [Progress.andThen, hresult] at hsucceeds

theorem Repeats.congr {step step' again again' : Progress → Option Failure × Progress}
    (h : Repeats step' again' p) (hp : step p = step' p)
    (hagain : ∀ c functions,
      Option.Rel DeclarationIndex.Extends (step' p).2.correlator.index c.index →
        (∀ name, functions.contains name = p.functions.contains name) →
          again (p.replaced c functions) = again' (p.replaced c functions)) :
    Repeats step again p := by
  obtain ⟨hlearns, hsame⟩ := h
  refine ⟨hp ▸ hlearns, ?_⟩
  rw [hp]
  intro hsucceeds
  obtain ⟨xs, names, hdocument, hfunctions, hsteps⟩ := hsame hsucceeds
  refine ⟨xs, names, hdocument, hfunctions, ?_⟩
  intro c functions hknows hcontains
  rw [hagain c functions hknows hcontains]
  exact hsteps c functions hknows hcontains

/-- A step that counts and reports only. -/
theorem repeats_nothing {step again : Progress → Option Failure × Progress}
    (hcorrelator : (step p).2.correlator = p.correlator)
    (hfunctions : (step p).2.functions = p.functions)
    (hsame : ∀ c functions, (∀ name, functions.contains name = p.functions.contains name) →
      again (p.replaced c functions) = (none, (step p).2.replaced c functions)) :
    Repeats step again p := by
  refine ⟨?_, fun _ => ⟨[], [], ?_, hfunctions, ?_⟩⟩
  · rw [hcorrelator]
    exact DeclarationIndex.rel_refl _
  · rw [hcorrelator]
    rfl
  · intro c functions _ hcontains
    exact hsame c functions hcontains

/-- A step that fails has nothing to do again. -/
theorem repeats_of_error {step again : Progress → Option Failure × Progress} {e : Failure}
    (hfails : (step p).1 = some e)
    (hlearns : Option.Rel DeclarationIndex.Extends p.correlator.index (step p).2.correlator.index) :
    Repeats step again p := by
  refine ⟨hlearns, ?_⟩
  intro hsucceeds
  rw [hfails] at hsucceeds
  cases hsucceeds

theorem repeats_attemptEach {α : Type} {step again : Progress → α → Option Failure × Progress}
    {items : List α} (hstep : ∀ q, ∀ a ∈ items, Repeats (step · a) (again · a) q) (p : Progress) :
    Repeats (attemptEach step · items) (attemptEach again · items) p := by
  induction items generalizing p with
  | nil =>
      exact repeats_nothing rfl rfl fun c functions _ => rfl
  | cons a rest ih =>
      -- What the first item has learnt must still be known after the others.
      refine Repeats.congr ((hstep p a List.mem_cons_self).andThen ?_)
        (attemptEach_cons step p a rest) fun c functions _ _ => attemptEach_cons again _ a rest
      intro q
      exact ih (fun q b hb => hstep q b (List.mem_cons_of_mem a hb)) q

/-! ## Runs and blocks -/

section Steps

variable (v s) (binary : UInt32) (traces : TraceStore)

theorem repeats_run (owned : String × SourceRun) (p : Progress) :
    Repeats (run v binary traces · owned) (run (v.withSource s) binary traces · owned) p := by
  rcases owned with ⟨owner, sourceRun⟩
  have hlearns := v.extends_ask p.correlator.index (sourceRun.key v.mapping) owner
  rcases hline : (v.ask p.correlator.index (sourceRun.key v.mapping) owner).1 with e | n
  · have hrun := run_of_error binary traces hline
    refine repeats_of_error (e := e) ?_ ?_
    · rw [hrun]
    · rw [hrun]
      exact hlearns
  · have hrun := run_of_ok binary traces hline
    refine ⟨?_, fun _ => ⟨sourceRun.notes v.mapping binary traces owner n, [owner], ?_, ?_, ?_⟩⟩
    · rw [hrun]
      exact hlearns
    · rw [hrun]
      rfl
    · rw [hrun]
      rfl
    · -- The line of the owner is known by now, so that the same notes are made of it.
      intro c functions hknows _
      rw [hrun] at hknows ⊢
      have hask := SourceView.ask_again hline hknows s
      have hagain : run (v.withSource s) binary traces (p.replaced c functions)
          (owner, sourceRun) = _ :=
        run_of_ok binary traces (congrArg Prod.fst hask)
      dsimp only at hagain ⊢
      rw [hagain]
      dsimp only [replaced]
      rw [show (v.withSource s).mapping = v.mapping from rfl, hask]
      rfl

theorem repeats_declareLabel {label home : String} {n : UInt32}
    (hline : (v.ask p.correlator.index home label).1 = .ok n) :
    Repeats (declareLabel v label home n) (declareLabel (v.withSource s) label home n) p := by
  refine ⟨v.extends_ask _ home label, fun _ =>
    ⟨[⟨home, .function label n false⟩], [label], rfl, rfl, ?_⟩⟩
  intro c functions hknows _
  have hask := SourceView.ask_again hline hknows s
  unfold declareLabel replaced
  dsimp only
  rw [hask]
  rfl

theorem repeats_coverLabel (label home : String) (n : UInt32) (hasRun : Bool) (p : Progress) :
    Repeats (coverLabel label home n hasRun) (coverLabel label home n hasRun) p := by
  cases hasRun with
  | false =>
      exact repeats_nothing rfl rfl fun c functions _ => rfl
  | true =>
      refine ⟨DeclarationIndex.rel_refl _, fun _ => ⟨[⟨home, .function label n true⟩], [],
        p.correlator.document.updateFile_setFunction home label n, rfl, ?_⟩⟩
      intro c functions _ _
      unfold Correlator.noting
      rw [Document.noteAll_cons, ← Document.updateFile_setFunction]
      rfl

theorem repeats_attributed (b : FunctionBlock) (home : String) (p : Progress) :
    Repeats (attributed v binary traces · b home)
      (attributed (v.withSource s) binary traces · b home) p := by
  rcases hline : (v.ask p.correlator.index home b.label).1 with e | n
  · have hblock := attributed_of_error binary traces hline
    refine repeats_of_error (e := e) ?_ ?_
    · rw [hblock]
    · rw [hblock]
      exact v.extends_ask _ home b.label
  · have hrest : ∀ q, Repeats
        (Progress.andThen (attemptEach (run v binary traces) · b.resolvedRuns)
          (coverLabel b.label home n (b.runs.any traces.hasRun)))
        (Progress.andThen (attemptEach (run (v.withSource s) binary traces) · b.resolvedRuns)
          (coverLabel b.label home n (b.runs.any traces.hasRun))) q := by
      intro q
      have hruns : Repeats (attemptEach (run v binary traces) · b.resolvedRuns)
          (attemptEach (run (v.withSource s) binary traces) · b.resolvedRuns) q :=
        repeats_attemptEach (fun q' owned _ => repeats_run v s binary traces owned q') q
      exact hruns.andThen fun q' => repeats_coverLabel b.label home n _ q'
    refine Repeats.congr ((repeats_declareLabel v s hline).andThen hrest)
      (attributed_of_ok binary traces hline) ?_
    intro c functions hknows _
    -- The line of the label has been learnt before the runs, which have forgotten nothing.
    have hlabel :=
      DeclarationIndex.rel_trans (hrest (declareLabel v b.label home n p).2).learns hknows
    exact attributed_of_ok binary traces (v := v.withSource s) (p := p.replaced c functions)
      (congrArg Prod.fst (SourceView.ask_again hline hlabel s))

theorem repeats_block (b : FunctionBlock) (p : Progress) :
    Repeats (block v binary traces · b) (block (v.withSource s) binary traces · b) p := by
  cases hhome : b.homeRun? with
  | none =>
      refine repeats_nothing ?_ ?_ fun c functions _ => ?_
      · simp only [block, hhome]
      · simp only [block, hhome]
      · simp only [block, hhome]
        rfl
  | some home =>
      by_cases hactive : p.functions.contains b.label
      · have hcount : Repeats countBlock countBlock p :=
          repeats_nothing rfl rfl fun c functions _ => rfl
        refine Repeats.congr (hcount.andThen fun q =>
          repeats_attributed v s binary traces b (home.key v.mapping) q) ?_ ?_
        · simp only [block, hhome, hactive, if_true]
          rfl
        · -- Marks do not change which functions are active, so that the block counts again.
          intro c functions _ hcontains
          simp only [block, hhome, replaced, hcontains, hactive, if_true]
          rfl
      · refine repeats_nothing ?_ ?_ fun c functions hcontains => ?_
        · simp only [block, hhome, hactive]
          rfl
        · simp only [block, hhome, hactive]
          rfl
        · simp only [block, hhome, replaced, hcontains, hactive]
          rfl

end Steps

end Progress

/-! ## Transcripts -/

theorem BinaryRegistry.index_index (r : BinaryRegistry) (name : String) :
    (r.index name).2.index name = r.index name := by
  have hassigned : (r.index name).2.assigned[name]? = some (r.index name).1 := by
    rw [assigned_index, if_pos rfl]
  rw [index, hassigned]

namespace Correlator

variable {c : Correlator} {v : SourceView} {b : BinaryInput}

/-- A binary that is known by its name leaves the registry as it is. -/
theorem take_of_index {i : UInt32} (h : c.registry.index b.name = (i, c.registry)) :
    c.take v b = attemptEach (Progress.block v i b.traces)
      { correlator := c, functions := b.functions } (Transcript.blocksOf b.transcript) := by
  unfold take correlate
  rw [h]

/-- Correlating a binary once more tells, counts and reports the same and changes nothing, neither
the document nor the registry, nor the function table, nor what is known of declarations. -/
theorem take_take (hsucceeds : (c.take v b).1 = none) (s : DeclarationSource) :
    (c.take v b).2.correlator.take (v.withSource s)
        { b with functions := (c.take v b).2.functions } = (none, (c.take v b).2) := by
  have hblocks := Progress.repeats_attemptEach
    (fun q (block : FunctionBlock) (_ : block ∈ Transcript.blocksOf b.transcript) =>
      Progress.repeats_block v s (c.registry.index b.name).1 b.traces block q)
    { correlator := { c with registry := (c.registry.index b.name).2 }, functions := b.functions }
  obtain ⟨xs, names, hdocument, hfunctions, hagain⟩ := hblocks.same hsucceeds
  change (c.take v b).2.correlator.document = c.document.noteAll xs at hdocument
  change (c.take v b).2.functions = b.functions.markAll names at hfunctions
  -- The second time the binary has its index, and the same functions are active.
  have hindex : (c.take v b).2.correlator.registry.index b.name =
      ((c.registry.index b.name).1, (c.take v b).2.correlator.registry) := by
    rw [(c.take_spec v b).registry, BinaryRegistry.index_index]
  have hcontains : ∀ name, (c.take v b).2.functions.contains name = b.functions.contains name := by
    intro name
    rw [hfunctions, FunctionTable.contains_markAll]
  have hsecond := hagain (c.take v b).2.correlator (c.take v b).2.functions
    (DeclarationIndex.rel_refl _) hcontains
  -- What it notes and marks is there.
  have hnotes : (c.take v b).2.correlator.noting xs (c.take v b).2.correlator.index =
      (c.take v b).2.correlator := by
    rw [Correlator.noting, hdocument, Document.noteAll_noteAll, ← hdocument]
  have hmarks : (c.take v b).2.functions.markAll names = (c.take v b).2.functions := by
    rw [hfunctions, FunctionTable.markAll_markAll]
  rw [hnotes, hmarks] at hsecond
  exact (take_of_index (b := { b with functions := (c.take v b).2.functions }) hindex).trans hsecond

/-- The file `/f.c` is there, and asking for its declarations has the given result. -/
def onlySource (result : Except Failure Declarations) : DeclarationSource :=
  ⟨{ entries := Table.build [(["f.c"], .file "".toUTF8 false)] }, fun _ => result⟩

/-- A view in which `f` is declared on the fifth line of `/f.c`. -/
def declaringView : SourceView :=
  ⟨⟨⟨"/w"⟩, ⟨"tree"⟩, true⟩, onlySource (.ok (Table.build [("f", 5)]))⟩

/-- The address of `f` comes with two opcodes on one line, in an inlined function and in a second
block. -/
def repeatedAddress : BinaryInput :=
  ⟨"boot", "1000 <f>:\n/f.c:1\n1000:\tnop\n1000:\tret\nhelp():\n/h.h:2\n1000:\tnop\n" ++
    "1000 <f>:\n/f.c:3\n1000:\tbl\n1004 <g>:\n/f.c:4\n1004:\tnop\n",
    FunctionTable.ofSymbols [⟨"f", 4096, 4100, false⟩], TraceStore.ingest {} "1000 2 4"⟩

/-- The state that `repeatedAddress` leaves. -/
def afterRepeatedAddress : Progress :=
  (({ index := some {} } : Correlator).take declaringView repeatedAddress).2

/-- The second time the look-up would fail if it were asked. -/
theorem take_take_repeatedAddress :
    (({ index := some {} } : Correlator).take declaringView repeatedAddress).1 = none ∧
      afterRepeatedAddress.correlator.document.record? "/f.c" 1 100 4096 = some ⟨"ret", 2⟩ ∧
      afterRepeatedAddress.correlator.take
          (declaringView.withSource (onlySource (.error .malformedDocument)))
          { repeatedAddress with functions := afterRepeatedAddress.functions } =
        (none, afterRepeatedAddress) := by
  have hsucceeds : (({ index := some {} } : Correlator).take declaringView repeatedAddress).1 =
      none :=
    take_succeeds (fun _ => ⟨_, rfl⟩) _ _
  have hagain := take_take hsucceeds (onlySource (.error .malformedDocument))
  refine ⟨hsucceeds, ?_, ?_⟩
  · rw [afterRepeatedAddress, record?_take hsucceeds]
    decide +kernel
  · rw [afterRepeatedAddress]
    exact hagain

end Correlator

end BinaryCoverage
