import BinaryCoverage.Proofs.Correlation.Excluded
import BinaryCoverage.Proofs.Correlation.Frame
import Mathlib.Algebra.Group.Defs

/-!
# What a correlation counts

The counters of a correlation are told apart by the blocks: one without a home is counted and no
more, one whose label is not an active function is reported as unknown, and any other adds its
instructions.  Which functions are active does not change on the way, so that each block adds the
same wherever it stands.  This file defines:

* `FunctionBlock.counts`, `FunctionBlock.isUnknown` — what becomes of a block that has a home;
* `CorrelationStats.ofBlocks` — the counters, read off a list of blocks;
* `Progress.Adds` — a step that succeeds adds to the counters;

and shows that a correlation counts what the transcript has, and marks the functions of the blocks
that count (`take_counts`).
-/

namespace BinaryCoverage

open Disassembly (Transcript)

/-! ## Kinds of blocks -/

namespace FunctionBlock

/-- The block has a home, and its label is an active function. -/
def counts (functions : FunctionTable) (b : FunctionBlock) : Bool :=
  b.homeRun?.isSome && functions.contains b.label

/-- The block has a home, but its label is not an active function. -/
def isUnknown (functions : FunctionTable) (b : FunctionBlock) : Bool :=
  b.homeRun?.isSome && !functions.contains b.label

/-- The instructions that belong to source lines. -/
def runInstructions (b : FunctionBlock) : List Instruction := b.runs.flatMap (·.instructions)

/-- A block is of one kind only. -/
theorem count_kinds (functions : FunctionTable) (b : FunctionBlock) :
    [b.counts functions, b.isUnknown functions, b.homeRun?.isNone].count true = 1 := by
  unfold counts isUnknown
  cases b.homeRun? <;> cases functions.contains b.label <;> rfl

end FunctionBlock

/-! ## Counters -/

/-- The instruction has run. -/
def TraceStore.ran (s : TraceStore) (i : Instruction) : Bool := 0 < s.count i.address

namespace TraceStore

variable (traces : TraceStore)

theorem length_executed (instructions : List Instruction) :
    (traces.executed instructions).length = instructions.countP traces.ran :=
  List.countP_eq_length_filter.symm

theorem hasRun_eq_any (run : SourceRun) :
    traces.hasRun run = run.instructions.any traces.ran := by
  rw [Bool.eq_iff_iff, hasRun_iff]
  simp [SourceRun.Ran, ran]

theorem any_hasRun (b : FunctionBlock) :
    b.runs.any traces.hasRun = b.runInstructions.any traces.ran := by
  rw [FunctionBlock.runInstructions, List.any_flatMap]
  exact congrArg b.runs.any (funext traces.hasRun_eq_any)

end TraceStore

namespace CorrelationStats

instance : Zero CorrelationStats := ⟨{}⟩

instance : Add CorrelationStats where
  add s t :=
    { blocks := s.blocks + t.blocks
      attributedBlocks := s.attributedBlocks + t.attributedBlocks
      coveredBlocks := s.coveredBlocks + t.coveredBlocks
      unknownBlocks := s.unknownBlocks + t.unknownBlocks
      instructions := s.instructions + t.instructions
      coveredInstructions := s.coveredInstructions + t.coveredInstructions }

theorem add_def (s t : CorrelationStats) :
    s + t =
      { blocks := s.blocks + t.blocks
        attributedBlocks := s.attributedBlocks + t.attributedBlocks
        coveredBlocks := s.coveredBlocks + t.coveredBlocks
        unknownBlocks := s.unknownBlocks + t.unknownBlocks
        instructions := s.instructions + t.instructions
        coveredInstructions := s.coveredInstructions + t.coveredInstructions } := rfl

instance : AddMonoid CorrelationStats where
  add_assoc s t u := by
    simp only [add_def, Nat.add_assoc]
  zero_add s := by
    rw [add_def]
    cases s
    congr <;> exact Nat.zero_add _
  add_zero s := rfl
  nsmul := nsmulRec

/-- What some instructions add. -/
def ofInstructions (traces : TraceStore) (instructions : List Instruction) : CorrelationStats :=
  { instructions := instructions.length
    coveredInstructions := instructions.countP traces.ran }

/-- The counters of a transcript, where only the functions of the table are active. -/
def ofBlocks (functions : FunctionTable) (traces : TraceStore) (blocks : List FunctionBlock) :
    CorrelationStats :=
  let counting := blocks.filter (·.counts functions)
  let instructions := counting.flatMap (·.runInstructions)
  { blocks := blocks.length
    attributedBlocks := counting.length
    coveredBlocks := counting.countP (·.runInstructions.any traces.ran)
    unknownBlocks := blocks.countP (·.isUnknown functions)
    instructions := instructions.length
    coveredInstructions := instructions.countP traces.ran }

theorem addRun_eq (s : CorrelationStats) (traces : TraceStore) (run : SourceRun) :
    s.addRun traces run = s + ofInstructions traces run.instructions := by
  rw [addRun, traces.length_executed]
  rfl

theorem sum_ofInstructions (traces : TraceStore) (runs : List SourceRun) :
    (runs.map fun run => ofInstructions traces run.instructions).sum =
      ofInstructions traces (runs.flatMap (·.instructions)) := by
  induction runs with
  | nil =>
      rfl
  | cons run rest ih =>
      rw [List.map_cons, List.sum_cons, ih, List.flatMap_cons]
      simp [ofInstructions, add_def]

theorem ofBlocks_cons (functions : FunctionTable) (traces : TraceStore) (b : FunctionBlock)
    (rest : List FunctionBlock) :
    ofBlocks functions traces (b :: rest) =
      ofBlocks functions traces [b] + ofBlocks functions traces rest := by
  by_cases hcounts : b.counts functions
  · simp [ofBlocks, add_def, hcounts, List.countP_cons, Nat.add_comm]
  · simp [ofBlocks, add_def, hcounts, List.countP_cons, Nat.add_comm]

theorem sum_ofBlocks (functions : FunctionTable) (traces : TraceStore)
    (blocks : List FunctionBlock) :
    (blocks.map fun b => ofBlocks functions traces [b]).sum = ofBlocks functions traces blocks := by
  induction blocks with
  | nil =>
      rfl
  | cons b rest ih =>
      rw [List.map_cons, List.sum_cons, ih, ← ofBlocks_cons]

theorem ofBlocks_of_counts {functions : FunctionTable} {b : FunctionBlock}
    (h : b.counts functions) (traces : TraceStore) :
    ofBlocks functions traces [b] =
      { blocks := 1 } + ({ attributedBlocks := 1 } + (ofInstructions traces b.runInstructions +
        { coveredBlocks := if b.runInstructions.any traces.ran then 1 else 0 })) := by
  have hknown : b.isUnknown functions = false := by
    simp_all [FunctionBlock.counts, FunctionBlock.isUnknown]
  simp [ofBlocks, ofInstructions, add_def, h, hknown, List.countP_cons]

theorem ofBlocks_of_not_counts {functions : FunctionTable} {b : FunctionBlock}
    (h : b.counts functions = false) (traces : TraceStore) :
    ofBlocks functions traces [b] =
      { blocks := 1, unknownBlocks := if b.isUnknown functions then 1 else 0 } := by
  simp [ofBlocks, h, List.countP_cons]

/-- Of a list of blocks each is of one kind. -/
theorem blocks_ofBlocks (functions : FunctionTable) (traces : TraceStore)
    (blocks : List FunctionBlock) :
    (ofBlocks functions traces blocks).blocks =
      (ofBlocks functions traces blocks).attributedBlocks +
        (ofBlocks functions traces blocks).unknownBlocks +
        blocks.countP (·.homeRun?.isNone) := by
  induction blocks with
  | nil =>
      rfl
  | cons b rest ih =>
      -- The block adds one to all blocks, and one to just one of the three kinds.
      have hkinds := b.count_kinds functions
      simp only [ofBlocks, ← List.countP_eq_length_filter, List.length_cons, List.countP_cons,
        List.count_cons, List.count_nil, beq_true] at ih hkinds ⊢
      omega

end CorrelationStats

/-! ## Steps -/

namespace Progress

variable {functions : FunctionTable} {first second : Progress → Option Failure × Progress}
  {s t : CorrelationStats} {p : Progress}

/-- A step that succeeds adds to the counters, and it leaves the same functions active. -/
def Adds (functions : FunctionTable) (s : CorrelationStats) (p : Progress)
    (r : Option Failure × Progress) : Prop :=
  (∀ name, p.functions.contains name = functions.contains name) → r.1 = none →
    r.2.stats = p.stats + s ∧ ∀ name, r.2.functions.contains name = functions.contains name

theorem adds_andThen (hfirst : Adds functions s p (first p))
    (hsecond : ∀ q, Adds functions t q (second q)) :
    Adds functions (s + t) p (andThen first second p) := by
  intro hactive hsucceeds
  rcases hresult : first p with ⟨_ | e, q⟩
  · -- The second step finds the same functions active as the first one.
    rw [hresult] at hfirst
    obtain ⟨hstats, hkept⟩ := hfirst hactive rfl
    simp only [Progress.andThen, hresult] at hsucceeds ⊢
    obtain ⟨hstats', hkept'⟩ := hsecond q hkept hsucceeds
    exact ⟨by rw [hstats', hstats, add_assoc], hkept'⟩
  · simp [Progress.andThen, hresult] at hsucceeds

theorem adds_attemptEach {α : Type} {step : Progress → α → Option Failure × Progress}
    {f : α → CorrelationStats} (hstep : ∀ q a, Adds functions (f a) q (step q a)) (items : List α)
    (p : Progress) : Adds functions (items.map f).sum p (attemptEach step p items) := by
  induction items generalizing p with
  | nil =>
      intro hactive _
      exact ⟨(add_zero p.stats).symm, hactive⟩
  | cons a rest ih =>
      rw [attemptEach_cons, List.map_cons, List.sum_cons]
      exact adds_andThen (hstep p a) ih

section Blocks

variable (v : SourceView) (binary : UInt32) (traces : TraceStore)

theorem adds_run (p : Progress) (owned : String × SourceRun) :
    Adds functions (.ofInstructions traces owned.2.instructions) p
      (run v binary traces p owned) := by
  rcases owned with ⟨owner, sourceRun⟩
  intro hactive hsucceeds
  rcases hline : (v.ask p.correlator.index (sourceRun.key v.mapping) owner).1 with e | n
  · rw [run_of_error binary traces hline] at hsucceeds
    cases hsucceeds
  · rw [run_of_ok binary traces hline]
    refine ⟨CorrelationStats.addRun_eq p.stats traces sourceRun, ?_⟩
    intro name
    exact (FunctionTable.contains_mark p.functions owner name).trans (hactive name)

theorem adds_declareLabel (label home : String) (n : UInt32) (p : Progress) :
    Adds functions { attributedBlocks := 1 } p (declareLabel v label home n p) := by
  intro hactive _
  refine ⟨rfl, ?_⟩
  intro name
  exact (FunctionTable.contains_mark p.functions label name).trans (hactive name)

theorem adds_coverLabel (label home : String) (n : UInt32) (hasRun : Bool) (p : Progress) :
    Adds functions { coveredBlocks := if hasRun then 1 else 0 } p
      (coverLabel label home n hasRun p) := by
  intro hactive _
  cases hasRun with
  | false =>
      exact ⟨(add_zero p.stats).symm, hactive⟩
  | true =>
      exact ⟨rfl, hactive⟩

theorem adds_attributed (b : FunctionBlock) (home : String) (p : Progress) :
    Adds functions
      ({ attributedBlocks := 1 } + (.ofInstructions traces b.runInstructions +
        { coveredBlocks := if b.runInstructions.any traces.ran then 1 else 0 })) p
      (attributed v binary traces p b home) := by
  intro hactive hsucceeds
  rcases hline : (v.ask p.correlator.index home b.label).1 with e | n
  · rw [attributed_of_error binary traces hline] at hsucceeds
    cases hsucceeds
  · have hruns : ∀ q, Adds functions (.ofInstructions traces b.runInstructions) q
        (attemptEach (run v binary traces) q b.resolvedRuns) := by
      intro q
      have hsum : Adds functions _ q (attemptEach (run v binary traces) q b.resolvedRuns) :=
        adds_attemptEach (adds_run v binary traces) b.resolvedRuns q
      -- Who owns a run does not matter to what it adds.
      have hmap : b.resolvedRuns.map (fun owned => .ofInstructions traces owned.2.instructions) =
          b.runs.map fun run => CorrelationStats.ofInstructions traces run.instructions := by
        rw [← b.map_snd_resolvedRuns, List.map_map]
        rfl
      rwa [hmap, CorrelationStats.sum_ofInstructions] at hsum
    -- The summands stand in the order of the steps: the label, the runs, and whether any has run.
    rw [attributed_of_ok binary traces hline] at hsucceeds ⊢
    rw [← traces.any_hasRun]
    refine adds_andThen (adds_declareLabel v b.label home n p) (fun q => ?_) hactive hsucceeds
    exact adds_andThen (hruns q) (adds_coverLabel b.label home n _)

theorem adds_block (p : Progress) (b : FunctionBlock) :
    Adds functions (.ofBlocks functions traces [b]) p (block v binary traces p b) := by
  intro hactive hsucceeds
  cases hhome : b.homeRun? with
  | none =>
      have hcounts : b.counts functions = false := by
        rw [FunctionBlock.counts, hhome]
        rfl
      rw [CorrelationStats.ofBlocks_of_not_counts hcounts]
      simp only [block, FunctionBlock.isUnknown, hhome]
      exact ⟨rfl, hactive⟩
  | some home =>
      by_cases hcontains : functions.contains b.label
      · have hcounts : b.counts functions := by
          rw [FunctionBlock.counts, hhome, hcontains]
          rfl
        -- The table of now is asked, which answers as the one of the beginning.
        have hblock : block v binary traces p b =
            andThen countBlock (attributed v binary traces · b (home.key v.mapping)) p := by
          simp only [block, hhome, hactive, hcontains, if_true]
          rfl
        have hcount : Adds functions { blocks := 1 } p (countBlock p) := fun hactive _ =>
          ⟨rfl, hactive⟩
        rw [hblock] at hsucceeds ⊢
        rw [CorrelationStats.ofBlocks_of_counts hcounts]
        exact adds_andThen hcount (adds_attributed v binary traces b _) hactive hsucceeds
      · have hcounts : b.counts functions = false := by
          simp only [FunctionBlock.counts, hcontains, Bool.and_false]
        rw [CorrelationStats.ofBlocks_of_not_counts hcounts]
        simp only [block, FunctionBlock.isUnknown, hhome, hactive, hcontains]
        exact ⟨rfl, hactive⟩

end Blocks

end Progress

/-! ## Transcripts -/

namespace BinaryInput

/-- A block that counts is labelled with the function, or has a run that belongs to it. -/
def Maps (b : BinaryInput) (name : String) : Prop :=
  ∃ block ∈ Transcript.blocksOf b.transcript, block.counts b.functions ∧
    (block.label = name ∨ ∃ owned ∈ block.resolvedRuns, owned.1 = name)

instance (b : BinaryInput) (name : String) : Decidable (b.Maps name) := by
  unfold Maps
  infer_instance

theorem mem_marks_iff (b : BinaryInput) (binary : UInt32) (name : String) :
    name ∈ (b.counted binary).flatMap CountedBlock.marks ↔ b.Maps name := by
  -- Which index the binary has does not matter to whom its blocks name.
  have hcounted := exists_counted_iff (b := b) binary fun block _ =>
    block.label = name ∨ ∃ owned ∈ block.resolvedRuns, owned.1 = name
  have hmarks : name ∈ (b.counted binary).flatMap CountedBlock.marks ↔
      ∃ x ∈ b.counted binary,
        x.block.label = name ∨ ∃ owned ∈ x.block.resolvedRuns, owned.1 = name := by
    simp [CountedBlock.marks, List.mem_flatMap, eq_comm]
  rw [hmarks, hcounted]
  simp only [Maps, Counts, FunctionBlock.counts, ← FunctionBlock.isSome_homeRun?_iff,
    Bool.and_eq_true, and_assoc, and_comm, and_left_comm]

end BinaryInput

namespace Correlator

variable {c : Correlator} {v : SourceView} {b : BinaryInput}

theorem get?_functions_take (hsucceeds : (c.take v b).1 = none) (name : String) :
    (c.take v b).2.functions.get? name =
      (b.functions.get? name).map fun f => { f with mapped := f.mapped || b.Maps name } := by
  obtain ⟨names, hnames, hfunctions⟩ := (c.take_spec v b).functions
  have hmaps : name ∈ names ↔ b.Maps name := by
    rw [hnames.complete hsucceeds]
    exact b.mem_marks_iff _ name
  rw [hfunctions, FunctionTable.get?_markAll]
  by_cases h : b.Maps name
  · simp [hmaps, h]
  · simp [hmaps, h]

theorem stats_take (hsucceeds : (c.take v b).1 = none) :
    (c.take v b).2.stats =
      .ofBlocks b.functions b.traces (Transcript.blocksOf b.transcript) := by
  have hblocks : Progress.Adds b.functions _ _ (c.take v b) :=
    Progress.adds_attemptEach (Progress.adds_block v (c.registry.index b.name).1 b.traces)
      (Transcript.blocksOf b.transcript)
      { correlator := { c with registry := (c.registry.index b.name).2 }, functions := b.functions }
  rw [CorrelationStats.sum_ofBlocks] at hblocks
  -- A correlation starts with no counts, and with the functions of its input.
  exact (hblocks (fun _ => rfl) hsucceeds).1.trans (zero_add _)

/-- What a correlation counts is what the transcript has of it, in which each block is of one of
three kinds.  The blocks that count mark their labels and the owners of their runs, where these are
active functions. -/
theorem take_counts (hsucceeds : (c.take v b).1 = none) :
    let blocks := Transcript.blocksOf b.transcript
    let p := (c.take v b).2
    p.stats = .ofBlocks b.functions b.traces blocks ∧
      (∀ block ∈ blocks, [block.counts b.functions, block.isUnknown b.functions,
        block.homeRun?.isNone].count true = 1) ∧
      p.stats.blocks =
        p.stats.attributedBlocks + p.stats.unknownBlocks + blocks.countP (·.homeRun?.isNone) ∧
      ∀ name, p.functions.get? name =
        (b.functions.get? name).map fun f => { f with mapped := f.mapped || b.Maps name } := by
  intro blocks p
  have hstats : p.stats = .ofBlocks b.functions b.traces blocks := stats_take hsucceeds
  refine ⟨hstats, fun block _ => block.count_kinds b.functions, ?_, get?_functions_take hsucceeds⟩
  rw [hstats]
  exact CorrelationStats.blocks_ofBlocks b.functions b.traces blocks

/-- Of four blocks two count, one of which has run; one is of a function that is not active, and
one has only runs of another function. -/
def fourBlocks : BinaryInput :=
  ⟨"boot", "1000 <f>:\n/f.c:1\n1000:\tnop\n1004:\tret\nhelp():\n/h.h:2\n1008:\tnop\n" ++
    "1010 <g>:\n/f.c:9\n1010:\tnop\n1020 <f>:\nidle():\n/h.h:3\n1000:\tnop\n" ++
    "1030 <help>:\n/h.h:7\n1030:\tnop\n",
    FunctionTable.ofSymbols [⟨"f", 4096, 4104, false⟩, ⟨"help", 4144, 4148, false⟩,
      ⟨"idle", 8192, 8196, false⟩],
    TraceStore.ingest {} "1000 2 4"⟩

/-- What correlating `fourBlocks` comes to. -/
def afterFourBlocks : Option Failure × Progress := ({} : Correlator).take plainView fourBlocks

theorem take_counts_fourBlocks :
    afterFourBlocks.1 = none ∧ afterFourBlocks.2.stats = ⟨4, 2, 1, 1, 4, 1⟩ ∧
      (afterFourBlocks.2.functions.get? "help").map (·.mapped) = some true ∧
      (afterFourBlocks.2.functions.get? "idle").map (·.mapped) = some false := by
  rw [afterFourBlocks]
  have hsucceeds : (({} : Correlator).take plainView fourBlocks).1 = none := by
    decide +kernel
  obtain ⟨hstats, -, -, hfunctions⟩ := take_counts hsucceeds
  refine ⟨hsucceeds, ?_, ?_, ?_⟩
  · rw [hstats]
    decide +kernel
  · rw [hfunctions]
    decide +kernel
  · rw [hfunctions]
    decide +kernel

end Correlator

end BinaryCoverage
