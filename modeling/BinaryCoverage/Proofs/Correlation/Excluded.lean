import BinaryCoverage.Proofs.Correlation.Attribution
import BinaryCoverage.Proofs.Correlation.Settled
import Mathlib.Data.Prod.Basic

/-!
# What is left of excluded functions

Whether a function is excluded is asked of the label of a block, and not of the functions that its
runs belong to.  This file defines:

* `BinaryInput.Counts` — a block names itself after an active function;
* `BinaryInput.Attributes` — such a block has a run of a function;

and shows that the blocks of an excluded function come to nothing, while its runs in the blocks of
other functions are entered like any run (`excluded_accounts`).
-/

namespace BinaryCoverage

open Disassembly (Transcript)

/-! ## Blocks that count -/

namespace BinaryInput

variable {b : BinaryInput} {block : FunctionBlock}

/-- A block of the transcript names itself, after an active function. -/
def Counts (b : BinaryInput) (block : FunctionBlock) : Prop :=
  block ∈ Transcript.blocksOf b.transcript ∧ b.functions.contains block.label ∧ block.NamesItself

/-- A block that counts has a run that belongs to a function. -/
def Attributes (b : BinaryInput) (name : String) (run : SourceRun) : Prop :=
  ∃ block, b.Counts block ∧ (name, run) ∈ block.resolvedRuns

theorem exists_counted_iff (binary : UInt32) (P : FunctionBlock → TraceStore → Prop) :
    (∃ x ∈ b.counted binary, P x.block x.traces) ↔ ∃ block, b.Counts block ∧ P block b.traces := by
  constructor
  · rintro ⟨x, hx, hp⟩
    obtain ⟨hblock, -, htraces, hactive⟩ := mem_counted_iff.1 hx
    exact ⟨x.block, ⟨hblock, hactive, x.namesItself⟩, htraces ▸ hp⟩
  · rintro ⟨block, ⟨hblock, hactive, hnames⟩, hp⟩
    rw [← block.isSome_homeRun?_iff, Option.isSome_iff_exists] at hnames
    obtain ⟨home, hhome⟩ := hnames
    have hcounted : ⟨binary, b.traces, block, home, hhome⟩ ∈ b.counted binary :=
      mem_counted_iff.2 ⟨hblock, rfl, rfl, hactive⟩
    exact ⟨_, hcounted, hp⟩

theorem exists_counted_owned_iff (binary : UInt32) (name : String)
    (P : SourceRun → TraceStore → Prop) :
    (∃ x ∈ b.counted binary, ∃ owned ∈ x.block.resolvedRuns,
      owned.1 = name ∧ P owned.2 x.traces) ↔ ∃ run, b.Attributes name run ∧ P run b.traces := by
  rw [exists_counted_iff binary fun block traces =>
    ∃ owned ∈ block.resolvedRuns, owned.1 = name ∧ P owned.2 traces]
  constructor
  · rintro ⟨block, hcounts, ⟨_, run⟩, howned, rfl, hp⟩
    exact ⟨run, ⟨block, hcounts, howned⟩, hp⟩
  · rintro ⟨run, ⟨block, hcounts, howned⟩, hp⟩
    exact ⟨block, hcounts, (name, run), howned, rfl, hp⟩

end BinaryInput

namespace Document.Shows

variable {m : SourceMapping} {blocks : List CountedBlock} {d : Document}

/-- A line is covered by the runs of it that have run. -/
theorem isLineCovered_iff (h : d.Shows m blocks) (key : String) (n : UInt32) :
    d.isLineCovered key n ↔ ∃ x ∈ blocks, ∃ run ∈ x.block.runs,
      run.key m = key ∧ run.line = n ∧ run.Ran x.traces := by
  rw [h.lineCovered, exists_mem_flatMap_iff]
  constructor
  · rintro ⟨x, hx, o, ho, rfl, rfl, hcount⟩
    obtain ⟨run, hrun, ho⟩ := List.mem_flatMap.1 ho
    obtain ⟨i, hi, rfl⟩ := List.mem_map.1 ho
    exact ⟨x, hx, run, hrun, rfl, rfl, i, hi, hcount⟩
  · rintro ⟨x, hx, run, hrun, rfl, rfl, i, hi, hcount⟩
    have hobserved : _ ∈ x.observations m :=
      List.mem_flatMap.2 ⟨run, hrun, List.mem_map.2 ⟨i, hi, rfl⟩⟩
    exact ⟨x, hx, _, hobserved, rfl, rfl, hcount⟩

section Unlabelled

variable {name : String} (hlabel : ∀ x ∈ blocks, x.block.label ≠ name)

include hlabel

/-- A function that labels no block has an entry where it has a run. -/
theorem function_of_label_ne (h : d.Shows m blocks) (key : String) :
    (d.function? key name).isSome ↔ ∃ x ∈ blocks, ∃ owned ∈ x.block.resolvedRuns,
      owned.1 = name ∧ owned.2.key m = key := by
  rw [h.function]
  refine exists_congr fun x => and_congr_right fun hx => ?_
  simp only [hlabel x hx, and_comm, false_and, false_or]

theorem functionCovered_of_label_ne (h : d.Shows m blocks) (key : String) :
    d.isFunctionCovered key name ↔ ∃ x ∈ blocks, ∃ owned ∈ x.block.resolvedRuns,
      owned.1 = name ∧ owned.2.key m = key ∧ owned.2.Ran x.traces := by
  rw [h.functionCovered]
  refine exists_congr fun x => and_congr_right fun hx => ?_
  simp only [hlabel x hx, false_and, and_false, false_or, and_left_comm]

end Unlabelled

end Document.Shows

/-! ## Excluded functions -/

theorem FunctionTable.notMem_unmapped_of_inactive {t : FunctionTable} {name : String}
    (h : t.contains name = false) : name ∉ t.unmapped.map (·.name) := by
  rw [mem_unmapped_names_iff]
  rw [contains_eq_isSome, Option.isSome_eq_false_iff, Option.isNone_iff_eq_none] at h
  simp [h]

namespace BinaryInput

variable {b : BinaryInput} {symbols : List FunctionSymbol} {patterns : List Pattern}
  (hfunctions : b.functions = (FunctionTable.ofSymbols symbols).exclude patterns)

include hfunctions

theorem contains_of_excluded {name : String} (h : b.functions.excluded.contains name) :
    b.functions.contains name = false := by
  rw [hfunctions] at h ⊢
  exact FunctionTable.not_contains_of_excluded h

theorem label_ne_of_excluded {block : FunctionBlock} (hactive : b.functions.contains block.label)
    {name : String} (h : b.functions.excluded.contains name) : block.label ≠ name := by
  rintro rfl
  have hinactive := contains_of_excluded hfunctions h
  rw [hactive] at hinactive
  cases hinactive

end BinaryInput

namespace Correlator

variable {index : Option DeclarationIndex} {v : SourceView} {b : BinaryInput} {p : Progress}
  {search : SourceSearch} {q : FallbackProgress}

/-- A first binary leaves exactly what its counted blocks say. -/
theorem shows_take (htake : ({ index } : Correlator).take v b = (none, p)) :
    p.correlator.document.Shows v.mapping (b.counted (({} : BinaryRegistry).index b.name).1) := by
  have hspec := ({ index } : Correlator).take_spec v b
  rw [htake] at hspec
  obtain ⟨xs, hxs, hdocument⟩ := hspec.document
  rw [hdocument]
  exact Document.shows_noteAll (hxs.complete rfl)

/-- Placing functions leaves the entries of a name alone that is not active. -/
theorem function?_placeUnmapped_of_inactive {c : Correlator} {functions : FunctionTable}
    {traces : TraceStore} (hplace : c.placeUnmapped v functions traces search = (none, q))
    {name : String} (h : functions.contains name = false) (key : String) :
    q.correlator.document.function? key name = c.document.function? key name := by
  have hsteps := FallbackProgress.function?_steps_of_notMem v traces { correlator := c, search }
    (FunctionTable.notMem_unmapped_of_inactive h) key
  change attemptEach _ _ functions.unmapped = _ at hplace
  rwa [hplace] at hsteps

/-- After a first binary has been correlated and its functions have been placed, an excluded
function has an entry where a block that counts has a run of it.  No line is covered by a block
that is labelled with an excluded function. -/
theorem excluded_accounts {symbols : List FunctionSymbol} {patterns : List Pattern}
    (hfunctions : b.functions = (FunctionTable.ofSymbols symbols).exclude patterns)
    (htake : ({ index } : Correlator).take v b = (none, p))
    (hplace : p.correlator.placeUnmapped v p.functions b.traces search = (none, q)) :
    (∀ key name, b.functions.excluded.contains name →
      ((q.correlator.document.function? key name).isSome ↔
        ∃ run, b.Attributes name run ∧ run.key v.mapping = key) ∧
      (q.correlator.document.isFunctionCovered key name ↔
        ∃ run, b.Attributes name run ∧ run.key v.mapping = key ∧ run.Ran b.traces)) ∧
    ∀ key n, q.correlator.document.isLineCovered key n ↔
      ∃ block, b.Counts block ∧ b.functions.excluded.contains block.label = false ∧
        ∃ run ∈ block.runs, run.key v.mapping = key ∧ run.line = n ∧ run.Ran b.traces := by
  have hshows := shows_take htake
  refine ⟨?_, ?_⟩
  · intro key name hexcluded
    have hinactive : p.functions.contains name = false :=
      (contains_take htake name).trans (BinaryInput.contains_of_excluded hfunctions hexcluded)
    have hplaced := function?_placeUnmapped_of_inactive hplace hinactive key
    -- All blocks that have been taken down are labelled with active functions.
    have hlabel : ∀ x ∈ b.counted (({} : BinaryRegistry).index b.name).1, x.block.label ≠ name :=
      fun x hx => BinaryInput.label_ne_of_excluded hfunctions
        (BinaryInput.mem_counted_iff.1 hx).2.2.2 hexcluded
    constructor
    · rw [hplaced, hshows.function_of_label_ne hlabel]
      exact BinaryInput.exists_counted_owned_iff _ name fun run _ => run.key v.mapping = key
    · rw [Document.isFunctionCovered, hplaced]
      apply (hshows.functionCovered_of_label_ne hlabel key).trans
      exact BinaryInput.exists_counted_owned_iff _ name fun run traces =>
        run.key v.mapping = key ∧ run.Ran traces
  · intro key n
    have hkeeps := p.correlator.keeps_placeUnmapped v p.functions b.traces search
    rw [hplace] at hkeeps
    rw [Document.isLineCovered, hkeeps.line]
    apply (hshows.isLineCovered_iff key n).trans
    rw [BinaryInput.exists_counted_iff _ fun block traces =>
      ∃ run ∈ block.runs, run.key v.mapping = key ∧ run.line = n ∧ run.Ran traces]
    refine exists_congr fun block => and_congr_right fun hcounts => ?_
    have hactive : b.functions.excluded.contains block.label = false := by
      rw [Bool.eq_false_iff]
      intro hexcluded
      exact BinaryInput.label_ne_of_excluded hfunctions hcounts.2.1 hexcluded rfl
    simp [hactive]

/-- `help` is excluded, but has been inlined into `main`; both its copies have run. -/
def helpExcluded : BinaryInput where
  name := "bl1"
  transcript := "1000 <main>:\n/w/m.c:3\n1000:\tnop\nhelp():\n/w/h.h:7\n1004:\tret\n" ++
    "2000 <help>:\n/w/h.h:7\n2000:\tnop\n/w/h.h:8\n2002:\tret\n"
  functions := (FunctionTable.ofSymbols fiveSymbols).exclude
    [.sequence [.look .textStart, .set (.single 'h') 0]]
  traces := TraceStore.ingest {} "1004 1 4\n1008 1 4\n2000 2 4\n2002 2 4"

theorem excluded_accounts_helpExcluded :
    let v : SourceView := ⟨⟨⟨"/w"⟩, ⟨"/"⟩, true⟩, ⟨{}, fun _ => .ok ∅⟩⟩
    let search : SourceSearch := ⟨⟨"/"⟩, some [(⟨"/f.c"⟩, "f g")]⟩
    ∃ p q, Correlator.take { index := some threeFiles } v helpExcluded = (none, p) ∧
      p.correlator.placeUnmapped v p.functions helpExcluded.traces search = (none, q) ∧
      q.outcomes.toList = [("_start", .notFound), ("f", .recorded "f.c" true), ("g", .notFound)] ∧
      helpExcluded.functions.excluded.contains "help" ∧
      (q.correlator.document.isFunctionCovered "h.h" "help" ↔
        ∃ run, helpExcluded.Attributes "help" run ∧ run.key v.mapping = "h.h" ∧
          run.Ran helpExcluded.traces) ∧
      (q.correlator.document.isLineCovered "h.h" 8 ↔
        ∃ block, helpExcluded.Counts block ∧
          helpExcluded.functions.excluded.contains block.label = false ∧
          ∃ run ∈ block.runs, run.key v.mapping = "h.h" ∧ run.line = 8 ∧
            run.Ran helpExcluded.traces) := by
  intro v search
  have htaken : (Correlator.take { index := some threeFiles } v helpExcluded).1 = none := by
    decide +kernel
  have htake := Prod.fst_eq_iff.1 htaken
  generalize hp : (Correlator.take { index := some threeFiles } v helpExcluded).2 = p at htake
  have hplaced : (p.correlator.placeUnmapped v p.functions helpExcluded.traces search).1 = none := by
    subst hp
    decide +kernel
  have hplace := Prod.fst_eq_iff.1 hplaced
  generalize hq : (p.correlator.placeUnmapped v p.functions helpExcluded.traces search).2 = q
    at hplace
  have houtcomes : q.outcomes.toList =
      [("_start", .notFound), ("f", .recorded "f.c" true), ("g", .notFound)] := by
    subst hq hp
    decide +kernel
  have hexcluded : helpExcluded.functions.excluded.contains "help" := by
    decide +kernel
  obtain ⟨hentries, hlines⟩ := excluded_accounts rfl htake hplace
  exact ⟨p, q, htake, hplace, houtcomes, hexcluded, (hentries "h.h" "help" hexcluded).2,
    hlines "h.h" 8⟩

/-- An excluded function that has been inlined into an active one has an entry, covered. -/
theorem excluded_inlined_entered :
    let p := (({} : Correlator).take plainView helpExcluded).2
    let q := (p.correlator.placeUnmapped plainView p.functions helpExcluded.traces ⟨⟨"tree"⟩, none⟩).2
    (({} : Correlator).take plainView helpExcluded).1 = none ∧
      (p.correlator.placeUnmapped plainView p.functions helpExcluded.traces
        ⟨⟨"tree"⟩, none⟩).1 = none ∧
      helpExcluded.functions.excluded.contains "help" ∧
      q.correlator.document.function? "h.h" "help" = some ⟨true, 0⟩ := by
  decide +kernel

end Correlator

end BinaryCoverage
