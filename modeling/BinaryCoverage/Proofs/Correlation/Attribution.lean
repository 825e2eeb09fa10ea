import BinaryCoverage.Proofs.Correlation.Exactness

/-!
# Which instructions are recorded

A block has a home only when one of its runs belongs to its own label; one whose runs are all named
after other functions is passed over with everything in it.  This file defines:

* `FunctionBlock.NamesItself` — the first run of a block is unnamed, or some run is named after the
  label;
* `BinaryInput.Gives` — a transcript gives a line an instruction, in a block that names itself;

and shows that a correlation records what the transcript gives in this sense, and leaves every other
record as it was (`take_records`).
-/

namespace BinaryCoverage

open Disassembly (Transcript)

namespace FunctionBlock

/-- Until a run is named, the runs of a block belong to its label. -/
def NamesItself (b : FunctionBlock) : Prop :=
  (∃ run ∈ b.runs.head?, run.function = none) ∨ ∃ run ∈ b.runs, run.function = some b.label

instance (b : FunctionBlock) : Decidable b.NamesItself := by
  unfold NamesItself
  infer_instance

/-- A function owns a run when it is named before one, or named last before all of them. -/
theorem exists_owner_iff (current owner : String) (runs : List SourceRun) :
    (∃ owned ∈ resolve current runs, owned.1 = owner) ↔
      (current = owner ∧ ∃ run ∈ runs.head?, run.function = none) ∨
        ∃ run ∈ runs, run.function = some owner := by
  induction runs generalizing current with
  | nil =>
      simp [resolve]
  | cons run rest ih =>
      -- The owner of the first run is the function named last before the rest.
      have hcons : (∃ owned ∈ resolve current (run :: rest), owned.1 = owner) ↔
          run.function.getD current = owner ∨
            ∃ owned ∈ resolve (run.function.getD current) rest, owned.1 = owner := by
        simp only [resolve, List.exists_mem_cons_iff]
      rw [hcons, ih]
      cases hname : run.function with
      | none =>
          simp only [Option.getD_none, List.head?_cons, List.exists_mem_cons_iff, hname]
          constructor
          · rintro (h | ⟨h, _⟩ | h)
            · exact Or.inl ⟨h, run, rfl, hname⟩
            · exact Or.inl ⟨h, run, rfl, hname⟩
            · exact Or.inr (Or.inr h)
          · rintro (⟨h, _⟩ | h | h)
            · exact Or.inl h
            · cases h
            · exact Or.inr (Or.inr h)
      | some name =>
          have hnamed : ¬ ∃ first ∈ (run :: rest).head?, first.function = none := by
            simp [hname]
          simp only [Option.getD_some, hnamed, and_false, false_or, List.exists_mem_cons_iff, hname,
            Option.some.injEq]
          constructor
          · rintro (h | ⟨h, _⟩ | h)
            · exact Or.inl h
            · exact Or.inl h
            · exact Or.inr h
          · rintro (h | h)
            · exact Or.inl h
            · exact Or.inr (Or.inr h)

theorem isSome_homeRun?_iff (b : FunctionBlock) : b.homeRun?.isSome ↔ b.NamesItself := by
  have howner := exists_owner_iff b.label b.label b.runs
  simp only [true_and] at howner
  rw [NamesItself, ← howner]
  unfold homeRun? resolvedRuns
  rw [Option.isSome_map, List.find?_isSome]
  simp only [decide_eq_true_eq]

end FunctionBlock

theorem CountedBlock.namesItself (x : CountedBlock) : x.block.NamesItself := by
  rw [← x.block.isSome_homeRun?_iff, x.isHome]
  rfl

/-! ## What a transcript gives -/

namespace BinaryInput

/-- The transcript gives a line an instruction, in a block that names itself after an active
function. -/
def Gives (b : BinaryInput) (m : SourceMapping) (key : String) (n : UInt32) (i : Instruction) :
    Prop :=
  ∃ block ∈ Transcript.blocksOf b.transcript, b.functions.contains block.label ∧
    block.NamesItself ∧ ∃ run ∈ block.runs, run.key m = key ∧ run.line = n ∧ i ∈ run.instructions

instance (b : BinaryInput) (m : SourceMapping) (key : String) (n : UInt32) (i : Instruction) :
    Decidable (b.Gives m key n i) := by
  unfold Gives
  infer_instance

def observations (b : BinaryInput) (m : SourceMapping) (binary : UInt32) : List Observation :=
  (b.counted binary).flatMap (·.observations m)

theorem mem_observations_iff {b : BinaryInput} {m : SourceMapping} {binary : UInt32}
    {o : Observation} :
    o ∈ b.observations m binary ↔ o.binary = binary ∧ ∃ i, b.Gives m o.key o.line i ∧
      o.address = i.address ∧ o.record = ⟨i.opcode, b.traces.count i.address⟩ := by
  constructor
  · intro ho
    rcases List.mem_flatMap.1 ho with ⟨x, hx, ho⟩
    rcases List.mem_flatMap.1 ho with ⟨run, hrun, ho⟩
    rcases List.mem_map.1 ho with ⟨i, hi, rfl⟩
    rcases mem_counted_iff.1 hx with ⟨hblock, hbinary, htraces, hactive⟩
    refine ⟨hbinary, i, ⟨x.block, hblock, hactive, x.namesItself, run, hrun, rfl, rfl, hi⟩, rfl, ?_⟩
    rw [htraces]
  · rcases o with ⟨key, n, j, address, record⟩
    rintro ⟨rfl, i, ⟨block, hblock, hactive, hnames, run, hrun, rfl, rfl, hi⟩, rfl, rfl⟩
    rw [← block.isSome_homeRun?_iff, Option.isSome_iff_exists] at hnames
    rcases hnames with ⟨home, hhome⟩
    have hcounted : ⟨j, b.traces, block, home, hhome⟩ ∈ b.counted j :=
      mem_counted_iff.2 ⟨hblock, rfl, rfl, hactive⟩
    exact List.mem_flatMap.2
      ⟨_, hcounted, List.mem_flatMap.2 ⟨run, hrun, List.mem_map.2 ⟨i, hi, rfl⟩⟩⟩

end BinaryInput

/-! ## What a correlation records -/

namespace Correlator

variable {c : Correlator} {v : SourceView} {b : BinaryInput}

theorem record?_take (hsucceeds : (c.take v b).1 = none) (key : String) (n binary : UInt32)
    (address : UInt64) :
    (c.take v b).2.correlator.document.record? key n binary address =
      (((b.observations v.mapping (c.registry.index b.name).1).filter
        (Observation.isAt key n binary address)).getLast?.map (·.record)).or
          (c.document.record? key n binary address) := by
  rcases (c.take_spec v b).document with ⟨xs, hxs, hdocument⟩
  rw [hdocument, Document.record?_blocks c.document (hxs.complete hsucceeds)]
  rfl

/-- What a transcript gives in blocks that name themselves is recorded with its count, and no other
record changes.  Where several instructions have one place, one of them is recorded. -/
theorem take_records (hsucceeds : (c.take v b).1 = none) (key : String) (n : UInt32) :
    let d := (c.take v b).2.correlator.document
    let binary := (c.registry.index b.name).1
    (∀ i, b.Gives v.mapping key n i →
      ∃ opcode, b.Gives v.mapping key n ⟨i.address, opcode⟩ ∧
        d.record? key n binary i.address = some ⟨opcode, b.traces.count i.address⟩) ∧
      ∀ j address, (j = binary → ∀ opcode, ¬ b.Gives v.mapping key n ⟨address, opcode⟩) →
        d.record? key n j address = c.document.record? key n j address := by
  intro d binary
  refine ⟨?_, ?_⟩
  · intro i hi
    -- The transcript observes the address, so there is a last time that it does.
    have hseen : (⟨key, n, binary, i.address, ⟨i.opcode, b.traces.count i.address⟩⟩ : Observation) ∈
        (b.observations v.mapping binary).filter (Observation.isAt key n binary i.address) := by
      refine List.mem_filter.2 ⟨BinaryInput.mem_observations_iff.2 ⟨rfl, i, hi, rfl, rfl⟩, ?_⟩
      simp [Observation.isAt]
    rcases hlast : ((b.observations v.mapping binary).filter
      (Observation.isAt key n binary i.address)).getLast? with _ | o
    · rw [List.getLast?_eq_none_iff] at hlast
      rw [hlast] at hseen
      cases hseen
    · rcases List.mem_filter.1 (List.mem_of_getLast? hlast) with ⟨ho, hat⟩
      rcases BinaryInput.mem_observations_iff.1 ho with ⟨_, i', hi', haddress, hrecord⟩
      simp only [Observation.isAt, decide_eq_true_eq] at hat
      rcases hat with ⟨rfl, rfl, _, hsame⟩
      rw [haddress] at hsame
      refine ⟨i'.opcode, hsame ▸ hi', ?_⟩
      rw [record?_take hsucceeds, hlast, Option.map_some, Option.some_or, hrecord, hsame]
  · intro j address hnone
    have hempty :
        (b.observations v.mapping binary).filter (Observation.isAt key n j address) = [] := by
      rw [List.filter_eq_nil_iff]
      intro o ho hat
      rcases BinaryInput.mem_observations_iff.1 ho with ⟨hbinary, i, hi, haddress, _⟩
      simp only [Observation.isAt, decide_eq_true_eq] at hat
      rcases hat with ⟨rfl, rfl, rfl, rfl⟩
      exact hnone hbinary i.opcode (haddress ▸ hi)
    rw [record?_take hsucceeds, hempty]
    rfl

/-- What a correlation starts from that knows no declarations. -/
def plainView : SourceView := ⟨⟨⟨"/w"⟩, ⟨"tree"⟩, true⟩, ⟨{}, fun _ => .ok ∅⟩⟩

/-- A binary with the one function `foo`, of which the second instruction has run twice. -/
def ofFoo (transcript : String) : BinaryInput :=
  ⟨"bl1", transcript, FunctionTable.ofSymbols [⟨"foo", 4096, 4104, false⟩],
    TraceStore.ingest {} "1004 2 4"⟩

theorem take_records_partlyRenamed :
    let b := ofFoo "1000 <foo>:\n/w/f.c:3\n1000:\tnop\nfoo.cold():\n/w/f.c:4\n1004:\tret\n"
    let r := ({} : Correlator).take plainView b
    r.1 = none ∧ b.Gives plainView.mapping "f.c" 4 ⟨4100, "ret"⟩ ∧
      ∃ opcode, b.Gives plainView.mapping "f.c" 4 ⟨4100, opcode⟩ ∧
        r.2.correlator.document.record? "f.c" 4 0 4100 = some ⟨opcode, 2⟩ := by
  intro b r
  have hsucceeds : r.1 = none := by
    decide +kernel
  have hgives : b.Gives plainView.mapping "f.c" 4 ⟨4100, "ret"⟩ := by
    decide +kernel
  have hcount : b.traces.count 4100 = 2 := by
    decide +kernel
  rcases (take_records hsucceeds "f.c" 4).1 ⟨4100, "ret"⟩ hgives with ⟨opcode, hopcode, hrecord⟩
  exact ⟨hsucceeds, hgives, opcode, hopcode, hcount ▸ hrecord⟩

/-- The only run of an active function is named after a clone of it, and is not recorded. -/
theorem take_drops_renamed :
    let b := ofFoo "1000 <foo>:\nfoo.constprop.0():\n/w/f.c:3\n1004:\tret\n"
    let r := ({} : Correlator).take plainView b
    r.1 = none ∧ ∃ block ∈ Transcript.blocksOf b.transcript, b.functions.contains block.label ∧
      ∃ run ∈ block.runs, ∃ i ∈ run.instructions,
        r.2.correlator.document.record? (run.key plainView.mapping) run.line 0 i.address =
          none := by
  decide +kernel

end Correlator

end BinaryCoverage
