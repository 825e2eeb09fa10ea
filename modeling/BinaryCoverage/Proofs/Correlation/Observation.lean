import BinaryCoverage.Proofs.Correlation.History
import Mathlib.Data.List.Basic

/-!
# Observations

What a transcript says about a line is a sequence of observations, one for each instruction.  This
file defines:

* `Observation` — an instruction of a line, as one transcript gives it;
* `SourceRun.observations`, `CountedBlock.observations` — what a run and a block observe;

and reads the notes of a block as its observations, its runs and its label.
-/

namespace BinaryCoverage

/-! ## Observations -/

structure Observation where
  key : String
  line : UInt32
  binary : UInt32
  address : UInt64
  record : InstructionRecord

/-- Whether the observation is of an address by a binary at a line. -/
def Observation.isAt (key : String) (line binary : UInt32) (address : UInt64) (o : Observation) :
    Bool :=
  o.key = key ∧ o.line = line ∧ o.binary = binary ∧ o.address = address

namespace SourceRun

/-- Some instruction of the run has been traced. -/
def Ran (run : SourceRun) (traces : TraceStore) : Prop :=
  ∃ i ∈ run.instructions, 0 < traces.count i.address

def observations (m : SourceMapping) (binary : UInt32) (traces : TraceStore) (run : SourceRun) :
    List Observation :=
  run.instructions.map fun i =>
    ⟨run.key m, run.line, binary, i.address, ⟨i.opcode, traces.count i.address⟩⟩

end SourceRun

/-- What a block observes, run by run. -/
def CountedBlock.observations (m : SourceMapping) (b : CountedBlock) : List Observation :=
  b.block.runs.flatMap (·.observations m b.binary b.traces)

/-! ## Notes and observations -/

theorem exists_mem_flatMap_iff {α β : Type} {f : α → List β} {P : β → Prop} (items : List α) :
    (∃ y ∈ items.flatMap f, P y) ↔ ∃ x ∈ items, ∃ y ∈ f x, P y := by
  simp only [List.mem_flatMap]
  constructor
  · rintro ⟨y, ⟨x, hx, hy⟩, hp⟩
    exact ⟨x, hx, y, hy, hp⟩
  · rintro ⟨x, hx, y, hy, hp⟩
    exact ⟨y, ⟨x, hx, hy⟩, hp⟩

theorem TraceStore.hasRun_iff (traces : TraceStore) (run : SourceRun) :
    traces.hasRun run ↔ run.Ran traces := by
  simp [hasRun, executed, SourceRun.Ran, UInt64.pos_iff_ne_zero]

namespace SourceRun

variable (m : SourceMapping) (binary : UInt32) (traces : TraceStore) (owner : String)

theorem exists_note_iff (line : UInt32) (run : SourceRun) (Q : Note → Prop) :
    (∃ x ∈ run.notes m binary traces owner line, Q x) ↔
      Q ⟨run.key m, .function owner line (traces.hasRun run)⟩ ∨ Q ⟨run.key m, .line run.line⟩ ∨
        ∃ o ∈ run.observations m binary traces,
          Q ⟨o.key, .instruction o.line o.binary o.address o.record⟩ := by
  simp [notes, observations]

theorem exists_key_iff (line : UInt32) (run : SourceRun) (key : String) :
    (∃ x ∈ run.notes m binary traces owner line, x.key = key) ↔ run.key m = key := by
  rw [exists_note_iff]
  constructor
  · rintro (h | h | ⟨o, ho, h⟩)
    · exact h
    · exact h
    · rcases List.mem_map.1 ho with ⟨i, _, rfl⟩
      exact h
  · intro h
    exact Or.inl h

theorem exists_namesFunction_iff (line : UInt32) (run : SourceRun) (key name : String) :
    (∃ x ∈ run.notes m binary traces owner line, x.NamesFunction key name) ↔
      run.key m = key ∧ owner = name := by
  rw [exists_note_iff]
  simp [Note.NamesFunction]

theorem exists_coversFunction_iff (line : UInt32) (run : SourceRun) (key name : String) :
    (∃ x ∈ run.notes m binary traces owner line, x.CoversFunction key name) ↔
      run.key m = key ∧ owner = name ∧ run.Ran traces := by
  rw [exists_note_iff, ← traces.hasRun_iff]
  simp [Note.CoversFunction]

theorem exists_namesLine_iff (line : UInt32) (run : SourceRun) (key : String) (n : UInt32) :
    (∃ x ∈ run.notes m binary traces owner line, x.NamesLine key n) ↔
      run.key m = key ∧ run.line = n := by
  rw [exists_note_iff]
  constructor
  · rintro (h | h | ⟨o, ho, h⟩)
    · simp [Note.NamesLine] at h
    · simpa [Note.NamesLine] using h
    · rcases List.mem_map.1 ho with ⟨i, _, rfl⟩
      simpa [Note.NamesLine] using h
  · intro h
    exact Or.inr (Or.inl (by simpa [Note.NamesLine] using h))

/-- Of the notes on lines, those that say more are the observations. -/
theorem exists_instruction_iff (line : UInt32) (run : SourceRun) {Q : Note → Prop}
    (hfunction : ∀ key name declaredAt covered, ¬ Q ⟨key, .function name declaredAt covered⟩)
    (hline : ∀ key n, ¬ Q ⟨key, .line n⟩) :
    (∃ x ∈ run.notes m binary traces owner line, Q x) ↔
      ∃ o ∈ run.observations m binary traces,
        Q ⟨o.key, .instruction o.line o.binary o.address o.record⟩ := by
  rw [exists_note_iff]
  simp [hfunction, hline]

theorem filterMap_recordAt?_notes (line : UInt32) (run : SourceRun) (key : String) (n b : UInt32)
    (address : UInt64) :
    (run.notes m binary traces owner line).filterMap (Note.recordAt? key n b address) =
      ((run.observations m binary traces).filter (Observation.isAt key n b address)).map
        (·.record) := by
  unfold notes observations
  generalize run.instructions = instructions
  -- Of the notes of a run only those on instructions make records.
  rw [List.filterMap_cons_none rfl, List.filterMap_cons_none rfl]
  induction instructions with
  | nil =>
      rfl
  | cons i rest ih =>
      rw [List.map_cons, List.map_cons, List.filterMap_cons, List.filter_cons, ih]
      by_cases hat : run.key m = key ∧ run.line = n ∧ binary = b ∧ i.address = address
      · simp [Note.recordAt?, Observation.isAt, hat]
      · simp [Note.recordAt?, Observation.isAt, hat]

end SourceRun

namespace FunctionBlock

theorem map_snd_resolve (current : String) (runs : List SourceRun) :
    (resolve current runs).map (·.2) = runs := by
  induction runs generalizing current with
  | nil =>
      rfl
  | cons run rest ih =>
      simp [resolve, ih]

theorem map_snd_resolvedRuns (b : FunctionBlock) : b.resolvedRuns.map (·.2) = b.runs :=
  map_snd_resolve b.label b.runs

/-- Each run has its function. -/
theorem exists_resolvedRuns_iff (b : FunctionBlock) (P : SourceRun → Prop) :
    (∃ owned ∈ b.resolvedRuns, P owned.2) ↔ ∃ run ∈ b.runs, P run := by
  rw [← b.map_snd_resolvedRuns]
  simp only [List.mem_map, exists_exists_and_eq_and]

theorem home_mem_runs {b : FunctionBlock} {home : SourceRun} (h : b.homeRun? = some home) :
    home ∈ b.runs := by
  unfold homeRun? at h
  rcases Option.map_eq_some_iff.1 h with ⟨owned, hfound, hsnd⟩
  rw [← b.map_snd_resolvedRuns]
  exact List.mem_map.2 ⟨owned, List.mem_of_find?_eq_some hfound, hsnd⟩

/-- A block with a home gives a run to its label. -/
theorem exists_label_run {b : FunctionBlock} {home : SourceRun} (h : b.homeRun? = some home) :
    ∃ owned ∈ b.resolvedRuns, owned.1 = b.label := by
  unfold homeRun? at h
  rcases Option.map_eq_some_iff.1 h with ⟨owned, hfound, _⟩
  exact ⟨owned, List.mem_of_find?_eq_some hfound, by simpa using List.find?_some hfound⟩

end FunctionBlock

namespace CountedBlock

variable {m : SourceMapping} {b : CountedBlock}

theorem hasRun_iff : b.hasRun ↔ ∃ run ∈ b.block.runs, run.Ran b.traces := by
  simp only [hasRun, List.any_eq_true, TraceStore.hasRun_iff]

theorem exists_note_iff (Q : Note → Prop) :
    (∃ x ∈ b.notes m, Q x) ↔
      Q ⟨b.home.key m, .function b.block.label 0 false⟩ ∨
        (∃ owned ∈ b.block.resolvedRuns,
          ∃ x ∈ owned.2.notes m b.binary b.traces owned.1 0, Q x) ∨
        (b.hasRun ∧ Q ⟨b.home.key m, .function b.block.label 0 true⟩) := by
  unfold notes
  simp only [List.mem_append, List.mem_cons, List.mem_flatMap]
  cases b.hasRun <;> aesop

theorem exists_key_iff (key : String) :
    (∃ x ∈ b.notes m, x.key = key) ↔ ∃ run ∈ b.block.runs, run.key m = key := by
  rw [exists_note_iff]
  simp only [SourceRun.exists_key_iff,
    b.block.exists_resolvedRuns_iff fun run => run.key m = key]
  have hhome := FunctionBlock.home_mem_runs b.isHome
  constructor
  · rintro (h | h | ⟨_, h⟩)
    · exact ⟨b.home, hhome, h⟩
    · exact h
    · exact ⟨b.home, hhome, h⟩
  · intro h
    exact Or.inr (Or.inl h)

theorem exists_namesFunction_iff (key name : String) :
    (∃ x ∈ b.notes m, x.NamesFunction key name) ↔
      (b.home.key m = key ∧ b.block.label = name) ∨
        ∃ owned ∈ b.block.resolvedRuns, owned.2.key m = key ∧ owned.1 = name := by
  have hlabel : ∀ covered, Note.NamesFunction key name
      ⟨b.home.key m, .function b.block.label 0 covered⟩ ↔
        b.home.key m = key ∧ b.block.label = name := by
    simp [Note.NamesFunction]
  rw [exists_note_iff]
  simp only [SourceRun.exists_namesFunction_iff, hlabel]
  constructor
  · rintro (h | h | ⟨_, h⟩)
    · exact Or.inl h
    · exact Or.inr h
    · exact Or.inl h
  · rintro (h | h)
    · exact Or.inl h
    · exact Or.inr (Or.inl h)

theorem exists_coversFunction_iff (key name : String) :
    (∃ x ∈ b.notes m, x.CoversFunction key name) ↔
      (b.home.key m = key ∧ b.block.label = name ∧ ∃ run ∈ b.block.runs, run.Ran b.traces) ∨
        ∃ owned ∈ b.block.resolvedRuns,
          owned.2.key m = key ∧ owned.1 = name ∧ owned.2.Ran b.traces := by
  have huncovered : ¬ Note.CoversFunction key name
      ⟨b.home.key m, .function b.block.label 0 false⟩ := by
    simp [Note.CoversFunction]
  have hcovered : Note.CoversFunction key name
      ⟨b.home.key m, .function b.block.label 0 true⟩ ↔
        b.home.key m = key ∧ b.block.label = name := by
    simp [Note.CoversFunction]
  rw [exists_note_iff, ← hasRun_iff]
  simp only [SourceRun.exists_coversFunction_iff, huncovered, hcovered, false_or]
  constructor
  · rintro (h | ⟨hrun, hkey, hname⟩)
    · exact Or.inr h
    · exact Or.inl ⟨hkey, hname, hrun⟩
  · rintro (⟨hkey, hname, hrun⟩ | h)
    · exact Or.inr ⟨hrun, hkey, hname⟩
    · exact Or.inl h

theorem exists_namesLine_iff (key : String) (n : UInt32) :
    (∃ x ∈ b.notes m, x.NamesLine key n) ↔
      ∃ run ∈ b.block.runs, run.key m = key ∧ run.line = n := by
  rw [exists_note_iff]
  simp only [SourceRun.exists_namesLine_iff,
    b.block.exists_resolvedRuns_iff fun run => run.key m = key ∧ run.line = n]
  simp [Note.NamesLine]

theorem exists_instruction_iff {Q : Note → Prop}
    (hfunction : ∀ key name declaredAt covered, ¬ Q ⟨key, .function name declaredAt covered⟩)
    (hline : ∀ key n, ¬ Q ⟨key, .line n⟩) :
    (∃ x ∈ b.notes m, Q x) ↔
      ∃ o ∈ b.observations m, Q ⟨o.key, .instruction o.line o.binary o.address o.record⟩ := by
  have howned := b.block.exists_resolvedRuns_iff fun run =>
    ∃ o ∈ run.observations m b.binary b.traces,
      Q ⟨o.key, .instruction o.line o.binary o.address o.record⟩
  rw [exists_note_iff]
  simp only [SourceRun.exists_instruction_iff m b.binary b.traces _ _ _ hfunction hline, hfunction,
    and_false, or_false, false_or, howned]
  exact (exists_mem_flatMap_iff _).symm

theorem exists_namesBinary_iff (key : String) (n binary : UInt32) :
    (∃ x ∈ b.notes m, x.NamesBinary key n binary) ↔
      ∃ o ∈ b.observations m, o.key = key ∧ o.line = n ∧ o.binary = binary := by
  rw [exists_instruction_iff (by simp [Note.NamesBinary]) (by simp [Note.NamesBinary])]
  simp [Note.NamesBinary]

theorem binary_of_mem_observations {o : Observation} (h : o ∈ b.observations m) :
    o.binary = b.binary := by
  rcases List.mem_flatMap.1 h with ⟨run, _, ho⟩
  rcases List.mem_map.1 ho with ⟨i, _, rfl⟩
  rfl

theorem exists_coversLine_iff (key : String) (n : UInt32) :
    (∃ x ∈ b.notes m, x.CoversLine key n) ↔
      ∃ o ∈ b.observations m, o.key = key ∧ o.line = n ∧ 0 < o.record.count := by
  rw [exists_instruction_iff (by simp [Note.CoversLine]) (by simp [Note.CoversLine])]
  simp [Note.CoversLine, and_assoc]

theorem filterMap_recordAt?_notes (key : String) (n binary : UInt32) (address : UInt64) :
    (b.notes m).filterMap (Note.recordAt? key n binary address) =
      ((b.observations m).filter (Observation.isAt key n binary address)).map (·.record) := by
  -- The notes on the label, before and after those of the runs, make no records.
  have hlabel : (if b.hasRun then [Note.mk (b.home.key m) (.function b.block.label 0 true)]
      else []).filterMap (Note.recordAt? key n binary address) = [] := by
    split <;> rfl
  unfold notes observations
  rw [List.cons_append, List.filterMap_cons_none rfl, List.filterMap_append, hlabel,
    List.append_nil, List.filterMap_flatMap, List.filter_flatMap, List.map_flatMap,
    ← b.block.map_snd_resolvedRuns, List.flatMap_map]
  congr 1
  funext owned
  exact owned.2.filterMap_recordAt?_notes m b.binary b.traces owned.1 0 key n binary address

end CountedBlock

end BinaryCoverage
