import BinaryCoverage.Correlation.Basic
import BinaryCoverage.Proofs.Coverage.Note

/-!
# The history of a correlation

What a sequence of transcripts has to say, read off the transcripts alone.  This file defines:

* `BinaryInput` — a binary as a correlation takes it;
* `CountedBlock` — a block of an active function with a run of its own;
* `countedBlocks` — the blocks of a sequence of binaries that count;
* `CountedBlock.notes`, `CountedBlock.marks` — what such a block adds to the document and to the
  function table.
-/

namespace BinaryCoverage

open Disassembly (Transcript)

structure BinaryInput where
  name : String
  transcript : String
  functions : FunctionTable
  traces : TraceStore

/-- A block with a run of its own, as a binary has it. -/
structure CountedBlock where
  binary : UInt32
  traces : TraceStore
  block : FunctionBlock
  home : SourceRun
  isHome : block.homeRun? = some home

/-- The block, if it counts: it has a run of its own and its label is active. -/
def FunctionBlock.counted? (block : FunctionBlock) (functions : FunctionTable) (binary : UInt32)
    (traces : TraceStore) : Option CountedBlock :=
  match h : block.homeRun? with
  | none => none
  | some home =>
      if functions.contains block.label then some ⟨binary, traces, block, home, h⟩ else none

/-- The blocks of a binary that count, under the index of the binary. -/
def BinaryInput.counted (b : BinaryInput) (binary : UInt32) : List CountedBlock :=
  (Transcript.blocksOf b.transcript).filterMap (·.counted? b.functions binary b.traces)

/-- The blocks of several binaries that count, in order. -/
def countedBlocks : BinaryRegistry → List BinaryInput → List CountedBlock
  | _, [] => []
  | r, b :: rest => b.counted (r.index b.name).1 ++ countedBlocks (r.index b.name).2 rest

/-- The key of the file that a run comes from. -/
def SourceRun.key (m : SourceMapping) (run : SourceRun) : String := m.keyOfBuilt ⟨run.file⟩

def SourceRun.notes (m : SourceMapping) (binary : UInt32) (traces : TraceStore) (owner : String)
    (line : UInt32) (run : SourceRun) : List Note :=
  ⟨run.key m, .function owner line (traces.hasRun run)⟩ :: ⟨run.key m, .line run.line⟩ ::
    run.instructions.map fun i =>
      ⟨run.key m, .instruction run.line binary i.address ⟨i.opcode, traces.count i.address⟩⟩

namespace CountedBlock

/-- Whether some instruction of the block ran. -/
def hasRun (b : CountedBlock) : Bool := b.block.runs.any b.traces.hasRun

/-- The notes of a block, declaration lines aside. -/
def notes (m : SourceMapping) (b : CountedBlock) : List Note :=
  ⟨b.home.key m, .function b.block.label 0 false⟩ ::
    (b.block.resolvedRuns.flatMap fun owned => owned.2.notes m b.binary b.traces owned.1 0) ++
    if b.hasRun then [⟨b.home.key m, .function b.block.label 0 true⟩] else []

/-- The functions that a block gives source lines. -/
def marks (b : CountedBlock) : List String := b.block.label :: b.block.resolvedRuns.map (·.1)

end CountedBlock

theorem FunctionBlock.counted?_eq_some_iff {b : FunctionBlock} {functions : FunctionTable}
    {binary : UInt32} {traces : TraceStore} {x : CountedBlock} :
    b.counted? functions binary traces = some x ↔
      x.block = b ∧ x.binary = binary ∧ x.traces = traces ∧ functions.contains b.label := by
  unfold counted?
  constructor
  · intro h
    split at h
    · cases h
    · split at h
      · rename_i hactive
        cases h
        exact ⟨rfl, rfl, rfl, hactive⟩
      · cases h
  · rintro ⟨rfl, rfl, rfl, hactive⟩
    rcases x with ⟨binary, traces, block, home, hhome⟩
    split
    · rename_i hnone
      rw [hhome] at hnone
      cases hnone
    · rename_i home' hhome'
      -- The block has no second home.
      have hsame : home' = home := Option.some.inj (hhome'.symm.trans hhome)
      subst hsame
      exact if_pos hactive

theorem BinaryInput.mem_counted_iff {b : BinaryInput} {binary : UInt32} {x : CountedBlock} :
    x ∈ b.counted binary ↔ x.block ∈ Transcript.blocksOf b.transcript ∧ x.binary = binary ∧
      x.traces = b.traces ∧ b.functions.contains x.block.label := by
  simp only [BinaryInput.counted, List.mem_filterMap, FunctionBlock.counted?_eq_some_iff]
  constructor
  · rintro ⟨block, hblock, rfl, hbinary, htraces, hactive⟩
    exact ⟨hblock, hbinary, htraces, hactive⟩
  · rintro ⟨hblock, hbinary, htraces, hactive⟩
    exact ⟨x.block, hblock, rfl, hbinary, htraces, hactive⟩

/-! ## Runs as notes -/

theorem FunctionCoverage.declare_declare (f : FunctionCoverage) (line : UInt32) :
    (f.declare line).declare line = f.declare line := by
  unfold declare
  split
  · simp
  · simp [*]

namespace FileCoverage

theorem updateLine_updateLine (c : FileCoverage) (n : UInt32) (f g : LineCoverage → LineCoverage) :
    (c.updateLine n f).updateLine n g = c.updateLine n (g ∘ f) := by
  unfold updateLine
  rw [Table.update_update]

theorem foldl_note_instructions (c : FileCoverage) (n binary : UInt32) (traces : TraceStore)
    (f : LineCoverage → LineCoverage) (instructions : List Instruction) :
    ((instructions.map fun i =>
      Finding.instruction n binary i.address ⟨i.opcode, traces.count i.address⟩).foldl note
        (c.updateLine n f)) =
      c.updateLine n fun l => (f l).recordAll binary traces instructions := by
  -- All instructions of a run update the same line, so that `f` gathers what came before.
  induction instructions generalizing f with
  | nil =>
      rfl
  | cons i rest ih =>
      rw [List.map_cons, List.foldl_cons, note_instruction, updateLine_updateLine, ih]
      rfl

/-- Declaring a function and covering it later is noting it once. -/
theorem recordRun_eq_foldl_note (c : FileCoverage) (binary : UInt32) (traces : TraceStore)
    (owner : String) (line : UInt32) (run : SourceRun) :
    c.recordRun binary traces owner line run =
      (Finding.line run.line :: run.instructions.map fun i =>
        Finding.instruction run.line binary i.address ⟨i.opcode, traces.count i.address⟩).foldl note
          (c.note (.function owner line (traces.hasRun run))) := by
  rw [List.foldl_cons, note_line, foldl_note_instructions]
  unfold recordRun
  cases traces.hasRun run with
  | false =>
      simp [declareFunction, updateFunction, updateLine, note]
  | true =>
      -- The second update of the function gives the same line again, which changes nothing.
      simp [declareFunction, setFunction, updateFunction, updateLine, note, Table.update_update,
        FunctionCoverage.declare_declare, Function.comp_def]

end FileCoverage

end BinaryCoverage
