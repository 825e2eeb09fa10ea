import BinaryCoverage.Proofs.Disassembly.Reading

/-!
# Where the lines of a transcript count

Each line of a transcript counts in one place, and where it does depends on the lines that say
something alone.  This file defines:

* `Attributes` — the blocks that stand for the lines of a transcript.

It shows that the blocks of every text stand for its lines, and that neither lines that say nothing
nor the form of the line ends change them.
-/

namespace BinaryCoverage

/-- All instructions of a block, in the order of the transcript. -/
def FunctionBlock.instructions (b : FunctionBlock) : List Instruction :=
  b.unattributed ++ b.runs.flatMap (·.instructions)

namespace Disassembly

/-- Each line counts in the one place where it belongs. -/
structure Attributes (lines : List Line) (blocks : List FunctionBlock) : Prop where
  /-- Each header has a block, and the lines above the first have none. -/
  headers : blocks.map (fun b => (b.address, b.label)) = lines.filterMap Line.header?
  /-- The lines below a header are those of its block: its locations are the runs. -/
  bodies : blocks = (stretches Line.header? lines).map Stretch.block
  /-- A run belongs to the function named last before its location, or to that of the block. -/
  owners : ∀ s ∈ stretches Line.header? lines, s.block.resolvedRuns =
    (stretches Line.location? s.body).map fun r => (r.owner s.opening.2, r.run)
  /-- Each instruction below the first header is in one place, and all are in order. -/
  instructions : blocks.flatMap FunctionBlock.instructions =
    (lines.dropWhile fun line => line.header?.isNone).filterMap Line.instruction?

theorem Stretch.instructions_block (s : Stretch (UInt64 × String)) :
    s.block.instructions = s.body.filterMap Line.instruction? := by
  have hsilent : ∀ line : Line, line.location?.isSome → line.instruction? = none := by
    intro line hline
    cases line <;> first | rfl | cases hline
  rw [← filterMap_stretchesFrom hsilent [] s.body]
  simp [FunctionBlock.instructions, block, run, stretches, List.flatMap_map]

theorem Stretch.resolvedRuns_block (s : Stretch (UInt64 × String)) :
    s.block.resolvedRuns =
      (stretches Line.location? s.body).map fun r => (r.owner s.opening.2, r.run) :=
  resolve_map_run s.opening.2 [] s.body rfl

theorem attributes_map_block (lines : List Line) :
    Attributes lines ((stretches Line.header? lines).map Stretch.block) where
  headers := by
    rw [← map_opening_stretchesFrom [] lines, List.map_map]
    rfl
  bodies := rfl
  owners s _ := s.resolvedRuns_block
  instructions := by
    have hsilent : ∀ line : Line, line.header?.isSome → line.instruction? = none := by
      intro line hline
      cases line <;> first | rfl | cases hline
    have hall := filterMap_stretchesFrom hsilent [] lines
    -- What stands above the first header is on both sides.
    have hsplit : lines.filterMap Line.instruction? =
        (upTo Line.header? lines).filterMap Line.instruction? ++
          (lines.dropWhile fun line => line.header?.isNone).filterMap Line.instruction? := by
      rw [← List.filterMap_append, upTo, List.takeWhile_append_dropWhile]
    rw [hsplit] at hall
    have hbodies := List.append_cancel_left hall
    simpa only [stretches, List.flatMap_map, Stretch.instructions_block] using hbodies

namespace Transcript

/-! ## Changes that do not matter -/

theorem blocksOfLines_filter (lines : List Line) :
    blocksOfLines (lines.filter (· ≠ .other)) = blocksOfLines lines := by
  have hfold : ∀ t : Transcript,
      (lines.filter (· ≠ .other)).foldl step t = lines.foldl step t := by
    induction lines with
    | nil =>
        intro t
        rfl
    | cons line rest ih =>
        intro t
        by_cases hline : line = .other
        · subst hline
          exact ih t
        · rw [List.filter_cons_of_pos (by simpa using hline)]
          exact ih (step t line)
  unfold blocksOfLines ofLines
  rw [hfold]

/-- A header ends what stands above it, whatever that is. -/
theorem blocksOfLines_append_header (above : List Line) (address : UInt64) (label : String)
    (below : List Line) :
    blocksOfLines (above ++ .header address label :: below) =
      blocksOfLines above ++ blocksOfLines (.header address label :: below) := by
  have hblocks : ∀ t : Transcript,
      ((Line.header address label :: below).foldl step t).close.reverse = t.close.reverse ++
        complete { address, label } [] (upTo Line.header? below) ::
          (stretchesFrom Line.header? [] below).map Stretch.block := by
    intro t
    exact close_foldl_step below t.close { address, label } [] []
  unfold blocksOfLines ofLines
  rw [List.foldl_append, hblocks, hblocks]
  rfl

theorem linesOf_append {s : String} (h : Text.isTerminated s.toList) (t : String) :
    linesOf (s ++ t) = linesOf s ++ linesOf t := by
  unfold linesOf
  rw [String.toList_append, Text.lines_append h, List.map_append]

/-- The text with a carriage return before each line feed. -/
def withReturns (text : String) : String := String.ofList (Text.withReturns text.toList)

theorem linesOf_withReturns (text : String) : linesOf (withReturns text) = linesOf text := by
  have hlines : ∀ s : String, linesOf s =
      ((Text.lines s.toList).map Text.dropReturns).map Line.ofChars := by
    intro s
    rw [List.map_map]
    rfl
  rw [hlines, hlines, withReturns, String.toList_ofList,
    Text.map_dropReturns_lines_withReturns]

theorem blocksOf_of_filter_eq {s t : String}
    (h : (linesOf s).filter (· ≠ .other) = (linesOf t).filter (· ≠ .other)) :
    blocksOf s = blocksOf t := by
  unfold blocksOf
  rw [← blocksOfLines_filter (linesOf s), h, blocksOfLines_filter]

theorem blocksOf_insert {above silent below : String} (habove : Text.isTerminated above.toList)
    (hends : Text.isTerminated silent.toList ∨ below = "")
    (hsilent : ∀ line ∈ linesOf silent, line = .other) :
    blocksOf (above ++ silent ++ below) = blocksOf (above ++ below) := by
  have hnone : (linesOf silent).filter (· ≠ .other) = [] := by
    rw [List.filter_eq_nil_iff]
    intro line hline
    simp [hsilent line hline]
  have hlines : linesOf (silent ++ below) = linesOf silent ++ linesOf below := by
    rcases hends with hterminated | rfl
    · exact linesOf_append hterminated below
    · have hempty : linesOf "" = [] := rfl
      rw [String.append_empty, hempty, List.append_nil]
  apply blocksOf_of_filter_eq
  rw [String.append_assoc, linesOf_append habove, linesOf_append habove, hlines,
    List.filter_append, List.filter_append, List.filter_append, hnone, List.nil_append]

theorem blocksOf_append {s t : String} (hs : Text.isTerminated s.toList)
    (ht : ((linesOf t).head?.bind Line.header?).isSome) :
    blocksOf (s ++ t) = blocksOf s ++ blocksOf t := by
  cases hlines : linesOf t with
  | nil =>
      simp [hlines] at ht
  | cons line below =>
      cases line with
      | header address label =>
          unfold blocksOf
          rw [linesOf_append hs, hlines, blocksOfLines_append_header]
      | _ =>
          simp [hlines, Line.header?] at ht

/-- The blocks of a text stand for its lines.  They stay the same when lines that say nothing come
or go, or when the line ends are written in another way, and a text that begins with a header adds
its own blocks to those of the text before it. -/
theorem blocksOf_attributes :
    (∀ text, Attributes (linesOf text) (blocksOf text)) ∧
    (∀ s t, (linesOf s).filter (· ≠ .other) = (linesOf t).filter (· ≠ .other) →
      blocksOf s = blocksOf t) ∧
    (∀ above silent below : String, Text.isTerminated above.toList →
      Text.isTerminated silent.toList ∨ below = "" → (∀ line ∈ linesOf silent, line = .other) →
      blocksOf (above ++ silent ++ below) = blocksOf (above ++ below)) ∧
    (∀ text, blocksOf (withReturns text) = blocksOf text) ∧
    (∀ s t : String, Text.isTerminated s.toList → ((linesOf t).head?.bind Line.header?).isSome →
      blocksOf (s ++ t) = blocksOf s ++ blocksOf t) := by
  refine ⟨?_, ?_, ?_, ?_, ?_⟩
  · intro text
    have hblocks : blocksOf text = (stretches Line.header? (linesOf text)).map Stretch.block :=
      blocksOfLines_eq (linesOf text)
    rw [hblocks]
    exact attributes_map_block (linesOf text)
  · intro s t h
    exact blocksOf_of_filter_eq h
  · intro above silent below habove hends hsilent
    exact blocksOf_insert habove hends hsilent
  · intro text
    unfold blocksOf
    rw [linesOf_withReturns]
  · intro s t hs ht
    exact blocksOf_append hs ht

/-- A marker without a location, source text and a second header. -/
theorem blocksOf_attributes_twoBlocks :
    let first := "10 <f>:\nf():\n/a.c:1\n  10:\tpush\ng():\n"
    let second := "20 <g>:\n  20:\tret\n"
    (blocksOf (first ++ second)).map (·.label) = ["f", "g"] ∧
    blocksOf (first ++ second) = blocksOf first ++ blocksOf second ∧
    blocksOf (first ++ "int x;\n" ++ second) = blocksOf (first ++ second) ∧
    blocksOf (first ++ "int x;\n") = blocksOf first := by
  intro first second
  obtain ⟨-, hsame, hinsert, -, happend⟩ := blocksOf_attributes
  have hfirst : Text.isTerminated first.toList := by
    decide +kernel
  refine ⟨?_, happend first second hfirst ?_, hinsert first "int x;\n" second hfirst ?_ ?_,
    hsame _ _ ?_⟩
  · decide +kernel
  · decide +kernel
  · exact .inl (by decide +kernel)
  · decide +kernel
  · decide +kernel

end Transcript

end Disassembly

end BinaryCoverage
