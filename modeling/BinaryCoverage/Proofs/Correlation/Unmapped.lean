import BinaryCoverage.Proofs.Correlation.Entry
import BinaryCoverage.Proofs.Correlation.Observation
import BinaryCoverage.Proofs.Files.Walk

/-!
# Functions without source lines over several binaries

Binary after binary is correlated, and then its functions without source lines are placed.  A
function that several binaries leave to that gets its entry from the first of them; what the
others say about it comes too late.  This file defines:

* `BinaryInput.entered?` — what a binary says about a function without source lines;
* `BinaryInput.LeavesOut` — a transcript gives none of its lines to a function;
* `Session` — a correlator and a search that take binary after binary;

and shows which binary decides (`coverage?_takeAll`).
-/

namespace BinaryCoverage

open Disassembly (Transcript)

/-! ## Binary after binary -/

/-- What a binary says about an active function without source lines: whether it has been
entered. -/
def BinaryInput.entered? (b : BinaryInput) (f : String) : Option Bool :=
  ((b.functions.get? f).filter (!·.mapped)).map fun s => b.traces.contains s.start

/-- A transcript gives none of its lines to a function. -/
def BinaryInput.LeavesOut (b : BinaryInput) (f : String) : Prop :=
  ∀ block ∈ Transcript.blocksOf b.transcript, ∀ owned ∈ block.resolvedRuns, owned.1 ≠ f

namespace BinaryInput

variable {b : BinaryInput} {f : String}

theorem owner_ne_of_leavesOut (h : b.LeavesOut f) {i : UInt32} {block : CountedBlock}
    (hblock : block ∈ b.counted i) : ∀ owned ∈ block.block.resolvedRuns, owned.1 ≠ f :=
  h block.block (mem_counted_iff.1 hblock).1

theorem label_ne_of_leavesOut (h : b.LeavesOut f) {i : UInt32} {block : CountedBlock}
    (hblock : block ∈ b.counted i) : block.block.label ≠ f := by
  rcases FunctionBlock.exists_label_run block.isHome with ⟨owned, howned, hlabel⟩
  rw [← hlabel]
  exact owner_ne_of_leavesOut h hblock owned howned

theorem notMem_marks_of_leavesOut (h : b.LeavesOut f) (i : UInt32) :
    f ∉ (b.counted i).flatMap CountedBlock.marks := by
  intro hmem
  rcases List.mem_flatMap.1 hmem with ⟨block, hblock, hf⟩
  rcases List.mem_cons.1 hf with hf | hf
  · exact label_ne_of_leavesOut h hblock hf.symm
  · rcases List.mem_map.1 hf with ⟨owned, howned, hf⟩
    exact owner_ne_of_leavesOut h hblock owned howned hf

theorem not_namesFunction_of_leavesOut (h : b.LeavesOut f) (m : SourceMapping) (i : UInt32)
    (key : String) :
    ∀ x ∈ (b.counted i).flatMap (CountedBlock.notes m), ¬ x.NamesFunction key f := by
  intro x hx hnames
  rcases List.mem_flatMap.1 hx with ⟨block, hblock, hx⟩
  rcases (block.exists_namesFunction_iff key f).1 ⟨x, hx, hnames⟩ with
    ⟨_, hlabel⟩ | ⟨owned, howned, _, hf⟩
  · exact label_ne_of_leavesOut h hblock hlabel
  · exact owner_ne_of_leavesOut h hblock owned howned hf

end BinaryInput

structure Session where
  correlator : Correlator
  search : SourceSearch

namespace Session

/-- Correlates a binary, then places its functions without source lines. -/
def take (v : SourceView) (s : Session) (b : BinaryInput) : Option Failure × Session :=
  match s.correlator.take v b with
  | (some e, p) => (some e, { s with correlator := p.correlator })
  | (none, p) =>
      let (failure, q) := p.correlator.placeUnmapped v p.functions b.traces s.search
      (failure, ⟨q.correlator, q.search⟩)

def takeAll (v : SourceView) : Session → List BinaryInput → Option Failure × Session :=
  attemptEach (take v)

theorem rel_index_take (v : SourceView) (s : Session) (b : BinaryInput) :
    Option.Rel DeclarationIndex.Extends s.correlator.index (take v s b).2.correlator.index := by
  have hspec := s.correlator.take_spec v b
  unfold take
  rcases htake : s.correlator.take v b with ⟨_ | e, p⟩
  · rw [htake] at hspec
    exact DeclarationIndex.rel_trans hspec.index
      (p.correlator.keeps_placeUnmapped v p.functions b.traces s.search).index
  · rw [htake] at hspec
    exact hspec.index

variable {v : SourceView} {y : DeclarationIndex} {root path : Path} {f : String}

theorem coverage?_take {s : Session} {b : BinaryInput}
    (hsearch : s.search.Faithful v.declarations.files root) (hout : b.LeavesOut f)
    (hsucceeds : (take v s b).1 = none)
    (hlater : Option.Rel DeclarationIndex.Extends (take v s b).2.correlator.index (some y))
    (hsole : y.DeclaresOnlyIn v.declarations root f path) :
    (take v s b).2.search.Faithful v.declarations.files root ∧
      (take v s b).2.correlator.document.coverage? (v.mapping.keyOfLocal path) f =
        (s.correlator.document.coverage? (v.mapping.keyOfLocal path) f).or (b.entered? f) := by
  have hspec := s.correlator.take_spec v b
  unfold take at hsucceeds hlater ⊢
  rcases htake : s.correlator.take v b with ⟨_ | e, p⟩
  · simp only [htake] at hsucceeds hlater hspec ⊢
    rcases hspec.document with ⟨xs, hxs, hdocument⟩
    rcases hspec.functions with ⟨names, hnames, hfunctions⟩
    -- The transcript neither marks the function nor notes anything about it.
    have hmarks := BinaryInput.notMem_marks_of_leavesOut hout (s.correlator.registry.index b.name).1
    rw [← hnames.complete rfl] at hmarks
    have hleft : ∀ x ∈ xs, ¬ x.NamesFunction (v.mapping.keyOfLocal path) f := by
      intro x hx hnamesf
      have hplanned := hxs.begins.mem (List.mem_map_of_mem hx)
      exact BinaryInput.not_namesFunction_of_leavesOut hout v.mapping _ _ _ hplanned
        ((x.namesFunction_bare _ _).2 hnamesf)
    have hsame : p.correlator.document.coverage? (v.mapping.keyOfLocal path) f =
        s.correlator.document.coverage? (v.mapping.keyOfLocal path) f := by
      rw [hdocument, Document.coverage?, Document.function?_noteAll_of_not_names _ hleft]
      rfl
    -- The function is as the table of the binary has it, since it has not been marked.
    have hentered : (p.functions.unmapped.find? (·.name = f)).map
        (fun s => b.traces.contains s.start) = b.entered? f := by
      rw [hfunctions, FunctionTable.find?_unmapped,
        FunctionTable.get?_markAll_of_notMem hmarks]
      rfl
    rw [← hsame, ← hentered]
    exact FallbackProgress.coverage?_steps hsearch hsucceeds hlater hsole
  · simp [htake] at hsucceeds

theorem rel_index_takeAll (v : SourceView) (s : Session) (inputs : List BinaryInput) :
    Option.Rel DeclarationIndex.Extends s.correlator.index
      (takeAll v s inputs).2.correlator.index := by
  refine attemptEach_respects (R := fun s t : Session =>
    Option.Rel DeclarationIndex.Extends s.correlator.index t.correlator.index) ?_ ?_ inputs ?_ s
  · intro s
    exact DeclarationIndex.rel_refl _
  · intro s t u hst htu
    exact DeclarationIndex.rel_trans hst htu
  · intro s b _
    exact rel_index_take v s b

theorem coverage?_takeAll_from {s : Session} {inputs : List BinaryInput}
    (hsearch : s.search.Faithful v.declarations.files root)
    (hout : ∀ b ∈ inputs, b.LeavesOut f)
    (hsucceeds : (takeAll v s inputs).1 = none)
    (hlater : Option.Rel DeclarationIndex.Extends (takeAll v s inputs).2.correlator.index (some y))
    (hsole : y.DeclaresOnlyIn v.declarations root f path) :
    (takeAll v s inputs).2.correlator.document.coverage? (v.mapping.keyOfLocal path) f =
      (s.correlator.document.coverage? (v.mapping.keyOfLocal path) f).or
        (inputs.findSome? (·.entered? f)) := by
  induction inputs generalizing s with
  | nil =>
      simp [takeAll, attemptEach]
  | cons b rest ih =>
      unfold takeAll at hsucceeds hlater ⊢
      have htake := first_of_attemptEach_cons hsucceeds
      rw [attemptEach_cons_of_none htake] at hsucceeds hlater ⊢
      -- The final index has learnt all that this binary has asked for.
      have hrest := rel_index_takeAll v (take v s b).2 rest
      have hfirst := coverage?_take hsearch (hout b (by simp)) htake
        (DeclarationIndex.rel_trans hrest hlater) hsole
      have hall := ih hfirst.1 (fun c hc => hout c (by simp [hc])) hsucceeds hlater
      refine hall.trans ?_
      rw [hfirst.2, Option.or_assoc, List.findSome?_cons]
      cases b.entered? f <;> rfl

/-- Where the first answer decides, it is whether any answer is yes, unless it is no and a later
one is yes. -/
theorem findSome?_decides_iff (inputs : List BinaryInput) (f : String) :
    ((inputs.findSome? (·.entered? f) = some true ↔ ∃ b ∈ inputs, b.entered? f = some true) ↔
      (inputs.findSome? (·.entered? f) = some false → ∀ b ∈ inputs, b.entered? f ≠ some true)) := by
  -- Only a first answer of no can be at odds with the others.
  cases hfirst : inputs.findSome? (·.entered? f) with
  | none =>
      have hnone := List.findSome?_eq_none_iff.1 hfirst
      simp only [reduceCtorEq, false_iff, false_implies, iff_true, not_exists, not_and]
      intro b hb
      rw [hnone b hb]
      exact nofun
  | some covered =>
      cases covered with
      | true =>
          rcases List.exists_of_findSome?_eq_some hfirst with ⟨b, hb, hentry⟩
          simp only [true_iff, Option.some.injEq, Bool.true_eq_false, false_implies, iff_true]
          exact ⟨b, hb, hentry⟩
      | false =>
          simp

/-! ## A function in the only file -/

/-- The folder with one file, which declares one function. -/
def loneFile : SourceView where
  mapping := ⟨⟨"/w"⟩, ⟨"/"⟩, true⟩
  declarations :=
    ⟨{ entries := (∅ : Table Path.Location FileEntry).insert ["f.c"] (.file "f".toUTF8 false) },
      fun _ => .ok (Table.build [("f", 1)])⟩

def loneFunction : FunctionTable := .ofSymbols [⟨"f", 4096, 4112, false⟩]

def untraced : BinaryInput := ⟨"bl1", "", loneFunction, {}⟩

def traced : BinaryInput := ⟨"bl2", "", loneFunction, TraceStore.ingest {} "1000 1 4"⟩

/-- What is known once the file has been asked for the function. -/
def loneIndex : DeclarationIndex where
  known := (∅ : Table (List Component) Declarations).insert (Path.mk "/f.c").components
    (Table.build [("f", 1)])
  asked := [⟨"/f.c"⟩]

def afterUntraced : Session where
  correlator :=
    { document := ({} : Document).updateFile "f.c" (·.setFunction "f" 1 false)
      registry := (BinaryRegistry.index {} "bl1").2
      index := some loneIndex }
  search := ⟨⟨"/"⟩, some [(⟨"/f.c"⟩, "f")]⟩

theorem sourcesIn_loneFile :
    SourceSearch.sourcesIn loneFile.declarations.files ⟨"/"⟩ = .ok [(⟨"/f.c"⟩, "f")] := by
  -- A walk recurses on a measure, so that `decide` cannot run it and it is taken piece by piece.
  have hlocate : loneFile.declarations.files.locate true ⟨"/"⟩ = .ok [] := by
    have hpieces : (Path.mk "/").pieces = [[], []] := by
      decide +kernel
    rw [FileTree.locate_of_isAbsolute _ _ (by decide +kernel) hpieces (by decide +kernel)
      (by decide +kernel), FileTree.walk_silent _ _ _ _ (by decide), FileTree.walk_nil]
  unfold SourceSearch.sourcesIn FileTree.folder FileTree.find
  rw [hlocate]
  decide +kernel

theorem isFile_loneFile : loneFile.declarations.files.isFile ⟨"/f.c"⟩ = true := by
  have hlocate : loneFile.declarations.files.locate true ⟨"/f.c"⟩ = .ok ["f.c"] := by
    have hpieces : (Path.mk "/f.c").pieces = [[], "f.c".toList] := by
      decide +kernel
    have hentry : loneFile.declarations.files.entry? ["f.c"] = some (.file "f".toUTF8 false) := by
      decide +kernel
    rw [FileTree.locate_of_isAbsolute _ _ (by decide +kernel) hpieces (by decide +kernel)
      (by decide +kernel)]
    exact FileTree.walk_file _ _ _ _ (by decide) (by decide) (by decide +kernel) hentry
  unfold FileTree.isFile FileTree.find
  rw [hlocate]
  decide +kernel

theorem mentioning_loneFile :
    SourceSearch.mentioning { root := ⟨"/"⟩ } loneFile.declarations.files "f" =
      (.ok [⟨"/f.c"⟩], afterUntraced.search) := by
  have hmentions : Text.mentions "f" "f" = true := by
    decide +kernel
  unfold SourceSearch.mentioning SourceSearch.load
  dsimp only
  rw [sourcesIn_loneFile]
  simp [Except.map, hmentions, afterUntraced]

theorem line?_loneFile :
    ({} : DeclarationIndex).line? loneFile.declarations ⟨"/f.c"⟩ "f" =
      (.ok (some 1), loneIndex) := by
  have hline : (Table.build [("f", (1 : UInt32))])["f"]? = some 1 := by
    decide +kernel
  have hunknown : ({} : DeclarationIndex).known[(Path.mk "/f.c").components]? = none := by
    simp
  unfold DeclarationIndex.line? DeclarationIndex.declarations DeclarationIndex.fetch
  rw [hunknown]
  dsimp only
  rw [if_pos isFile_loneFile]
  simp [loneFile, loneIndex, Except.map, hline]

/-- The first binary leaves an entry behind. -/
theorem take_untraced :
    take loneFile ⟨{ index := some {} }, { root := ⟨"/"⟩ }⟩ untraced = (none, afterUntraced) := by
  have hblocks : Transcript.blocksOf "" = [] := by
    decide +kernel
  have hunmapped : loneFunction.unmapped = [⟨"f", 4096, 4112, false⟩] := by
    decide +kernel
  have hdeclared : FallbackProgress.declaring loneFile.declarations "f" {} [⟨"/f.c"⟩] =
      (.ok [(⟨"/f.c"⟩, 1)], loneIndex) := by
    rw [FallbackProgress.declaring, line?_loneFile]
    rfl
  have hkey : loneFile.mapping.keyOfLocal ⟨"/f.c"⟩ = "f.c" := by
    decide +kernel
  have habsent : FallbackProgress.hasFunction {} "f.c" "f" = false := by
    decide +kernel
  have hentered : TraceStore.contains {} 4096 = false := by
    decide +kernel
  unfold take Correlator.take Correlator.correlate Correlator.placeUnmapped untraced
  simp [hblocks, attemptEach, hunmapped, FallbackProgress.step, mentioning_loneFile, hdeclared,
    FallbackProgress.place, hkey, habsent, hentered, Correlator.updateFile, afterUntraced]

theorem takeAll_untraced_traced :
    takeAll loneFile ⟨{ index := some {} }, { root := ⟨"/"⟩ }⟩ [untraced, traced] =
      takeAll loneFile afterUntraced [traced] := by
  rw [takeAll, attemptEach, take_untraced]

theorem declaresOnlyIn_loneFile (y : DeclarationIndex)
    (hy : (takeAll loneFile ⟨{ index := some {} }, { root := ⟨"/"⟩ }⟩
      [untraced, traced]).2.correlator.index = some y) :
    y.DeclaresOnlyIn loneFile.declarations ⟨"/"⟩ "f" ⟨"/f.c"⟩ := by
  have hlast : (takeAll loneFile afterUntraced [traced]).2.correlator.index.map (fun y =>
      [Path.mk "/f.c"].filter (y.declares loneFile.declarations "f")) = some [⟨"/f.c"⟩] := by
    decide +kernel
  rw [takeAll_untraced_traced] at hy
  rw [hy] at hlast
  refine ⟨[⟨"/f.c"⟩], ?_, Option.some.inj hlast⟩
  have hmentions : Text.mentions "f" "f" = true := by
    decide +kernel
  rw [SourceSearch.candidates, sourcesIn_loneFile]
  simp [Except.map, hmentions]

/-! ## The binary that decides -/

/-- Of the binaries that leave a function to be placed, the first one says whether it is covered.
That is whether any of them has entered it, unless the first one has not and a later one has. -/
theorem coverage?_takeAll {x : DeclarationIndex} {inputs : List BinaryInput}
    (hsucceeds : (takeAll v ⟨{ index := some x }, { root }⟩ inputs).1 = none)
    (hout : ∀ b ∈ inputs, b.LeavesOut f)
    (hsole : ∀ y, (takeAll v ⟨{ index := some x }, { root }⟩ inputs).2.correlator.index = some y →
      y.DeclaresOnlyIn v.declarations root f path) :
    let d := (takeAll v ⟨{ index := some x }, { root }⟩ inputs).2.correlator.document
    d.coverage? (v.mapping.keyOfLocal path) f = inputs.findSome? (·.entered? f) ∧
      ((d.isFunctionCovered (v.mapping.keyOfLocal path) f ↔
          ∃ b ∈ inputs, b.entered? f = some true) ↔
        (inputs.findSome? (·.entered? f) = some false →
          ∀ b ∈ inputs, b.entered? f ≠ some true)) := by
  intro d
  have hindex := rel_index_takeAll v ⟨{ index := some x }, { root }⟩ inputs
  have hcoverage : d.coverage? (v.mapping.keyOfLocal path) f = inputs.findSome? (·.entered? f) := by
    cases hlast : (takeAll v ⟨{ index := some x }, { root }⟩ inputs).2.correlator.index with
    | none =>
        rw [hlast] at hindex
        cases hindex
    | some y =>
        have hall := coverage?_takeAll_from (SourceSearch.faithful_fresh v.declarations.files root)
          hout hsucceeds (hlast ▸ DeclarationIndex.rel_refl _) (hsole y hlast)
        refine hall.trans ?_
        simp [Document.coverage?, Document.function?, Document.file?]
  refine ⟨hcoverage, ?_⟩
  have hcovered : d.isFunctionCovered (v.mapping.keyOfLocal path) f ↔
      inputs.findSome? (·.entered? f) = some true := by
    rw [← hcoverage, Document.isFunctionCovered, Document.coverage?]
    cases d.function? (v.mapping.keyOfLocal path) f <;> simp
  rw [hcovered]
  exact findSome?_decides_iff inputs f

theorem coverage?_takeAll_untraced :
    let r := takeAll loneFile ⟨{ index := some {} }, { root := ⟨"/"⟩ }⟩ [untraced, traced]
    r.1 = none ∧ (∀ b ∈ [untraced, traced], b.LeavesOut "f") ∧
      r.2.correlator.document.coverage? "f.c" "f" =
        [untraced, traced].findSome? (·.entered? "f") := by
  have hsucceeds : (takeAll loneFile ⟨{ index := some {} }, { root := ⟨"/"⟩ }⟩
      [untraced, traced]).1 = none := by
    rw [takeAll_untraced_traced]
    decide +kernel
  have hempty : ∀ b ∈ [untraced, traced], b.transcript = "" := by
    simp [untraced, traced]
  have hout : ∀ b ∈ [untraced, traced], b.LeavesOut "f" := by
    intro b hb block hblock
    have hnone : Transcript.blocksOf "" = [] := by
      decide +kernel
    rw [hempty b hb, hnone] at hblock
    cases hblock
  exact ⟨hsucceeds, hout, (coverage?_takeAll hsucceeds hout declaresOnlyIn_loneFile).1⟩

/-- The second binary has entered the function, which stays uncovered. -/
theorem untraced_first_not_covered :
    let r := takeAll loneFile ⟨{ index := some {} }, { root := ⟨"/"⟩ }⟩ [untraced, traced]
    r.1 = none ∧ (∃ b ∈ [untraced, traced], b.entered? "f" = some true) ∧
      r.2.correlator.document.isFunctionCovered "f.c" "f" = false := by
  rw [takeAll_untraced_traced]
  refine ⟨by decide +kernel, ⟨traced, by simp, by decide +kernel⟩, by decide +kernel⟩

end Session

end BinaryCoverage
