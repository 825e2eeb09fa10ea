import BinaryCoverage.Proofs.Correlation.Steady
import BinaryCoverage.Proofs.Correlation.Total
import BinaryCoverage.Proofs.Files.Walk

/-!
# Correlating in one run or in two

A single run over all binaries takes the second part up where the first one is done, and adds to its
document what a run over the second part adds to nothing.  This file defines:

* `SourceView.correlateAfresh` — binaries correlated one after the other, from nothing;

and shows that one run over all binaries and the merge of two runs over some of them each come to
the same files (`files_correlateAfresh_append`), as long as each name gets the same index in both
and no path that both parts name is spelled in two ways that are answered differently.
-/

namespace BinaryCoverage

/-! ## Runs -/

/-- A run over two lists takes the second one up where the first one is done. -/
theorem attemptEach_append {σ α : Type} {step : σ → α → Option Failure × σ} {s : σ}
    {items : List α} (h : (attemptEach step s items).1 = none) (items' : List α) :
    attemptEach step s (items ++ items') = attemptEach step (attemptEach step s items).2 items' := by
  induction items generalizing s with
  | nil =>
      rfl
  | cons a rest ih =>
      have hfirst := first_of_attemptEach_cons h
      rw [attemptEach_cons_of_none hfirst] at h
      rw [List.cons_append, attemptEach_cons_of_none hfirst, attemptEach_cons_of_none hfirst]
      exact ih h

namespace Correlator

theorem registry_correlateAll {m : SourceMapping} {c : Correlator}
    {inputs : List (DeclarationSource × BinaryInput)}
    (hsucceeds : (c.correlateAll m inputs).1 = none) :
    (c.correlateAll m inputs).2.registry = c.registry.indexAll (inputs.map (·.2.name)) := by
  induction inputs generalizing c with
  | nil =>
      rfl
  | cons input rest ih =>
      rcases input with ⟨declarations, b⟩
      have htake := first_of_correlateAll_cons hsucceeds
      rw [correlateAll_cons_of_none htake] at hsucceeds ⊢
      refine (ih hsucceeds).trans ?_
      rw [(c.take_spec ⟨m, declarations⟩ b).registry]
      rfl

end Correlator

/-! ## One run and two -/

namespace SourceView

/-- Correlates binaries, with an index of declarations or without. -/
def correlateAfresh (v : SourceView) (indexed : Bool) (inputs : List BinaryInput) :
    Option Failure × Correlator :=
  ({ index := if indexed then some {} else none } : Correlator).correlateAll v.mapping
    (inputs.map (v.declarations, ·))

variable {v : SourceView} {indexed : Bool} {inputs : List BinaryInput}

theorem registry_correlateAfresh (hsucceeds : (v.correlateAfresh indexed inputs).1 = none) :
    (v.correlateAfresh indexed inputs).2.registry =
      BinaryRegistry.indexAll {} (inputs.map (·.name)) := by
  have hregistry := Correlator.registry_correlateAll hsucceeds
  rw [List.map_map] at hregistry
  exact hregistry

/-- A run over two parts takes the second one up where a run over the first one is done. -/
theorem correlateAfresh_append {S T : List BinaryInput}
    (hfirst : (v.correlateAfresh indexed S).1 = none) :
    v.correlateAfresh indexed (S ++ T) =
      (v.correlateAfresh indexed S).2.correlateAll v.mapping (T.map (v.declarations, ·)) := by
  rw [correlateAfresh, List.map_append]
  exact attemptEach_append hfirst _

theorem answersAlike_fresh {keys others : List String}
    (halike : indexed → v.AnswersAlike (some {}) keys others) :
    v.AnswersAlike (if indexed then some {} else none) keys others := by
  cases indexed with
  | false =>
      intro k _ l _ _
      rfl
  | true =>
      exact halike rfl

/-- One run over all binaries and the merge of two runs come to the same files, where each name
has the same index in both and each path that both parts name, however spelled, has the same
declarations. -/
theorem files_correlateAfresh_append {S T : List BinaryInput}
    (halike : indexed → v.AnswersAlike (some {}) (S.flatMap (·.keys v.mapping))
      (T.flatMap (·.keys v.mapping)))
    (hindex : ∀ b ∈ T, (v.correlateAfresh indexed (S ++ T)).2.registry.assigned[b.name]? =
      (v.correlateAfresh indexed T).2.registry.assigned[b.name]?)
    (hsucceeds : (v.correlateAfresh indexed (S ++ T)).1 = none)
    (hfirst : (v.correlateAfresh indexed S).1 = none)
    (hsecond : (v.correlateAfresh indexed T).1 = none) :
    (v.correlateAfresh indexed (S ++ T)).2.document.files =
      ((v.correlateAfresh indexed S).2.document.merge
        (v.correlateAfresh indexed T).2.document).files := by
  have hkeys (U : List BinaryInput) :
      ∀ b ∈ U, ∀ key ∈ b.keys v.mapping, key ∈ U.flatMap (·.keys v.mapping) := by
    intro b hb key hkey
    exact List.mem_flatMap.2 ⟨b, hb, hkey⟩
  -- What the first part has asked changes no answer for the second one.
  have hsame : v.SameAnswers (T.flatMap (·.keys v.mapping)) (if indexed then some {} else none)
      (v.correlateAfresh indexed S).2.index :=
    (Correlator.steady_correlateAll (c := { index := _ })
      (answersAlike_fresh halike).steady (hkeys S)).sameAnswers
  have hindices : ∀ b ∈ T, ((v.correlateAfresh indexed S).2.registry.indexAll
      (T.map (·.name))).assigned[b.name]? =
        (BinaryRegistry.indexAll {} (T.map (·.name))).assigned[b.name]? := by
    intro b hb
    have hb := hindex b hb
    rw [registry_correlateAfresh hsucceeds, registry_correlateAfresh hsecond, List.map_append,
      BinaryRegistry.indexAll_append] at hb
    rw [registry_correlateAfresh hfirst, hb]
  obtain ⟨-, xs, htwo, hone⟩ :=
    Correlator.correlateAll_alike (c := { index := _ }) hsame (hkeys T) hindices
  have hadded : (v.correlateAfresh indexed T).2.document = ({} : Document).noteAll xs := htwo
  calc
    (v.correlateAfresh indexed (S ++ T)).2.document.files =
        ((v.correlateAfresh indexed S).2.document.noteAll xs).files := by
      rw [correlateAfresh_append hfirst, hone]
    _ = ((v.correlateAfresh indexed S).2.document.merge (({} : Document).noteAll xs)).files := by
      rw [Document.noteAll_eq_merge]
    _ = _ := by
      rw [hadded]

theorem correlateAfresh_succeeds (hv : v.declarations.Total) :
    (v.correlateAfresh indexed inputs).1 = none := by
  refine Correlator.correlateAll_succeeds ?_ _ _
  intro input hinput
  rcases List.mem_map.1 hinput with ⟨b, _, rfl⟩
  exact hv

/-- The file `/f.c` declares `f` at line 5. -/
def loneSource : SourceView :=
  ⟨⟨⟨"/w"⟩, ⟨"tree"⟩, true⟩, ⟨{ entries := Table.build [(["f.c"], .file "".toUTF8 false)] },
    fun _ => .ok (Table.build [("f", 5)])⟩⟩

/-- A binary with the function `f`, which has one instruction at a given location. -/
def ofLocation (name location opcode trace : String) : BinaryInput :=
  ⟨name, "1000 <f>:\n" ++ location ++ "\n1000:\t" ++ opcode ++ "\n",
    FunctionTable.ofSymbols [⟨"f", 4096, 4100, false⟩], TraceStore.ingest {} trace⟩

theorem loneSource_succeeds (inputs : List BinaryInput) :
    (loneSource.correlateAfresh true inputs).1 = none :=
  correlateAfresh_succeeds fun _ => ⟨_, rfl⟩

theorem files_correlateAfresh_append_shared :
    let S := [ofLocation "boot" "/f.c:1" "nop" ""]
    let T := [ofLocation "bl1" "/g.c:1" "nop" "", ofLocation "boot" "/f.c:1" "ret" "1000 2 4"]
    (∀ b ∈ T, (loneSource.correlateAfresh true (S ++ T)).2.registry.assigned[b.name]? =
        (loneSource.correlateAfresh true T).2.registry.assigned[b.name]?) ∧
      (loneSource.correlateAfresh true (S ++ T)).2.document.files =
        ((loneSource.correlateAfresh true S).2.document.merge
          (loneSource.correlateAfresh true T).2.document).files := by
  intro S T
  have hindex : ∀ b ∈ T, (loneSource.correlateAfresh true (S ++ T)).2.registry.assigned[b.name]? =
      (loneSource.correlateAfresh true T).2.registry.assigned[b.name]? := by
    rw [registry_correlateAfresh (loneSource_succeeds _),
      registry_correlateAfresh (loneSource_succeeds _)]
    decide +kernel
  -- The two files are different paths, so that each is spelled in one way only.
  have hspelling : ∀ k ∈ S.flatMap (·.keys loneSource.mapping),
      ∀ l ∈ T.flatMap (·.keys loneSource.mapping),
        (loneSource.mapping.localPath k).components = (loneSource.mapping.localPath l).components →
          k = l := by
    decide +kernel
  have halike : loneSource.AnswersAlike (some {}) (S.flatMap (·.keys loneSource.mapping))
      (T.flatMap (·.keys loneSource.mapping)) := by
    intro k hk l hl hsame
    rw [hspelling k hk l hl hsame]
  exact ⟨hindex, files_correlateAfresh_append (fun _ => halike) hindex (loneSource_succeeds _)
    (loneSource_succeeds _) (loneSource_succeeds _)⟩

/-! ## Files that are spelled in two ways -/

end SourceView

namespace Correlator

variable {c c' : Correlator} {v : SourceView} {key function : String} {line : UInt32}

theorem declarationLine_again (h : c.declarationLine v key function = (.ok line, c')) :
    c'.declarationLine v key function = (.ok line, c') := by
  rcases c with ⟨document, registry, _ | x⟩
  · cases h
    rfl
  · unfold declarationLine at h
    dsimp only at h
    rcases hline : x.lineNumber v.declarations (v.mapping.localPath key) function with ⟨e | n, y⟩
    · rw [hline] at h
      cases h
    · rw [hline] at h
      cases h
      have hagain := DeclarationIndex.lineNumber_again hline (.refl y) v.declarations
      unfold declarationLine
      dsimp only
      rw [hagain]

theorem declarationLine_withRegistry (c : Correlator) (r : BinaryRegistry) (v : SourceView)
    (key function : String) :
    ({ c with registry := r } : Correlator).declarationLine v key function =
      ((c.declarationLine v key function).1,
        { (c.declarationLine v key function).2 with registry := r }) := by
  rcases c with ⟨document, registry, _ | x⟩
  · rfl
  · rfl

/-- Asking for the first function of a transcript beforehand changes nothing. -/
theorem take_asked {b : BinaryInput} {block : FunctionBlock} {rest : List FunctionBlock}
    {home : SourceRun} (hblocks : Disassembly.Transcript.blocksOf b.transcript = block :: rest)
    (hhome : block.homeRun? = some home) (hactive : b.functions.contains block.label)
    (h : c.declarationLine v (home.key v.mapping) block.label = (.ok line, c')) :
    c.take v b = c'.take v b := by
  have hagain := declarationLine_again h
  have hregistry : c'.registry = c.registry := by
    have hasks := c.onlyAsks_declarationLine v (home.key v.mapping) block.label
    rw [h] at hasks
    exact hasks.registry
  have hasked (r : BinaryRegistry) :
      ({ c with registry := r } : Correlator).declarationLine v (home.key v.mapping) block.label =
        ({ c' with registry := r } : Correlator).declarationLine v (home.key v.mapping)
          block.label := by
    rw [declarationLine_withRegistry c, declarationLine_withRegistry c', h, hagain]
  -- Both correlations come to the same when the first block has asked for its label.
  have hfirst (r : BinaryRegistry) (binary : UInt32) :
      Progress.block v binary b.traces ⟨{ c with registry := r }, b.functions, {}, []⟩ block =
        Progress.block v binary b.traces ⟨{ c' with registry := r }, b.functions, {}, []⟩
          block := by
    unfold Progress.block Progress.attributed
    simp only [hhome, hactive, if_true]
    rw [show v.mapping.keyOfBuilt ⟨home.file⟩ = home.key v.mapping from rfl, hasked r]
  unfold take correlate
  rw [hblocks, hregistry]
  dsimp only
  rw [attemptEach, attemptEach, hfirst]

theorem correlateAll_congr {b : BinaryInput} (h : c.take v b = c'.take v b)
    (rest : List (DeclarationSource × BinaryInput)) :
    c.correlateAll v.mapping ((v.declarations, b) :: rest) =
      c'.correlateAll v.mapping ((v.declarations, b) :: rest) := by
  unfold correlateAll
  rw [attemptEach, attemptEach]
  dsimp only
  rw [h]

end Correlator

namespace SourceView

/-- What is known once the declarations of `/f.c` have been asked for. -/
def loneAsked : Correlator :=
  { index := some ⟨(∅ : Table _ _).insert (Path.mk "/f.c").components (Table.build [("f", 5)]),
      [⟨"/f.c"⟩]⟩ }

/-- What `/f.c` and `/f.c/` lead to: a slash behind a file is one piece too many. -/
theorem walk_loneSource (rest : List (List Char)) :
    loneSource.declarations.files.walk true FileTree.linkLimit [] ("f.c".toList :: rest) =
      if rest.isEmpty then .ok ["f.c"] else .error .notFolder := by
  have hentry : loneSource.declarations.files.entry? ["f.c"] = some (.file "".toUTF8 false) := by
    decide +kernel
  cases rest with
  | nil =>
      exact FileTree.walk_file _ _ _ _ (by decide) (by decide) (by decide +kernel) hentry
  | cons w rest =>
      exact FileTree.walk_beyond_file _ _ _ _ (by decide) (by decide) (by decide +kernel) hentry rfl

theorem declarationLine_loneSource :
    ({ index := some {} } : Correlator).declarationLine loneSource "/f.c" "f" =
      (.ok 5, loneAsked) := by
  have hpath : loneSource.mapping.localPath "/f.c" = ⟨"/f.c"⟩ := by
    decide +kernel
  have hfile : loneSource.declarations.files.isFile ⟨"/f.c"⟩ = true := by
    have hpieces : (Path.mk "/f.c").pieces = [[], "f.c".toList] := by
      decide +kernel
    unfold FileTree.isFile FileTree.find
    rw [FileTree.locate_of_isAbsolute _ _ (by decide +kernel) hpieces (by decide +kernel)
      (by decide +kernel), walk_loneSource]
    decide +kernel
  have hfetch : DeclarationIndex.declarations {} loneSource.declarations ⟨"/f.c"⟩ =
      (.ok (Table.build [("f", 5)]), ⟨(∅ : Table _ _).insert (Path.mk "/f.c").components
        (Table.build [("f", 5)]), [⟨"/f.c"⟩]⟩) := by
    unfold DeclarationIndex.declarations DeclarationIndex.fetch
    rw [if_pos hfile]
    rfl
  unfold Correlator.declarationLine DeclarationIndex.lineNumber DeclarationIndex.line?
  dsimp only
  rw [hpath, hfetch]
  rfl

theorem take_loneAsked (name : String) :
    ({ index := some {} } : Correlator).take loneSource (ofLocation name "/f.c:1" "nop" "") =
      loneAsked.take loneSource (ofLocation name "/f.c:1" "nop" "") := by
  have hblocks : Disassembly.Transcript.blocksOf
      (ofLocation name "/f.c:1" "nop" "").transcript =
        [⟨4096, "f", [⟨none, "/f.c", 1, [⟨4096, "nop"⟩]⟩], []⟩] := by
    dsimp only [ofLocation]
    decide +kernel
  have hactive : (ofLocation name "/f.c:1" "nop" "").functions.contains "f" := by
    dsimp only [ofLocation]
    decide +kernel
  exact Correlator.take_asked hblocks rfl hactive declarationLine_loneSource

/-- What is known once `/f.c/` has been asked for, which is the path of `/f.c` but no file. -/
def slashAsked : Correlator :=
  { index := some ⟨(∅ : Table _ _).insert (Path.mk "/f.c/").components ∅, []⟩ }

theorem declarationLine_trailing_slash :
    ({ index := some {} } : Correlator).declarationLine loneSource "/f.c/" "f" =
      (.ok 0, slashAsked) := by
  have hpath : loneSource.mapping.localPath "/f.c/" = ⟨"/f.c/"⟩ := by
    decide +kernel
  have hfile : loneSource.declarations.files.isFile ⟨"/f.c/"⟩ = false := by
    have hpieces : (Path.mk "/f.c/").pieces = [[], "f.c".toList, []] := by
      decide +kernel
    unfold FileTree.isFile FileTree.find
    rw [FileTree.locate_of_isAbsolute _ _ (by decide +kernel) hpieces (by decide +kernel)
      (by decide +kernel), walk_loneSource]
    rfl
  have hfetch : DeclarationIndex.declarations {} loneSource.declarations ⟨"/f.c/"⟩ =
      (.ok ∅, ⟨(∅ : Table _ _).insert (Path.mk "/f.c/").components ∅, []⟩) := by
    unfold DeclarationIndex.declarations DeclarationIndex.fetch
    rw [if_neg (by rw [hfile]; exact Bool.false_ne_true)]
    rfl
  unfold Correlator.declarationLine DeclarationIndex.lineNumber DeclarationIndex.line?
  dsimp only
  rw [hpath, hfetch]
  rfl

theorem take_slashAsked (name : String) :
    ({ index := some {} } : Correlator).take loneSource (ofLocation name "/f.c/:1" "nop" "") =
      slashAsked.take loneSource (ofLocation name "/f.c/:1" "nop" "") := by
  have hblocks : Disassembly.Transcript.blocksOf
      (ofLocation name "/f.c/:1" "nop" "").transcript =
        [⟨4096, "f", [⟨none, "/f.c/", 1, [⟨4096, "nop"⟩]⟩], []⟩] := by
    dsimp only [ofLocation]
    decide +kernel
  have hactive : (ofLocation name "/f.c/:1" "nop" "").functions.contains "f" := by
    dsimp only [ofLocation]
    decide +kernel
  exact Correlator.take_asked hblocks rfl hactive declarationLine_trailing_slash

/-- A run that has asked for the file `/f.c` has the answer for `/f.c/` too, where no file is. -/
theorem files_trailing_slash :
    let S := [ofLocation "bl1" "/f.c:1" "nop" ""]
    let T := [ofLocation "bl1" "/f.c/:1" "nop" ""]
    (loneSource.correlateAfresh true (S ++ T)).1 = none ∧
      (loneSource.correlateAfresh true S).1 = none ∧
      (loneSource.correlateAfresh true T).1 = none ∧
      (∀ b ∈ S ++ T, (loneSource.correlateAfresh true (S ++ T)).2.registry.assigned[b.name]? =
        some 0) ∧
      (∀ b ∈ S, (loneSource.correlateAfresh true S).2.registry.assigned[b.name]? = some 0) ∧
      (∀ b ∈ T, (loneSource.correlateAfresh true T).2.registry.assigned[b.name]? = some 0) ∧
      (loneSource.correlateAfresh true (S ++ T)).2.document.files ≠
        ((loneSource.correlateAfresh true S).2.document.merge
          (loneSource.correlateAfresh true T).2.document).files := by
  intro S T
  have hregistry (U : List BinaryInput) : (loneSource.correlateAfresh true U).2.registry =
      BinaryRegistry.indexAll {} (U.map (·.name)) :=
    registry_correlateAfresh (loneSource_succeeds U)
  refine ⟨loneSource_succeeds _, loneSource_succeeds _, loneSource_succeeds _, ?_, ?_, ?_, ?_⟩
  · rw [hregistry]
    decide +kernel
  · rw [hregistry]
    decide +kernel
  · rw [hregistry]
    decide +kernel
  have hjoint : loneSource.correlateAfresh true (S ++ T) =
      loneAsked.correlateAll loneSource.mapping ((S ++ T).map (loneSource.declarations, ·)) :=
    Correlator.correlateAll_congr (take_loneAsked _) _
  have hfirst : loneSource.correlateAfresh true S =
      loneAsked.correlateAll loneSource.mapping (S.map (loneSource.declarations, ·)) :=
    Correlator.correlateAll_congr (take_loneAsked _) _
  have hsecond : loneSource.correlateAfresh true T =
      slashAsked.correlateAll loneSource.mapping (T.map (loneSource.declarations, ·)) :=
    Correlator.correlateAll_congr (take_slashAsked _) _
  -- The run over both has the cached line.
  have hone : (loneSource.correlateAfresh true (S ++ T)).2.document.function? "/f.c/" "f" =
      some ⟨false, 5⟩ := by
    rw [hjoint]
    decide +kernel
  have htwo : ((loneSource.correlateAfresh true S).2.document.merge
      (loneSource.correlateAfresh true T).2.document).function? "/f.c/" "f" =
        some ⟨false, 0⟩ := by
    rw [hfirst, hsecond]
    decide +kernel
  intro hfiles
  unfold Document.function? Document.file? at hone htwo
  rw [hfiles, htwo] at hone
  exact absurd hone (by decide)

end SourceView

end BinaryCoverage
