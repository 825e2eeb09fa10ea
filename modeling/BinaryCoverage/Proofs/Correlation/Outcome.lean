import BinaryCoverage.Proofs.Correlation.Growth

/-!
# What becomes of each function

A binary is correlated and then its functions without source lines are placed.  Between the two no
active function is lost and none is counted twice: one that has been marked has an entry, and one
that has not gets an outcome.  This file defines:

* `DeclarationIndex.declarers` — the files that mention a function and declare it;
* `FallbackOutcome.Fits` — an outcome says what the declaring files call for;
* `FallbackProgress.Attributed`, `FallbackProgress.Placed` — the two ways of a function;

and shows that every active function goes one of them, and no other name either
(`placeUnmapped_accounts`).
-/

namespace BinaryCoverage

/-- The files that mention a function and, as the index has it, declare it. -/
def DeclarationIndex.declarers (y : DeclarationIndex) (s : DeclarationSource)
    (search : SourceSearch) (function : String) : Except Failure (List Path) :=
  (search.mentioning s.files function).1.map (·.filter (y.declares s function))

/-- An outcome says what the declaring files of a function call for: with one of them the function
has an entry there. -/
def FallbackOutcome.Fits (m : SourceMapping) (d : Document) (function : String)
    (files : List Path) : FallbackOutcome → Prop
  | .recorded key _ | .alreadyPresent key =>
      (∃ path, files = [path] ∧ m.keyOfLocal path = key) ∧ (d.function? key function).isSome
  | .notFound => files = []
  | .ambiguous paths => files = paths ∧ 2 ≤ paths.length

theorem FallbackOutcome.Fits.mono {m : SourceMapping} {d e : Document} {function : String}
    {files : List Path} {o : FallbackOutcome} (h : o.Fits m d function files)
    (hgrows : d.GrowsTo e) : o.Fits m e function files := by
  cases o with
  | recorded key covered =>
      exact ⟨h.1, hgrows.function key function h.2⟩
  | alreadyPresent key =>
      exact ⟨h.1, hgrows.function key function h.2⟩
  | notFound =>
      exact h
  | ambiguous paths =>
      exact h

namespace SourceSearch

variable (s : SourceSearch) (t : FileTree)

/-- What has been loaded once stays. -/
theorem load_load : ((s.load t).2.load t).1 = (s.load t).1 := by
  unfold load
  cases hloaded : s.loaded with
  | some sources =>
      simp [hloaded]
  | none =>
      cases hsources : sourcesIn t s.root with
      | error e =>
          simp [hloaded, hsources]
      | ok sources =>
          simp

theorem mentioning_mentioning (name other : String) :
    ((s.mentioning t other).2.mentioning t name).1 = (s.mentioning t name).1 := by
  have hload := s.load_load t
  unfold mentioning
  dsimp only
  rw [hload]

end SourceSearch

namespace FallbackProgress

variable {v : SourceView} {traces : TraceStore}

/-! ## One function -/

theorem outcomes_place_of_ne (p : FallbackProgress) (m : SourceMapping) {function name : String}
    (hne : function ≠ name) (covered : Bool) (declared : List (Path × UInt32)) :
    (p.place m function covered declared).outcomes[name]? = p.outcomes[name]? := by
  have hinsert : ∀ o, (p.outcomes.insert function o)[name]? = p.outcomes[name]? := by
    intro o
    simp [Std.ExtTreeMap.getElem?_insert, hne]
  match declared with
  | [] =>
      exact hinsert _
  | [(path, line)] =>
      rw [place]
      split
      · exact hinsert _
      · exact hinsert _
  | _ :: _ :: _ =>
      exact hinsert _

theorem outcome_place (p : FallbackProgress) (m : SourceMapping) (function : String)
    (covered : Bool) (declared : List (Path × UInt32)) :
    ∃ o, (p.place m function covered declared).outcomes[function]? = some o ∧
      o.Fits m (p.place m function covered declared).correlator.document function
        (declared.map (·.1)) := by
  match declared with
  | [] =>
      exact ⟨.notFound, by simp [place], rfl⟩
  | [(path, line)] =>
      rw [place]
      split
      · rename_i hpresent
        rw [hasFunction_eq_isSome] at hpresent
        exact ⟨.alreadyPresent (m.keyOfLocal path), by simp, ⟨path, rfl, rfl⟩, hpresent⟩
      · refine ⟨.recorded (m.keyOfLocal path) covered, by simp, ⟨path, rfl, rfl⟩, ?_⟩
        dsimp only [Correlator.updateFile, FileCoverage.setFunction]
        rw [Document.function?_updateFunction, if_pos ⟨rfl, rfl⟩]
        rfl
  | _ :: _ :: _ =>
      exact ⟨.ambiguous _, by simp [place], rfl, by simp⟩

/-- A step that does not fail gives its function an outcome and leaves those of the others. -/
structure Concludes (v : SourceView) (y : DeclarationIndex) (p : FallbackProgress)
    (name : String) (q : FallbackProgress) : Prop where
  search (other : String) : (q.search.mentioning v.declarations.files other).1 =
    (p.search.mentioning v.declarations.files other).1
  others (other : String) : name ≠ other → q.outcomes[other]? = p.outcomes[other]?
  outcome : ∃ files o, y.declarers v.declarations p.search name = .ok files ∧
    q.outcomes[name]? = some o ∧ o.Fits v.mapping q.correlator.document name files

theorem concludes_step {p : FallbackProgress} {f : FunctionSymbol} {y : DeclarationIndex}
    (hsucceeds : (step v traces p f).1 = none)
    (hlater : Option.Rel DeclarationIndex.Extends (step v traces p f).2.correlator.index (some y)) :
    p.Concludes v y f.name (step v traces p f).2 := by
  cases hindex : p.correlator.index with
  | none =>
      -- A step without an index would leave none behind.
      have hstill : (step v traces p f).2 = p := by
        simp [step, hindex]
      rw [hstill, hindex] at hlater
      cases hlater
  | some x =>
      obtain ⟨candidates, search, declared, z, hmentioning, hdeclared, hresult⟩ :=
        step_of_succeeds hindex hsucceeds
      rw [hresult] at hlater ⊢
      rw [index_place] at hlater
      cases hlater with
      | some hz =>
          refine ⟨?_, ?_, ?_⟩
          · intro other
            have hagain := p.search.mentioning_mentioning v.declarations.files other f.name
            rw [search_place]
            rw [hmentioning] at hagain
            exact hagain
          · intro other hne
            exact outcomes_place_of_ne _ _ hne _ _
          · -- The last index still says of each candidate what has been found of it.
            have hfiles : y.declarers v.declarations p.search f.name =
                .ok (declared.map (·.1)) := by
              rw [DeclarationIndex.declarers, hmentioning, declaring_eq_filter hdeclared hz]
              rfl
            obtain ⟨o, ho, hfits⟩ := outcome_place
              { p with search, correlator := { p.correlator with index := some z } }
              v.mapping f.name (traces.contains f.start) declared
            exact ⟨_, o, hfiles, ho, hfits⟩

/-! ## All functions -/

/-- Steps that do not fail give an outcome to their functions and to no others. -/
theorem outcomes_steps {p : FallbackProgress} {symbols : List FunctionSymbol}
    {y : DeclarationIndex} (hsucceeds : (attemptEach (step v traces) p symbols).1 = none)
    (hlater : Option.Rel DeclarationIndex.Extends
      (attemptEach (step v traces) p symbols).2.correlator.index (some y)) (name : String) :
    (name ∉ symbols.map (·.name) →
      (attemptEach (step v traces) p symbols).2.outcomes[name]? = p.outcomes[name]?) ∧
    (name ∈ symbols.map (·.name) →
      ∃ files o, y.declarers v.declarations p.search name = .ok files ∧
        (attemptEach (step v traces) p symbols).2.outcomes[name]? = some o ∧
        o.Fits v.mapping (attemptEach (step v traces) p symbols).2.correlator.document name
          files) := by
  induction symbols generalizing p with
  | nil =>
      exact ⟨fun _ => rfl, nofun⟩
  | cons f rest ih =>
      have hstep := first_of_attemptEach_cons hsucceeds
      rw [attemptEach_cons_of_none hstep] at hsucceeds hlater ⊢
      have hrest := keeps_steps v traces rest (step v traces p f).2
      have hfirst : p.Concludes v y f.name (step v traces p f).2 :=
        concludes_step hstep (DeclarationIndex.rel_trans hrest.index hlater)
      obtain ⟨hothers, hnamed⟩ := ih hsucceeds hlater
      have hsearch : y.declarers v.declarations (step v traces p f).2.search name =
          y.declarers v.declarations p.search name := by
        rw [DeclarationIndex.declarers, hfirst.search, DeclarationIndex.declarers]
      rw [List.map_cons, List.mem_cons, not_or]
      constructor
      · rintro ⟨hne, hnotMem⟩
        rw [hothers hnotMem]
        exact hfirst.others name (Ne.symm hne)
      · intro hmem
        by_cases hlast : name ∈ rest.map (·.name)
        · -- A later symbol of the same name has the last word.
          obtain ⟨files, o, hfiles, ho, hfits⟩ := hnamed hlast
          exact ⟨files, o, hsearch ▸ hfiles, ho, hfits⟩
        · have hname : name = f.name := hmem.resolve_right hlast
          subst hname
          obtain ⟨files, o, hfiles, ho, hfits⟩ := hfirst.outcome
          refine ⟨files, o, hfiles, ?_, hfits.mono (growsTo_steps _ rest)⟩
          rw [hothers hlast]
          exact ho

end FallbackProgress

/-! ## Marked functions -/

namespace FunctionTable

/-- Of the functions of a table those that are not marked are without source lines. -/
theorem mem_unmapped_names_iff (t : FunctionTable) (name : String) :
    name ∈ t.unmapped.map (·.name) ↔ (t.get? name).any (!·.mapped) := by
  simp only [List.mem_map, mem_unmapped_iff, Option.any_eq_true]
  constructor
  · rintro ⟨s, ⟨⟨m, hm⟩, hmapped⟩, rfl⟩
    rw [t.named hm, hm]
    exact ⟨s, rfl, by simp [hmapped]⟩
  · rintro ⟨s, hs, hmapped⟩
    exact ⟨s, ⟨⟨name, hs⟩, by simpa using hmapped⟩, t.named hs⟩

theorem contains_eq_isSome (t : FunctionTable) (name : String) :
    t.contains name = (t.get? name).isSome := by
  simp [contains, get?]

end FunctionTable

namespace Correlator

variable {c : Correlator} {v : SourceView} {b : BinaryInput}

/-- What a block marks it enters into a file. -/
theorem CountedBlock.exists_namesFunction_of_mem_marks {m : SourceMapping} {block : CountedBlock}
    {name : String} (h : name ∈ block.marks) :
    ∃ key, ∃ x ∈ block.notes m, x.NamesFunction key name := by
  rcases List.mem_cons.1 h with hlabel | howner
  · have hhome := (block.exists_namesFunction_iff (m := m) (block.home.key m) name).2
    exact ⟨_, hhome (Or.inl ⟨rfl, hlabel.symm⟩)⟩
  · obtain ⟨owned, howned, hname⟩ := List.mem_map.1 howner
    have hrun := (block.exists_namesFunction_iff (m := m) (owned.2.key m) name).2
    exact ⟨_, hrun (Or.inr ⟨owned, howned, rfl, hname⟩)⟩

/-- A function that a binary has marked has been entered into some file. -/
theorem exists_function?_of_marked {p : Progress} (htake : c.take v b = (none, p)) {name : String}
    (hunmarked : ∀ s, b.functions.get? name = some s → s.mapped = false)
    (hmarked : (p.functions.get? name).any (·.mapped)) :
    ∃ key, (p.correlator.document.function? key name).isSome := by
  have hspec := c.take_spec v b
  rw [htake] at hspec
  obtain ⟨xs, hxs, hdocument⟩ := hspec.document
  obtain ⟨names, hnames, hfunctions⟩ := hspec.functions
  have hmem : name ∈ names := by
    by_contra hnotMem
    rw [hfunctions, FunctionTable.get?_markAll_of_notMem hnotMem] at hmarked
    obtain ⟨s, hs, hmapped⟩ := (Option.any_eq_true _ _).1 hmarked
    rw [hunmarked s hs] at hmapped
    cases hmapped
  -- The block that marks the function notes it too, and all notes have been taken down.
  rw [hnames.complete rfl] at hmem
  obtain ⟨block, hblock, hmarks⟩ := List.mem_flatMap.1 hmem
  obtain ⟨key, x, hx, hnamesFunction⟩ :=
    CountedBlock.exists_namesFunction_of_mem_marks (m := v.mapping) hmarks
  have hplanned : x ∈ xs.map Note.bare := by
    rw [hxs.complete rfl]
    exact List.mem_flatMap.2 ⟨block, hblock, hx⟩
  obtain ⟨note, hnote, rfl⟩ := List.mem_map.1 hplanned
  refine ⟨key, ?_⟩
  rw [hdocument, Document.noteAll_iff (P := fun d => (d.function? key name).isSome = true)
    (fun d x => d.isSome_function?_note x key name)]
  exact Or.inr ⟨note, hnote, (note.namesFunction_bare key name).1 hnamesFunction⟩

end Correlator

/-! ## The two ways of a function -/

namespace FallbackProgress

/-- A function that its binary has given source lines. -/
structure Attributed (t : FunctionTable) (q : FallbackProgress) (name : String) : Prop where
  marked : (t.get? name).any (·.mapped)
  entered : ∃ key, (q.correlator.document.function? key name).isSome
  silent : q.outcomes[name]? = none

/-- A function that has been left to be placed, with the files that declare it in the end. -/
structure Placed (v : SourceView) (search : SourceSearch) (t : FunctionTable)
    (q : FallbackProgress) (name : String) : Prop where
  unmarked : (t.get? name).any (!·.mapped)
  outcome : ∃ y files o, q.correlator.index = some y ∧
    y.declarers v.declarations search name = .ok files ∧ q.outcomes[name]? = some o ∧
    o.Fits v.mapping q.correlator.document name files

theorem not_placed_of_attributed {v : SourceView} {search : SourceSearch} {t : FunctionTable}
    {q : FallbackProgress} {name : String} (h : q.Attributed t name) :
    ¬ q.Placed v search t name := by
  intro hplaced
  obtain ⟨_, _, o, _, _, ho, _⟩ := hplaced.outcome
  rw [h.silent] at ho
  cases ho

end FallbackProgress

namespace FunctionTable

/-- The table of an image, from which some functions have been excluded. -/
theorem unmarked_of_fresh {symbols : List FunctionSymbol} (hfresh : ∀ s ∈ symbols, s.mapped = false)
    (patterns : List Pattern) (name : String) (s : FunctionSymbol)
    (hs : ((ofSymbols symbols).exclude patterns).get? name = some s) : s.mapped = false := by
  rw [get?_exclude, Option.filter_eq_some_iff] at hs
  rw [get?_ofSymbols] at hs
  exact hfresh s (List.mem_of_find?_eq_some hs.1)

theorem not_contains_of_excluded {symbols : List FunctionSymbol} {patterns : List Pattern}
    {name : String} (h : ((ofSymbols symbols).exclude patterns).excluded.contains name) :
    ((ofSymbols symbols).exclude patterns).contains name = false := by
  have hmatched : isExcludedBy patterns name = true := by
    by_contra hunmatched
    have hnone : ((ofSymbols symbols).exclude patterns).excluded[name]? = none := by
      unfold exclude Table.override
      rw [Table.getElem?_unionWith, Std.ExtTreeMap.getElem?_filter']
      simp [excluded_ofSymbols, hunmatched]
    rw [Std.ExtTreeMap.contains_eq_isSome_getElem?, hnone] at h
    cases h
  rw [contains_eq_isSome, get?_exclude]
  simp [hmatched]

end FunctionTable

namespace Correlator

variable {c : Correlator} {v : SourceView} {b : BinaryInput} {x : DeclarationIndex}

theorem contains_take {p : Progress} (htake : c.take v b = (none, p)) (name : String) :
    p.functions.contains name = b.functions.contains name := by
  have hspec := c.take_spec v b
  rw [htake] at hspec
  obtain ⟨names, -, hfunctions⟩ := hspec.functions
  rw [hfunctions, FunctionTable.contains_markAll]

/-- An index that is there at first is there in the end, as it only learns. -/
theorem exists_index_take {p : Progress} (htake : c.take v b = (none, p))
    (hindex : c.index = some x) : ∃ y, p.correlator.index = some y := by
  have hspec := c.take_spec v b
  rw [htake] at hspec
  have hlearns := hspec.index
  rw [hindex] at hlearns
  cases hp : p.correlator.index with
  | none =>
      rw [hp] at hlearns
      cases hlearns
  | some y =>
      exact ⟨y, rfl⟩

section Placing

variable {functions : FunctionTable} {traces : TraceStore} {search : SourceSearch}
  {q : FallbackProgress}

theorem exists_index_placeUnmapped
    (hplace : c.placeUnmapped v functions traces search = (none, q))
    (hindex : c.index = some x) : ∃ y, q.correlator.index = some y := by
  have hlearns := (c.keeps_placeUnmapped v functions traces search).index
  rw [hindex, hplace] at hlearns
  cases hq : q.correlator.index with
  | none =>
      rw [hq] at hlearns
      cases hlearns
  | some y =>
      exact ⟨y, rfl⟩

/-- A function has an outcome if it is active and has not been marked, and only then. -/
theorem outcomes_placeUnmapped
    (hplace : c.placeUnmapped v functions traces search = (none, q))
    (hindex : c.index = some x) (name : String) :
    (¬ (functions.get? name).any (!·.mapped) → q.outcomes[name]? = none) ∧
      ((functions.get? name).any (!·.mapped) → q.Placed v search functions name) := by
  obtain ⟨y, hy⟩ := exists_index_placeUnmapped hplace hindex
  have hsteps := FallbackProgress.outcomes_steps (v := v) (p := { correlator := c, search }) (y := y)
    (congrArg Prod.fst hplace)
  have hlater : Option.Rel DeclarationIndex.Extends
      (c.placeUnmapped v functions traces search).2.correlator.index (some y) := by
    rw [hplace, hy]
    exact DeclarationIndex.rel_refl _
  have houtcomes := hsteps hlater name
  change attemptEach _ _ functions.unmapped = _ at hplace
  rw [hplace, FunctionTable.mem_unmapped_names_iff] at houtcomes
  constructor
  · intro hmapped
    exact (houtcomes.1 hmapped).trans (by simp)
  · intro hunmapped
    obtain ⟨files, o, hfiles, ho, hfits⟩ := houtcomes.2 hunmapped
    exact ⟨hunmapped, y, files, o, hy, hfiles, ho, hfits⟩

end Placing

section Both

variable {p : Progress} {search : SourceSearch} {q : FallbackProgress}

theorem attributed_of_marked (htake : c.take v b = (none, p))
    (hplace : p.correlator.placeUnmapped v p.functions b.traces search = (none, q))
    (hindex : c.index = some x)
    (hunmarked : ∀ name s, b.functions.get? name = some s → s.mapped = false) {name : String}
    (hmarked : (p.functions.get? name).any (·.mapped)) : q.Attributed p.functions name := by
  obtain ⟨y, hy⟩ := exists_index_take htake hindex
  refine ⟨hmarked, ?_, ?_⟩
  · -- The entry that correlating has made is still there after placing.
    have hentered := exists_function?_of_marked htake (hunmarked name) hmarked
    have hgrows := p.correlator.growsTo_placeUnmapped v p.functions b.traces search
    rw [hplace] at hgrows
    exact hentered.imp fun key => hgrows.function key name
  · refine (outcomes_placeUnmapped hplace hy name).1 ?_
    obtain ⟨s, hs, hmapped⟩ := (Option.any_eq_true _ _).1 hmarked
    simp [hs, hmapped]

/-- Of the active functions of a binary, those that it has given source lines are entered, and
those that it has not are placed. -/
theorem attributed_or_placed (htake : c.take v b = (none, p))
    (hplace : p.correlator.placeUnmapped v p.functions b.traces search = (none, q))
    (hindex : c.index = some x)
    (hunmarked : ∀ name s, b.functions.get? name = some s → s.mapped = false) {name : String}
    (hactive : b.functions.contains name) :
    q.Attributed p.functions name ∨ q.Placed v search p.functions name := by
  obtain ⟨y, hy⟩ := exists_index_take htake hindex
  rw [← contains_take htake, FunctionTable.contains_eq_isSome] at hactive
  obtain ⟨s, hs⟩ := Option.isSome_iff_exists.1 hactive
  cases hmapped : s.mapped with
  | true =>
      refine Or.inl (attributed_of_marked htake hplace hindex hunmarked ?_)
      simp [hs, hmapped]
  | false =>
      refine Or.inr ((outcomes_placeUnmapped hplace hy name).2 ?_)
      simp [hs, hmapped]

/-- After a binary has been correlated and its functions have been placed, each active function
either has source lines or an outcome, and no other name has an outcome. -/
theorem placeUnmapped_accounts (hindex : c.index = some x) {symbols : List FunctionSymbol}
    (hfresh : ∀ s ∈ symbols, s.mapped = false) {patterns : List Pattern}
    (hfunctions : b.functions = (FunctionTable.ofSymbols symbols).exclude patterns)
    (htake : c.take v b = (none, p))
    (hplace : p.correlator.placeUnmapped v p.functions b.traces search = (none, q)) :
    (∀ f, b.functions.contains f →
      Xor (q.Attributed p.functions f) (q.Placed v search p.functions f)) ∧
    ∀ f, b.functions.excluded.contains f ∨ b.functions.contains f = false →
      q.outcomes[f]? = none := by
  have hunmarked : ∀ f s, b.functions.get? f = some s → s.mapped = false := by
    rw [hfunctions]
    exact FunctionTable.unmarked_of_fresh hfresh patterns
  refine ⟨?_, ?_⟩
  · intro f hf
    rcases attributed_or_placed htake hplace hindex hunmarked hf with hattributed | hplaced
    · exact Or.inl ⟨hattributed, FallbackProgress.not_placed_of_attributed hattributed⟩
    · exact Or.inr ⟨hplaced, fun h => FallbackProgress.not_placed_of_attributed h hplaced⟩
  · intro f hf
    have hinactive : b.functions.contains f = false := by
      rw [hfunctions] at hf ⊢
      exact hf.elim FunctionTable.not_contains_of_excluded id
    obtain ⟨y, hy⟩ := exists_index_take htake hindex
    refine (outcomes_placeUnmapped hplace hy f).1 ?_
    -- What is not active has not been made active by marking.
    rw [← contains_take htake, FunctionTable.contains_eq_isSome, Option.isSome_eq_false_iff,
      Option.isNone_iff_eq_none] at hinactive
    rw [hinactive]
    exact Bool.false_ne_true

end Both

/-- What is known of the sources: one file declares a function, two others declare none. -/
def threeFiles : DeclarationIndex where
  known := Table.build [((Path.mk "/f.c").components, Table.build [("f", 1)]),
    ((Path.mk "/m.c").components, ∅), ((Path.mk "/h.h").components, ∅)]

/-- A function with an inlined one, two functions without source lines and an excluded one. -/
def fiveSymbols : List FunctionSymbol :=
  [⟨"main", 4096, 4104, false⟩, ⟨"help", 8192, 8196, false⟩, ⟨"f", 4104, 4112, false⟩,
    ⟨"g", 4112, 4116, false⟩, ⟨"_start", 0, 4, false⟩]

def partlyMapped : BinaryInput where
  name := "bl1"
  transcript := "1000 <main>:\n/w/m.c:3\nhelp():\n/w/h.h:7\n"
  functions := (FunctionTable.ofSymbols fiveSymbols).exclude
    [.sequence [.look .textStart, .set (.single '_') 0]]
  traces := TraceStore.ingest {} "1008 1 4"

theorem placeUnmapped_accounts_partlyMapped :
    let v : SourceView := ⟨⟨⟨"/w"⟩, ⟨"/"⟩, true⟩, ⟨{}, fun _ => .ok ∅⟩⟩
    let search : SourceSearch := ⟨⟨"/"⟩, some [(⟨"/f.c"⟩, "f g")]⟩
    ∃ p q, (∀ s ∈ fiveSymbols, s.mapped = false) ∧
      Correlator.take { index := some threeFiles } v partlyMapped = (none, p) ∧
      p.correlator.placeUnmapped v p.functions partlyMapped.traces search = (none, q) ∧
      partlyMapped.functions.active.keys = ["f", "g", "help", "main"] ∧
      q.outcomes.toList = [("f", .recorded "f.c" true), ("g", .notFound)] ∧
      (∀ f, partlyMapped.functions.contains f →
        Xor (q.Attributed p.functions f) (q.Placed v search p.functions f)) ∧
      ∀ f, partlyMapped.functions.excluded.contains f ∨
        partlyMapped.functions.contains f = false → q.outcomes[f]? = none := by
  intro v search
  have hfresh : ∀ s ∈ fiveSymbols, s.mapped = false := by
    decide
  have htake : Correlator.take { index := some threeFiles } v partlyMapped =
      (none, (Correlator.take { index := some threeFiles } v partlyMapped).2) := by
    refine Prod.ext ?_ rfl
    decide +kernel
  generalize hp : (Correlator.take { index := some threeFiles } v partlyMapped).2 = p at htake
  have hplace : p.correlator.placeUnmapped v p.functions partlyMapped.traces search =
      (none, (p.correlator.placeUnmapped v p.functions partlyMapped.traces search).2) := by
    refine Prod.ext ?_ rfl
    subst hp
    decide +kernel
  generalize hq : (p.correlator.placeUnmapped v p.functions partlyMapped.traces search).2 = q
    at hplace
  have houtcomes : q.outcomes.toList = [("f", .recorded "f.c" true), ("g", .notFound)] := by
    subst hq hp
    decide +kernel
  exact ⟨p, q, hfresh, htake, hplace, by decide +kernel, houtcomes,
    placeUnmapped_accounts rfl hfresh rfl htake hplace⟩

end Correlator

end BinaryCoverage
