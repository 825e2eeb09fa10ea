import BinaryCoverage.Proofs.Correlation.Outcome

/-!
# How a function is settled

Each function without source lines is placed by a step of its own, and the steps of the others
leave it alone.  This file defines:

* `DeclarationIndex.Answers` — an index answers for a function without asking;
* `FallbackProgress.given?` — the entry that a function gets in a file;
* `FallbackProgress.verdict` — the outcome of a function, by what the document has of it;
* `FallbackProgress.Settles` — what a step makes of its function;

and shows that what a step makes of its function is there in the end (`settles_steps`).
-/

namespace BinaryCoverage

/-! ## Asking again -/

namespace SourceSearch

variable {s : SourceSearch} {t : FileTree}

theorem mentioning_of_loaded (h : s.loaded.isSome) (name : String) : (s.mentioning t name).2 = s := by
  obtain ⟨sources, hsources⟩ := Option.isSome_iff_exists.1 h
  simp [mentioning, load, hsources]

theorem loaded_mentioning {name : String} {candidates : List Path}
    (h : (s.mentioning t name).1 = .ok candidates) : (s.mentioning t name).2.loaded.isSome := by
  unfold mentioning load at h ⊢
  cases hloaded : s.loaded with
  | some sources =>
      simp [hloaded]
  | none =>
      cases hsources : sourcesIn t s.root with
      | error e =>
          simp [hloaded, hsources, Except.map] at h
      | ok sources =>
          simp

end SourceSearch

namespace FallbackProgress

variable {v : SourceView} {traces : TraceStore}

theorem declaring_again {s : DeclarationSource} {function : String} {x y z : DeclarationIndex}
    {paths : List Path} {found : List (Path × UInt32)}
    (h : declaring s function x paths = (.ok found, y)) (hz : y.Extends z) :
    declaring s function z paths = (.ok found, z) ∧
      ∀ e ∈ found, (z.line? s e.1 function).1 = .ok (some e.2) := by
  induction paths generalizing x found with
  | nil =>
      cases h
      exact ⟨rfl, nofun⟩
  | cons p rest ih =>
      -- Asked again in the same order, the index has each answer already.
      rw [declaring] at h
      rcases hline : x.line? s p function with ⟨e | line, x'⟩
      · rw [hline] at h
        cases h
      · rw [hline] at h
        dsimp only at h
        have hextends := extends_declaring s function x' rest
        rcases hrest : declaring s function x' rest with ⟨e | found', y'⟩
        · rw [hrest] at h
          cases h
        · rw [hrest] at h hextends
          cases h
          have hfirst := DeclarationIndex.line?_again hline (hextends.trans hz) s
          obtain ⟨hagain, hlines⟩ := ih hrest
          refine ⟨?_, ?_⟩
          · rw [declaring, hfirst]
            dsimp only
            rw [hagain]
            rfl
          · intro e he
            rcases List.mem_append.1 he with hnew | hold
            · -- The only file that is new is the first one, with the line it has been given.
              obtain ⟨n, hn, rfl⟩ := Option.map_eq_some_iff.1 (Option.mem_toList.1 hnew)
              rw [hfirst, hn]
            · exact hlines e hold

end FallbackProgress

/-- Of the files that mention a function, the index says which declare it and where, and it has
nothing to ask for to say so. -/
def DeclarationIndex.Answers (y : DeclarationIndex) (s : DeclarationSource) (search : SourceSearch)
    (function : String) (declared : List (Path × UInt32)) : Prop :=
  ∃ candidates, (search.mentioning s.files function).1 = .ok candidates ∧
    FallbackProgress.declaring s function y candidates = (.ok declared, y)

namespace DeclarationIndex.Answers

variable {y : DeclarationIndex} {s : DeclarationSource} {search : SourceSearch} {function : String}
  {declared declared' : List (Path × UInt32)}

theorem declarers_eq (h : y.Answers s search function declared) :
    y.declarers s search function = .ok (declared.map (·.1)) := by
  obtain ⟨candidates, hcandidates, hdeclared⟩ := h
  rw [declarers, hcandidates, FallbackProgress.declaring_eq_filter hdeclared (Extends.refl y)]
  rfl

theorem line?_eq (h : y.Answers s search function declared) {path : Path} {line : UInt32}
    (hmem : (path, line) ∈ declared) : (y.line? s path function).1 = .ok (some line) := by
  obtain ⟨candidates, -, hdeclared⟩ := h
  exact (FallbackProgress.declaring_again hdeclared (Extends.refl y)).2 (path, line) hmem

theorem unique (h : y.Answers s search function declared)
    (h' : y.Answers s search function declared') : declared = declared' := by
  obtain ⟨candidates, hcandidates, hdeclared⟩ := h
  obtain ⟨candidates', hcandidates', hdeclared'⟩ := h'
  obtain rfl : candidates = candidates' := Except.ok.inj (hcandidates.symm.trans hcandidates')
  exact Except.ok.inj (congrArg Prod.fst (hdeclared.symm.trans hdeclared'))

/-- Another search that finds the same files mentioned does as well. -/
theorem of_mentioning_eq (h : y.Answers s search function declared) {search' : SourceSearch}
    (hsame : (search'.mentioning s.files function).1 = (search.mentioning s.files function).1) :
    y.Answers s search' function declared := by
  obtain ⟨candidates, hcandidates, hdeclared⟩ := h
  exact ⟨candidates, hsame.trans hcandidates, hdeclared⟩

end DeclarationIndex.Answers

/-! ## One function -/

namespace FallbackProgress

variable {v : SourceView} {traces : TraceStore}

/-- The entry that a function gets in a file that has none for it. -/
def given? (m : SourceMapping) (covered : Bool) (key : String) :
    List (Path × UInt32) → Option FunctionCoverage
  | [(path, line)] => if m.keyOfLocal path = key then some ⟨covered, line⟩ else none
  | _ => none

/-- What becomes of a function, by what a document has of it. -/
def verdict (m : SourceMapping) (d : Document) (function : String) (covered : Bool) :
    List (Path × UInt32) → FallbackOutcome
  | [] => .notFound
  | [(path, _)] =>
      if (d.function? (m.keyOfLocal path) function).isSome then .alreadyPresent (m.keyOfLocal path)
      else .recorded (m.keyOfLocal path) covered
  | declared => .ambiguous (declared.map (·.1))

theorem outcomes_place (p : FallbackProgress) (m : SourceMapping) (function : String)
    (covered : Bool) (declared : List (Path × UInt32)) :
    (p.place m function covered declared).outcomes =
      p.outcomes.insert function (verdict m p.correlator.document function covered declared) := by
  match declared with
  | [] =>
      rfl
  | [(path, line)] =>
      rw [place, verdict, hasFunction_eq_isSome]
      split <;> rfl
  | _ :: _ :: _ =>
      rfl

theorem function?_place (p : FallbackProgress) (m : SourceMapping) (function : String)
    (covered : Bool) (declared : List (Path × UInt32)) (key name : String) :
    (p.place m function covered declared).correlator.document.function? key name =
      (p.correlator.document.function? key name).or
        (if function = name then given? m covered key declared else none) := by
  match declared with
  | [] =>
      simp [place, given?]
  | [(path, line)] =>
      rw [place, given?, hasFunction_eq_isSome]
      split
      · rename_i hpresent
        -- An entry that is present is kept, for this file as for the others.
        obtain ⟨old, hold⟩ := Option.isSome_iff_exists.1 hpresent
        by_cases hname : function = name
        · subst hname
          by_cases hkey : m.keyOfLocal path = key
          · subst hkey
            simp [hold]
          · simp [hkey]
        · simp [hname]
      · rename_i habsent
        -- The new entry is put where both the file and the name are those of the function.
        rw [Option.not_isSome_iff_eq_none] at habsent
        dsimp only [Correlator.updateFile, FileCoverage.setFunction]
        rw [Document.function?_updateFunction]
        by_cases hplace : m.keyOfLocal path = key ∧ function = name
        · obtain ⟨rfl, rfl⟩ := hplace
          simp [habsent, FunctionCoverage.declare]
        · rw [if_neg hplace]
          rw [not_and_or] at hplace
          rcases hplace with hkey | hname
          · simp [hkey]
          · simp [hname]
  | _ :: _ :: _ =>
      simp [place, given?]

theorem verdict_eq_recorded_iff {m : SourceMapping} {d : Document} {function key : String}
    {covered covered' : Bool} {declared : List (Path × UInt32)} :
    verdict m d function covered declared = .recorded key covered' ↔
      covered' = covered ∧ d.function? key function = none ∧
        ∃ path line, declared = [(path, line)] ∧ m.keyOfLocal path = key := by
  match declared with
  | [] =>
      simp [verdict]
  | [(path, line)] =>
      rw [verdict]
      split
      · rename_i hpresent
        simp only [reduceCtorEq, List.cons.injEq, Prod.mk.injEq, and_true, false_iff, not_and]
        rintro - habsent ⟨path', line', ⟨rfl, rfl⟩, rfl⟩
        rw [habsent] at hpresent
        cases hpresent
      · rename_i habsent
        rw [Option.not_isSome_iff_eq_none] at habsent
        constructor
        · intro h
          cases h
          exact ⟨rfl, habsent, path, line, rfl, rfl⟩
        · rintro ⟨rfl, -, path', line', h, rfl⟩
          cases h
          rfl
  | _ :: _ :: _ =>
      simp [verdict]

theorem isSome_given?_iff {m : SourceMapping} {d : Document} {function key : String}
    (habsent : d.function? key function = none) (covered : Bool) (declared : List (Path × UInt32)) :
    (given? m covered key declared).isSome ↔
      ∃ covered', verdict m d function covered declared = .recorded key covered' := by
  simp only [verdict_eq_recorded_iff, habsent, true_and, exists_eq_left]
  match declared with
  | [] =>
      simp [given?]
  | [(path, line)] =>
      rw [given?]
      split
      · rename_i hkey
        simp [hkey]
      · rename_i hkey
        simp only [Option.isSome_none, Bool.false_eq_true, false_iff]
        rintro ⟨path', line', h, hkey'⟩
        cases h
        exact hkey hkey'
  | _ :: _ :: _ =>
      simp [given?]

theorem provenance_place (p : FallbackProgress) (m : SourceMapping) (function : String)
    (covered : Bool) (declared : List (Path × UInt32)) :
    (p.place m function covered declared).correlator.document.provenance =
      p.correlator.document.provenance := by
  match declared with
  | [] =>
      rfl
  | [(path, line)] =>
      rw [place]
      split <;> rfl
  | _ :: _ :: _ =>
      rfl

/-- A file that a function makes new has an entry for it. -/
theorem file?_place (p : FallbackProgress) (m : SourceMapping) (function : String)
    (covered : Bool) (declared : List (Path × UInt32)) (key : String)
    (h : ((p.place m function covered declared).correlator.document.file? key).isSome) :
    (p.correlator.document.file? key).isSome ∨ (given? m covered key declared).isSome := by
  match declared with
  | [] =>
      exact Or.inl h
  | [(path, line)] =>
      rw [place] at h
      rw [given?]
      split at h
      · exact Or.inl h
      · -- The file that is updated is the one the function is declared in.
        dsimp only [Correlator.updateFile] at h
        rw [Document.file?_updateFile] at h
        split at h
        · rename_i hkey
          simp [hkey]
        · exact Or.inl h
  | _ :: _ :: _ =>
      exact Or.inl h

/-- A step changes the document and the outcomes by placing its function, if at all. -/
theorem step_places (p : FallbackProgress) (f : FunctionSymbol) :
    (step v traces p f).2.correlator.document = p.correlator.document ∨
      ∃ search index declared, (step v traces p f).2 =
        place { p with search, correlator := { p.correlator with index } } v.mapping f.name
          (traces.contains f.start) declared := by
  unfold step
  cases p.correlator.index with
  | none =>
      exact Or.inl rfl
  | some x =>
      dsimp only
      rcases p.search.mentioning v.declarations.files f.name with ⟨e | candidates, search⟩
      · exact Or.inl rfl
      · dsimp only
        rcases declaring v.declarations f.name x candidates with ⟨e | declared, y⟩
        · exact Or.inl rfl
        · exact Or.inr ⟨search, some y, declared, rfl⟩

theorem provenance_step (p : FallbackProgress) (f : FunctionSymbol) :
    (step v traces p f).2.correlator.document.provenance = p.correlator.document.provenance := by
  rcases step_places p f with hsame | ⟨search, index, declared, hplaced⟩
  · rw [hsame]
  · rw [hplaced]
    exact provenance_place _ _ _ _ _

theorem function?_step_of_ne (p : FallbackProgress) (f : FunctionSymbol) {name : String}
    (hne : f.name ≠ name) (key : String) :
    (step v traces p f).2.correlator.document.function? key name =
      p.correlator.document.function? key name := by
  rcases step_places p f with hsame | ⟨search, index, declared, hplaced⟩
  · rw [hsame]
  · rw [hplaced, function?_place, if_neg hne, Option.or_none]

/-- A step searches for its function, if it searches at all. -/
theorem search_step (p : FallbackProgress) (f : FunctionSymbol) :
    (step v traces p f).2.search = p.search ∨
      (step v traces p f).2.search = (p.search.mentioning v.declarations.files f.name).2 := by
  unfold step
  cases p.correlator.index with
  | none =>
      exact Or.inl rfl
  | some x =>
      dsimp only
      rcases p.search.mentioning v.declarations.files f.name with ⟨e | candidates, search⟩
      · exact Or.inr rfl
      · dsimp only
        rcases declaring v.declarations f.name x candidates with ⟨e | declared, y⟩
        · exact Or.inr rfl
        · exact Or.inr (search_place _ _ _ _ _)

theorem mentioning_step (p : FallbackProgress) (f : FunctionSymbol) (name : String) :
    ((step v traces p f).2.search.mentioning v.declarations.files name).1 =
      (p.search.mentioning v.declarations.files name).1 := by
  rcases search_step p f with hsame | hsearched
  · rw [hsame]
  · rw [hsearched]
    exact p.search.mentioning_mentioning v.declarations.files name f.name

theorem search_step_of_loaded {p : FallbackProgress} (h : p.search.loaded.isSome)
    (f : FunctionSymbol) : (step v traces p f).2.search = p.search := by
  rcases search_step p f with hsame | hsearched
  · exact hsame
  · exact hsearched.trans (SourceSearch.mentioning_of_loaded h f.name)

/-- What a step that does not fail makes of its function, as a later index tells the files that
declare it. -/
structure Settles (v : SourceView) (traces : TraceStore) (y : DeclarationIndex)
    (p : FallbackProgress) (f : FunctionSymbol) (q : FallbackProgress)
    (declared : List (Path × UInt32)) : Prop where
  answers : y.Answers v.declarations p.search f.name declared
  outcome : q.outcomes[f.name]? =
    some (verdict v.mapping p.correlator.document f.name (traces.contains f.start) declared)
  entry (key : String) : q.correlator.document.function? key f.name =
    (p.correlator.document.function? key f.name).or
      (given? v.mapping (traces.contains f.start) key declared)
  loaded : q.search.loaded.isSome

theorem settles_step {p : FallbackProgress} {f : FunctionSymbol} {y : DeclarationIndex}
    (hsucceeds : (step v traces p f).1 = none)
    (hlater : Option.Rel DeclarationIndex.Extends (step v traces p f).2.correlator.index (some y)) :
    ∃ declared, Settles v traces y p f (step v traces p f).2 declared := by
  cases hindex : p.correlator.index with
  | none =>
      -- Without an index a step does nothing, and then no later index can be there.
      have hstill : (step v traces p f).2 = p := by
        simp [step, hindex]
      rw [hstill, hindex] at hlater
      cases hlater
  | some x =>
      obtain ⟨candidates, search, declared, z, hmentioning, hdeclared, hresult⟩ :=
        step_of_succeeds hindex hsucceeds
      rw [hresult] at hlater ⊢
      rw [index_place] at hlater
      cases hlater with
      | some hz =>
          refine ⟨declared, ?_, ?_, ?_, ?_⟩
          · exact ⟨candidates, by rw [hmentioning], (declaring_again hdeclared hz).1⟩
          · rw [outcomes_place, Std.ExtTreeMap.getElem?_insert_self]
          · intro key
            rw [function?_place, if_pos rfl]
          · have hloaded := SourceSearch.loaded_mentioning (congrArg Prod.fst hmentioning)
            rw [hmentioning] at hloaded
            rw [search_place]
            exact hloaded

/-! ## All functions -/

theorem function?_steps_of_notMem (v : SourceView) (traces : TraceStore) (p : FallbackProgress)
    {symbols : List FunctionSymbol} {name : String} (h : name ∉ symbols.map (·.name)) (key : String) :
    (attemptEach (step v traces) p symbols).2.correlator.document.function? key name =
      p.correlator.document.function? key name := by
  refine attemptEach_respects
    (R := fun p q : FallbackProgress => q.correlator.document.function? key name =
      p.correlator.document.function? key name)
    (fun _ => rfl) (fun hpq hqr => hqr.trans hpq) symbols ?_ p
  intro p f hf
  have hne : f.name ≠ name := by
    rintro rfl
    exact h (List.mem_map_of_mem hf)
  exact p.function?_step_of_ne f hne key

theorem provenance_steps (v : SourceView) (traces : TraceStore) (p : FallbackProgress)
    (symbols : List FunctionSymbol) :
    (attemptEach (step v traces) p symbols).2.correlator.document.provenance =
      p.correlator.document.provenance :=
  attemptEach_respects
    (R := fun p q : FallbackProgress =>
      q.correlator.document.provenance = p.correlator.document.provenance)
    (fun _ => rfl) (fun hpq hqr => hqr.trans hpq) symbols (fun p f _ => p.provenance_step f) p

theorem mentioning_steps (v : SourceView) (traces : TraceStore) (p : FallbackProgress)
    (symbols : List FunctionSymbol) (name : String) :
    ((attemptEach (step v traces) p symbols).2.search.mentioning v.declarations.files name).1 =
      (p.search.mentioning v.declarations.files name).1 :=
  attemptEach_respects
    (R := fun p q : FallbackProgress => (q.search.mentioning v.declarations.files name).1 =
      (p.search.mentioning v.declarations.files name).1)
    (fun _ => rfl) (fun hpq hqr => hqr.trans hpq) symbols (fun p f _ => p.mentioning_step f name) p

theorem search_steps_of_loaded {p : FallbackProgress} (h : p.search.loaded.isSome)
    (symbols : List FunctionSymbol) :
    (attemptEach (step v traces) p symbols).2.search = p.search := by
  -- That the search is loaded goes along with the step, since no step takes it back.
  refine attemptEach_respects
    (R := fun p q : FallbackProgress => p.search.loaded.isSome → q.search = p.search)
    (fun _ _ => rfl) ?_ symbols (fun p f _ hp => search_step_of_loaded hp f) p h
  intro p q r hpq hqr hp
  have hq := hpq hp
  exact (hqr (hq ▸ hp)).trans hq

theorem verdict_congr {m : SourceMapping} {d e : Document} {function : String}
    (h : ∀ key, d.function? key function = e.function? key function) (covered : Bool)
    (declared : List (Path × UInt32)) :
    verdict m d function covered declared = verdict m e function covered declared := by
  match declared with
  | [] =>
      rfl
  | [(path, line)] =>
      rw [verdict, verdict, h]
  | _ :: _ :: _ =>
      rfl

/-- Where no two functions have one name, what a step has made of its function is not changed by
the steps around it. -/
theorem settles_steps {p : FallbackProgress} {symbols : List FunctionSymbol} {y : DeclarationIndex}
    (hdistinct : (symbols.map (·.name)).Nodup)
    (hsucceeds : (attemptEach (step v traces) p symbols).1 = none)
    (hlater : Option.Rel DeclarationIndex.Extends
      (attemptEach (step v traces) p symbols).2.correlator.index (some y))
    {f : FunctionSymbol} (hf : f ∈ symbols) :
    ∃ declared, Settles v traces y p f (attemptEach (step v traces) p symbols).2 declared := by
  induction symbols generalizing p with
  | nil =>
      cases hf
  | cons first rest ih =>
      have hstep := first_of_attemptEach_cons hsucceeds
      rw [attemptEach_cons_of_none hstep] at hsucceeds hlater ⊢
      obtain ⟨hfirst, hrest⟩ := List.nodup_cons.1 hdistinct
      rcases List.mem_cons.1 hf with rfl | hmem
      · -- The steps to come have other functions and keep the search as it is.
        have hkeeps := keeps_steps v traces rest (step v traces p f).2
        obtain ⟨declared, hsettles⟩ :=
          settles_step hstep (DeclarationIndex.rel_trans hkeeps.index hlater)
        refine ⟨declared, hsettles.answers, ?_, ?_, ?_⟩
        · rw [(outcomes_steps hsucceeds hlater f.name).1 hfirst]
          exact hsettles.outcome
        · intro key
          rw [function?_steps_of_notMem v traces _ hfirst]
          exact hsettles.entry key
        · rw [search_steps_of_loaded hsettles.loaded]
          exact hsettles.loaded
      · -- The first step has not touched this function.
        have hne : first.name ≠ f.name := by
          intro heq
          exact hfirst (List.mem_map.2 ⟨f, hmem, heq.symm⟩)
        have hentry : ∀ key, (step v traces p first).2.correlator.document.function? key f.name =
            p.correlator.document.function? key f.name :=
          p.function?_step_of_ne first hne
        have hsearch : ((step v traces p first).2.search.mentioning v.declarations.files f.name).1
            = _ := p.mentioning_step first f.name
        obtain ⟨declared, hsettles⟩ := ih hrest hsucceeds hlater hmem
        refine ⟨declared, hsettles.answers.of_mentioning_eq hsearch.symm, ?_, ?_, hsettles.loaded⟩
        · rw [← verdict_congr hentry]
          exact hsettles.outcome
        · intro key
          rw [← hentry]
          exact hsettles.entry key

end FallbackProgress

end BinaryCoverage
