import BinaryCoverage.Proofs.Correlation.Settled

/-!
# What placing functions records

A function without source lines gets an entry where one file declares it and has none for it yet.
Placing the same functions again finds all of that in place.  This file defines:

* `FallbackProgress.Furthers` — a file that is new has a function that is new;
* `FallbackOutcome.again` — the outcome of a function that is placed once more;
* `Correlator.Gains` — what placing the functions of a table adds to a correlator;

and shows that this is all (`placeUnmapped_gains`).
-/

namespace BinaryCoverage

namespace FallbackProgress

variable {v : SourceView} {traces : TraceStore}

/-! ## New files -/

/-- The document has grown, and a file that is new has a function that is new. -/
structure Furthers (d e : Document) : Prop where
  grows : d.GrowsTo e
  file (key : String) : (e.file? key).isSome →
    (d.file? key).isSome ∨ ∃ name, (e.function? key name).isSome ∧ d.function? key name = none

theorem Furthers.refl (d : Document) : Furthers d d :=
  ⟨Document.GrowsTo.refl d, fun _ h => Or.inl h⟩

theorem Furthers.trans {d e e' : Document} (h : Furthers d e) (h' : Furthers e e') :
    Furthers d e' := by
  refine ⟨h.grows.trans h'.grows, ?_⟩
  intro key hkey
  rcases h'.file key hkey with hfile | ⟨name, hname, hnone⟩
  · rcases h.file key hfile with hold | ⟨name, hname, hnone⟩
    · exact Or.inl hold
    · exact Or.inr ⟨name, h'.grows.function key name hname, hnone⟩
  · refine Or.inr ⟨name, hname, ?_⟩
    -- An entry from the beginning would still be there in between.
    by_contra hsome
    have hkept := h.grows.function key name (Option.isSome_iff_ne_none.2 hsome)
    rw [hnone] at hkept
    cases hkept

theorem furthers_step (p : FallbackProgress) (f : FunctionSymbol) :
    Furthers p.correlator.document (step v traces p f).2.correlator.document := by
  rcases step_places (v := v) p f with hsame | ⟨search, index, declared, hplaced⟩
  · rw [hsame]
    exact Furthers.refl _
  · refine ⟨?_, ?_⟩
    · obtain ⟨xs, hxs⟩ := p.notes_step (v := v) f
      rw [hxs]
      exact Document.growsTo_noteAll _ xs
    · intro key hkey
      rw [hplaced] at hkey ⊢
      rcases file?_place _ _ _ _ _ _ hkey with hfile | hnew
      · exact Or.inl hfile
      · cases hold : p.correlator.document.function? key f.name with
        | some old =>
            exact Or.inl (Document.isSome_file?_of_function? (Option.isSome_iff_exists.2 ⟨old, hold⟩))
        | none =>
            refine Or.inr ⟨f.name, ?_, hold⟩
            rw [function?_place, if_pos rfl, Option.isSome_or, hnew, Bool.or_true]

theorem furthers_steps (v : SourceView) (traces : TraceStore) (p : FallbackProgress)
    (symbols : List FunctionSymbol) :
    Furthers p.correlator.document
      (attemptEach (step v traces) p symbols).2.correlator.document :=
  attemptEach_respects
    (R := fun p q : FallbackProgress => Furthers p.correlator.document q.correlator.document)
    (fun p => Furthers.refl p.correlator.document) (fun hpq hqr => hpq.trans hqr) symbols
    (fun p f _ => p.furthers_step f) p

/-! ## Placing again -/

theorem correlator_place_of_present {p : FallbackProgress} {m : SourceMapping} {function : String}
    {covered : Bool} {declared : List (Path × UInt32)}
    (h : ∀ key, (given? m covered key declared).isSome →
      (p.correlator.document.function? key function).isSome) :
    (p.place m function covered declared).correlator = p.correlator := by
  match declared with
  | [] =>
      rfl
  | [(path, line)] =>
      have hpresent := h (m.keyOfLocal path) (by simp [given?])
      rw [place, hasFunction_eq_isSome, if_pos hpresent]
  | _ :: _ :: _ =>
      rfl

/-- A step for a function that has its entry, by an index that answers for it. -/
theorem step_again {p : FallbackProgress} {f : FunctionSymbol} {y : DeclarationIndex}
    {declared : List (Path × UInt32)} (hindex : p.correlator.index = some y)
    (hloaded : p.search.loaded.isSome)
    (hanswers : y.Answers v.declarations p.search f.name declared)
    (hpresent : ∀ key, (given? v.mapping (traces.contains f.start) key declared).isSome →
      (p.correlator.document.function? key f.name).isSome) :
    (step v traces p f).1 = none ∧ (step v traces p f).2.correlator = p.correlator ∧
      (step v traces p f).2.search = p.search := by
  obtain ⟨candidates, hcandidates, hdeclared⟩ := hanswers
  have hmentioning : p.search.mentioning v.declarations.files f.name = (.ok candidates, p.search) :=
    Prod.ext hcandidates (SourceSearch.mentioning_of_loaded hloaded f.name)
  have hcorrelator : { p.correlator with index := some y } = p.correlator := by
    rw [← hindex]
  unfold step
  simp only [hindex, hmentioning, hdeclared, hcorrelator, true_and]
  exact ⟨correlator_place_of_present hpresent, search_place _ _ _ _ _⟩

end FallbackProgress

/-- The outcome of a function that is placed once more. -/
def FallbackOutcome.again : FallbackOutcome → FallbackOutcome
  | .recorded key _ => .alreadyPresent key
  | o => o

namespace FallbackProgress

theorem verdict_again {m : SourceMapping} {d e : Document} {function : String} {covered : Bool}
    {declared : List (Path × UInt32)}
    (hentry : ∀ key, e.function? key function =
      (d.function? key function).or (given? m covered key declared)) :
    verdict m e function covered declared = (verdict m d function covered declared).again := by
  match declared with
  | [] =>
      rfl
  | [(path, line)] =>
      have hpresent : (e.function? (m.keyOfLocal path) function).isSome := by
        rw [hentry, Option.isSome_or]
        simp [given?]
      rw [verdict, if_pos hpresent, verdict]
      split <;> rfl
  | _ :: _ :: _ =>
      rfl

end FallbackProgress

/-! ## What is gained -/

namespace Correlator

/-- What placing the functions of a table adds to a correlator: entries of functions where a file
has been recorded for them. -/
structure Gains (c : Correlator) (v : SourceView) (functions : FunctionTable) (traces : TraceStore)
    (search : SourceSearch) (y : DeclarationIndex) (q : FallbackProgress) : Prop where
  index : q.correlator.index = some y
  registry : q.correlator.registry = c.registry
  provenance : q.correlator.document.provenance = c.document.provenance
  line (key : String) (n : UInt32) : q.correlator.document.line? key n = c.document.line? key n
  record (key : String) (n binary : UInt32) (address : UInt64) :
    q.correlator.document.record? key n binary address = c.document.record? key n binary address
  kept {key name : String} {entry : FunctionCoverage} :
    c.document.function? key name = some entry →
      q.correlator.document.function? key name = some entry
  gained (key name : String) : (q.correlator.document.function? key name).isSome ↔
    (c.document.function? key name).isSome ∨
      ∃ covered, q.outcomes[name]? = some (.recorded key covered)
  file (key : String) : (q.correlator.document.file? key).isSome ↔
    (c.document.file? key).isSome ∨
      ∃ (name : String) (covered : Bool), q.outcomes[name]? = some (.recorded key covered)
  outcome (name : String) : (q.outcomes[name]?).isSome ↔ (functions.get? name).any (!·.mapped)
  /-- A file is recorded if it is the only one that declares the function and has no entry yet. -/
  recorded {name : String} {f : FunctionSymbol} : functions.get? name = some f → f.mapped = false →
    ∀ key covered, q.outcomes[name]? = some (.recorded key covered) ↔
      covered = traces.contains f.start ∧ c.document.function? key name = none ∧
        ∃ path, y.declarers v.declarations search name = .ok [path] ∧ v.mapping.keyOfLocal path = key
  /-- The new entry has the declaration line that the index gives. -/
  entry {key name : String} {covered : Bool} : q.outcomes[name]? = some (.recorded key covered) →
    ∃ path line, y.declarers v.declarations search name = .ok [path] ∧
      v.mapping.keyOfLocal path = key ∧ (y.line? v.declarations path name).1 = .ok (some line) ∧
      q.correlator.document.function? key name = some ⟨covered, line⟩

variable {c : Correlator} {v : SourceView} {functions : FunctionTable} {traces : TraceStore}
  {search : SourceSearch} {q : FallbackProgress} {x y : DeclarationIndex}

theorem later_placeUnmapped (hplace : c.placeUnmapped v functions traces search = (none, q))
    (hindex : q.correlator.index = some y) : Option.Rel DeclarationIndex.Extends
      (c.placeUnmapped v functions traces search).2.correlator.index (some y) := by
  rw [hplace, hindex]
  exact DeclarationIndex.rel_refl _

theorem settles_placeUnmapped (hplace : c.placeUnmapped v functions traces search = (none, q))
    (hindex : q.correlator.index = some y) {f : FunctionSymbol}
    (hf : f ∈ functions.unmapped) :
    ∃ declared, FallbackProgress.Settles v traces y { correlator := c, search } f q declared := by
  have hsettles := FallbackProgress.settles_steps functions.nodup_unmapped_names
    (congrArg Prod.fst hplace) (later_placeUnmapped hplace hindex) hf
  change attemptEach _ _ functions.unmapped = _ at hplace
  rw [hplace] at hsettles
  exact hsettles

/-- A function without source lines is settled, and any other name is left alone. -/
theorem settled_or_untouched (hplace : c.placeUnmapped v functions traces search = (none, q))
    (hindex : q.correlator.index = some y) (name : String) :
    (∃ f declared, functions.get? name = some f ∧ f.mapped = false ∧ f.name = name ∧
      FallbackProgress.Settles v traces y { correlator := c, search } f q declared) ∨
    ((functions.get? name).any (!·.mapped) = false ∧ q.outcomes[name]? = none ∧
      ∀ key, q.correlator.document.function? key name = c.document.function? key name) := by
  cases hunmapped : (functions.get? name).any (!·.mapped) with
  | true =>
      obtain ⟨f, hf, hmapped⟩ := (Option.any_eq_true _ _).1 hunmapped
      rw [Bool.not_eq_true'] at hmapped
      obtain ⟨declared, hsettles⟩ := settles_placeUnmapped hplace hindex
        (FunctionTable.mem_unmapped_iff.2 ⟨⟨name, hf⟩, hmapped⟩)
      exact Or.inl ⟨f, declared, hf, hmapped, functions.named hf, hsettles⟩
  | false =>
      have hnotMem : name ∉ functions.unmapped.map (·.name) := by
        rw [FunctionTable.mem_unmapped_names_iff, hunmapped]
        exact Bool.false_ne_true
      have hnone := (FallbackProgress.outcomes_steps (congrArg Prod.fst hplace)
        (later_placeUnmapped hplace hindex) name).1 hnotMem
      have hsame := FallbackProgress.function?_steps_of_notMem v traces { correlator := c, search }
        hnotMem
      change attemptEach _ _ functions.unmapped = _ at hplace
      rw [hplace] at hnone hsame
      exact Or.inr ⟨rfl, hnone.trans (by simp), hsame⟩

/-- An entry that was not there has been recorded. -/
theorem isSome_function?_placeUnmapped
    (hplace : c.placeUnmapped v functions traces search = (none, q))
    (hindex : q.correlator.index = some y) (key name : String) :
    (q.correlator.document.function? key name).isSome ↔
      (c.document.function? key name).isSome ∨
        ∃ covered, q.outcomes[name]? = some (.recorded key covered) := by
  rcases settled_or_untouched hplace hindex name with
    ⟨f, declared, -, -, rfl, hsettles⟩ | ⟨-, hnone, hsame⟩
  · simp only [hsettles.entry, hsettles.outcome, Option.some.injEq, Option.isSome_or,
      Bool.or_eq_true]
    cases hold : c.document.function? key f.name with
    | some old =>
        simp
    | none =>
        rw [FallbackProgress.isSome_given?_iff hold]
  · simp [hnone, hsame]

/-- A file that was not there is that of an entry which has been recorded. -/
theorem isSome_file?_placeUnmapped
    (hplace : c.placeUnmapped v functions traces search = (none, q))
    (hindex : q.correlator.index = some y) (key : String) :
    (q.correlator.document.file? key).isSome ↔
      (c.document.file? key).isSome ∨
        ∃ (name : String) (covered : Bool), q.outcomes[name]? = some (.recorded key covered) := by
  have hfurthers := FallbackProgress.furthers_steps v traces { correlator := c, search }
    functions.unmapped
  have hgained := isSome_function?_placeUnmapped hplace hindex key
  change attemptEach _ _ functions.unmapped = _ at hplace
  rw [hplace] at hfurthers
  constructor
  · intro hfile
    rcases hfurthers.file key hfile with hold | ⟨name, hname, hnone⟩
    · exact Or.inl hold
    · refine Or.inr ⟨name, ((hgained name).1 hname).resolve_left ?_⟩
      rw [hnone]
      exact Bool.false_ne_true
  · rintro (hold | ⟨name, hrecorded⟩)
    · exact hfurthers.grows.file key hold
    · exact Document.isSome_file?_of_function? ((hgained name).2 (Or.inr hrecorded))

/-- What is recorded for a function has the only declaration that the index finds. -/
theorem entry_of_recorded (hplace : c.placeUnmapped v functions traces search = (none, q))
    (hindex : q.correlator.index = some y) {key name : String}
    {covered : Bool} (hrecorded : q.outcomes[name]? = some (.recorded key covered)) :
    ∃ path line, y.declarers v.declarations search name = .ok [path] ∧
      v.mapping.keyOfLocal path = key ∧ (y.line? v.declarations path name).1 = .ok (some line) ∧
      q.correlator.document.function? key name = some ⟨covered, line⟩ := by
  rcases settled_or_untouched hplace hindex name with
    ⟨f, declared, -, -, rfl, hsettles⟩ | ⟨-, hnone, -⟩
  · rw [hsettles.outcome, Option.some.injEq, FallbackProgress.verdict_eq_recorded_iff] at hrecorded
    obtain ⟨rfl, habsent, path, line, rfl, rfl⟩ := hrecorded
    refine ⟨path, line, hsettles.answers.declarers_eq, rfl,
      hsettles.answers.line?_eq List.mem_cons_self, ?_⟩
    rw [hsettles.entry, habsent]
    simp [FallbackProgress.given?]
  · rw [hnone] at hrecorded
    cases hrecorded

theorem gains_placeUnmapped (hplace : c.placeUnmapped v functions traces search = (none, q))
    (hindex : q.correlator.index = some y) :
    c.Gains v functions traces search y q := by
  have hcases := settled_or_untouched hplace hindex
  have hkeeps : c.Keeps q.correlator := by
    have hkept := c.keeps_placeUnmapped v functions traces search
    rwa [hplace] at hkept
  exact {
    index := hindex
    registry := hkeeps.registry
    provenance := by
      have hsteps := FallbackProgress.provenance_steps v traces { correlator := c, search }
        functions.unmapped
      rwa [← placeUnmapped, hplace] at hsteps
    line := hkeeps.line
    record := by
      intro key n binary address
      rw [Document.record?, Document.record?, hkeeps.line]
    kept := by
      intro key name entry hentry
      rcases hcases name with ⟨f, declared, -, -, rfl, hsettles⟩ | ⟨-, -, hsame⟩
      · rw [hsettles.entry, hentry]
        rfl
      · rw [hsame, hentry]
    gained := isSome_function?_placeUnmapped hplace hindex
    file := isSome_file?_placeUnmapped hplace hindex
    outcome := by
      intro name
      rcases hcases name with ⟨f, declared, hf, hmapped, rfl, hsettles⟩ | ⟨hmapped, hnone, -⟩
      · simp [hf, hmapped, hsettles.outcome]
      · simp [hmapped, hnone]
    recorded := by
      intro name f hf hmapped key covered
      obtain ⟨declared, hsettles⟩ := settles_placeUnmapped hplace hindex
        (FunctionTable.mem_unmapped_iff.2 ⟨⟨name, hf⟩, hmapped⟩)
      -- The verdict is about the declarations that were found, which are all that there are.
      obtain rfl := functions.named hf
      rw [hsettles.outcome, Option.some.injEq, FallbackProgress.verdict_eq_recorded_iff,
        hsettles.answers.declarers_eq]
      simp [List.map_eq_singleton_iff]
    entry := entry_of_recorded hplace hindex }

theorem placeUnmapped_again (hplace : c.placeUnmapped v functions traces search = (none, q))
    (hindex : q.correlator.index = some y) :
    ∃ r, q.correlator.placeUnmapped v functions traces q.search = (none, r) ∧
      r.correlator = q.correlator ∧ r.search = q.search ∧
      ∀ name : String, r.outcomes[name]? = (q.outcomes[name]?).map FallbackOutcome.again := by
  have hsearch : ∀ name, (q.search.mentioning v.declarations.files name).1 =
      (search.mentioning v.declarations.files name).1 := by
    have hsteps := FallbackProgress.mentioning_steps v traces { correlator := c, search }
      functions.unmapped
    rw [← placeUnmapped, hplace] at hsteps
    exact hsteps
  -- The index answers for each function, and what has been recorded is there.
  have hstep : ∀ p : FallbackProgress, (p.correlator = q.correlator ∧ p.search = q.search) →
      ∀ f ∈ functions.unmapped, (FallbackProgress.step v traces p f).1 = none ∧
        (FallbackProgress.step v traces p f).2.correlator = q.correlator ∧
        (FallbackProgress.step v traces p f).2.search = q.search := by
    rintro p ⟨hp, hps⟩ f hf
    obtain ⟨declared, hsettles⟩ := settles_placeUnmapped hplace hindex hf
    rw [← hp, ← hps]
    apply FallbackProgress.step_again (hp ▸ hindex) (hps ▸ hsettles.loaded)
      (hps ▸ hsettles.answers.of_mentioning_eq (hsearch f.name))
    intro key hnew
    rw [hp, hsettles.entry, Option.isSome_or, hnew, Bool.or_true]
  obtain ⟨hsucceeds, hcorrelator, hstill⟩ := attemptEach_invariant
    (fun p : FallbackProgress => p.correlator = q.correlator ∧ p.search = q.search)
    functions.unmapped hstep (s := { correlator := q.correlator, search := q.search }) ⟨rfl, rfl⟩
  have hagain : q.correlator.placeUnmapped v functions traces q.search = (none, _) :=
    Prod.ext hsucceeds rfl
  refine ⟨_, hagain, hcorrelator, hstill, ?_⟩
  intro name
  have hindex' := (congrArg Correlator.index hcorrelator).trans hindex
  rcases settled_or_untouched hplace hindex name with
    ⟨f, declared, hf, hmapped, rfl, hsettles⟩ | ⟨hmapped, hnone, -⟩
  · rcases settled_or_untouched hagain hindex' f.name with
      ⟨f', declared', hf', -, -, hsettles'⟩ | ⟨hmapped', -, -⟩
    · obtain rfl : f = f' := Option.some.inj (hf.symm.trans hf')
      obtain rfl := (hsettles.answers.of_mentioning_eq (hsearch f.name)).unique hsettles'.answers
      rw [hsettles'.outcome, hsettles.outcome, Option.map_some]
      exact congrArg some (FallbackProgress.verdict_again hsettles.entry)
    · simp [hf, hmapped] at hmapped'
  · rcases settled_or_untouched hagain hindex' name with
      ⟨f', declared', hf', hmapped', -, -⟩ | ⟨-, hnone', -⟩
    · simp [hf', hmapped'] at hmapped
    · rw [hnone', hnone, Option.map_none]

/-- Placing functions that does not fail adds what it has recorded and nothing else.  Placing them
again changes nothing and finds what has been recorded. -/
theorem placeUnmapped_gains (hindex : c.index = some x)
    (hplace : c.placeUnmapped v functions traces search = (none, q)) :
    ∃ y, c.Gains v functions traces search y q ∧
      ∃ r, q.correlator.placeUnmapped v functions traces q.search = (none, r) ∧
        r.correlator = q.correlator ∧ r.search = q.search ∧
        ∀ name : String, r.outcomes[name]? = (q.outcomes[name]?).map FallbackOutcome.again := by
  obtain ⟨y, hy⟩ := exists_index_placeUnmapped hplace hindex
  exact ⟨y, gains_placeUnmapped hplace hy, placeUnmapped_again hplace hy⟩

/-- One file declares three functions, and another one declares one of them too. -/
def twoFiles : DeclarationIndex where
  known := Table.build [((Path.mk "/f.c").components, Table.build [("f", 1), ("g", 7), ("h", 9)]),
    ((Path.mk "/m.c").components, Table.build [("h", 3)])]

/-- The second of the functions has an entry, from a line that has run. -/
def withEntry : Correlator where
  document := (({} : Document).updateFile "f.c" (·.setFunction "g" 7 true)).updateFile "f.c"
    (·.updateLine 8 (·.record 0 8192 "ret" 1))
  index := some twoFiles

def unplaced : FunctionTable :=
  .ofSymbols [⟨"f", 4096, 4104, false⟩, ⟨"g", 8192, 8196, false⟩, ⟨"h", 4104, 4112, false⟩,
    ⟨"k", 4112, 4116, false⟩]

theorem placeUnmapped_gains_unplaced :
    let v : SourceView := ⟨⟨⟨"/w"⟩, ⟨"/"⟩, true⟩, ⟨{}, fun _ => .ok ∅⟩⟩
    let traces := TraceStore.ingest {} "1000 1 4"
    let search : SourceSearch := ⟨⟨"/"⟩, some [(⟨"/f.c"⟩, "f g h"), (⟨"/m.c"⟩, "f h")]⟩
    ∃ q, withEntry.index = some twoFiles ∧
      withEntry.placeUnmapped v unplaced traces search = (none, q) ∧
      q.outcomes.toList = [("f", .recorded "f.c" true), ("g", .alreadyPresent "f.c"),
        ("h", .ambiguous [⟨"/f.c"⟩, ⟨"/m.c"⟩]), ("k", .notFound)] ∧
      ∃ y, withEntry.Gains v unplaced traces search y q ∧
        ∃ r, q.correlator.placeUnmapped v unplaced traces q.search = (none, r) ∧
          r.correlator = q.correlator ∧ r.search = q.search ∧
          ∀ name : String, r.outcomes[name]? = (q.outcomes[name]?).map FallbackOutcome.again := by
  intro v traces search
  have hplace : withEntry.placeUnmapped v unplaced traces search =
      (none, (withEntry.placeUnmapped v unplaced traces search).2) := by
    refine Prod.ext ?_ rfl
    decide +kernel
  have houtcomes : (withEntry.placeUnmapped v unplaced traces search).2.outcomes.toList =
      [("f", .recorded "f.c" true), ("g", .alreadyPresent "f.c"),
        ("h", .ambiguous [⟨"/f.c"⟩, ⟨"/m.c"⟩]), ("k", .notFound)] := by
    decide +kernel
  exact ⟨_, rfl, hplace, houtcomes, placeUnmapped_gains rfl hplace⟩

end Correlator

end BinaryCoverage
