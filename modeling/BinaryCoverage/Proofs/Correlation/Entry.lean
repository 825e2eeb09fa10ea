import BinaryCoverage.Proofs.Correlation.Placement

/-!
# The entry of a placed function

A function that one file declares gets its entry there when it is placed for the first time.  This
file defines:

* `DeclarationIndex.DeclaresOnlyIn` — one of the files that mention a function declares it;

and shows which entry the function has after several symbols have been placed
(`coverage?_steps`): the one that it had, or else that of the first symbol of its name.
-/

namespace BinaryCoverage

/-- Of the files that mention a function, the index says of one only that it declares it. -/
def DeclarationIndex.DeclaresOnlyIn (y : DeclarationIndex) (s : DeclarationSource) (root : Path)
    (function : String) (path : Path) : Prop :=
  ∃ paths, SourceSearch.candidates s.files root function = .ok paths ∧
    paths.filter (y.declares s function) = [path]

namespace FallbackProgress

variable {v : SourceView} {traces : TraceStore}

theorem coverage?_updateFile_setFunction (d : Document) (key k function name : String)
    (line : UInt32) (covered : Bool) :
    (d.updateFile key (·.setFunction function line covered)).coverage? k name =
      if key = k ∧ function = name then some covered else d.coverage? k name := by
  unfold Document.coverage? FileCoverage.setFunction
  rw [Document.function?_updateFunction]
  split <;> rfl

theorem coverage?_place_of_ne (p : FallbackProgress) (m : SourceMapping) {function name : String}
    (hne : function ≠ name) (covered : Bool) (declared : List (Path × UInt32)) (key : String) :
    (p.place m function covered declared).correlator.document.coverage? key name =
      p.correlator.document.coverage? key name := by
  match declared with
  | [] =>
      rfl
  | [(path, line)] =>
      rw [place]
      split
      · rfl
      · exact (coverage?_updateFile_setFunction _ _ _ _ _ _ _).trans (by simp [hne])
  | _ :: _ :: _ =>
      rfl

/-- An entry that is there is kept, whatever its coverage and wherever it comes from. -/
theorem coverage?_place (p : FallbackProgress) (m : SourceMapping) (function : String)
    (covered : Bool) (path : Path) (line : UInt32) :
    (p.place m function covered [(path, line)]).correlator.document.coverage?
        (m.keyOfLocal path) function =
      (p.correlator.document.coverage? (m.keyOfLocal path) function).or (some covered) := by
  have hpresent : hasFunction p.correlator.document (m.keyOfLocal path) function =
      (p.correlator.document.coverage? (m.keyOfLocal path) function).isSome := by
    rw [hasFunction_eq_isSome, Document.coverage?, Option.isSome_map]
  rw [place, hpresent]
  split
  · rename_i hsome
    rcases Option.isSome_iff_exists.1 hsome with ⟨old, hold⟩
    dsimp only
    rw [hold]
    rfl
  · rename_i hnone
    rw [Option.not_isSome_iff_eq_none] at hnone
    rw [hnone]
    exact (coverage?_updateFile_setFunction _ _ _ _ _ _ _).trans (by simp)

/-- One function without source lines gives an entry to itself only, where it has none yet. -/
theorem coverage?_step {p : FallbackProgress} {s : FunctionSymbol} {y : DeclarationIndex}
    {root path : Path} {f : String}
    (hsearch : p.search.Faithful v.declarations.files root)
    (hsucceeds : (step v traces p s).1 = none)
    (hlater : Option.Rel DeclarationIndex.Extends (step v traces p s).2.correlator.index (some y))
    (hsole : y.DeclaresOnlyIn v.declarations root f path) :
    (step v traces p s).2.search.Faithful v.declarations.files root ∧
      (step v traces p s).2.correlator.document.coverage? (v.mapping.keyOfLocal path) f =
        (p.correlator.document.coverage? (v.mapping.keyOfLocal path) f).or
          (if s.name = f then some (traces.contains s.start) else none) := by
  cases hindex : p.correlator.index with
  | none =>
      -- Nothing is placed without an index, and the last index would be missing too.
      have hstill : (step v traces p s).2 = p := by
        simp [step, hindex]
      rw [hstill, hindex] at hlater
      cases hlater
  | some x =>
      rcases step_of_succeeds hindex hsucceeds with
        ⟨candidates, search, declared, z, hmentioning, hdeclared, hresult⟩
      have hspec := SourceSearch.mentioning_spec hsearch s.name
      rw [hmentioning] at hspec
      rw [hresult] at hlater ⊢
      refine ⟨by rw [search_place]; exact hspec.2, ?_⟩
      by_cases hname : s.name = f
      · subst hname
        rw [index_place] at hlater
        cases hlater with
        | some hz =>
            rcases hsole with ⟨paths, hpaths, hfilter⟩
            have hcandidates : candidates = paths := by
              rw [← hspec.1] at hpaths
              exact Except.ok.inj hpaths
            -- The one file that the index names in the end has been the only one found.
            have hfound := declaring_eq_filter hdeclared hz
            rw [hcandidates, hfilter] at hfound
            rcases List.map_eq_singleton_iff.1 hfound with ⟨⟨path', line⟩, hsingle, hpath⟩
            dsimp only at hpath
            subst hpath
            rw [hsingle, if_pos rfl]
            exact coverage?_place _ _ _ _ _ _
      · rw [if_neg hname, Option.or_none]
        exact coverage?_place_of_ne _ _ hname _ _ _

/-- Of the symbols with one name the first one counts. -/
theorem coverage?_steps {p : FallbackProgress} {symbols : List FunctionSymbol}
    {y : DeclarationIndex} {root path : Path} {f : String}
    (hsearch : p.search.Faithful v.declarations.files root)
    (hsucceeds : (attemptEach (step v traces) p symbols).1 = none)
    (hlater : Option.Rel DeclarationIndex.Extends
      (attemptEach (step v traces) p symbols).2.correlator.index (some y))
    (hsole : y.DeclaresOnlyIn v.declarations root f path) :
    (attemptEach (step v traces) p symbols).2.search.Faithful v.declarations.files root ∧
      (attemptEach (step v traces) p symbols).2.correlator.document.coverage?
          (v.mapping.keyOfLocal path) f =
        (p.correlator.document.coverage? (v.mapping.keyOfLocal path) f).or
          ((symbols.find? (·.name = f)).map fun s => traces.contains s.start) := by
  induction symbols generalizing p with
  | nil =>
      exact ⟨hsearch, by simp [attemptEach]⟩
  | cons s rest ih =>
      have hstep := first_of_attemptEach_cons hsucceeds
      rw [attemptEach_cons_of_none hstep] at hsucceeds hlater ⊢
      -- What the rest is told by the index, this step has been told already.
      have hrest := keeps_steps v traces rest (step v traces p s).2
      have hfirst := coverage?_step (y := y) hsearch hstep
        (DeclarationIndex.rel_trans hrest.index hlater) hsole
      rcases ih hfirst.1 hsucceeds hlater with ⟨hfaithful, hcoverage⟩
      refine ⟨hfaithful, ?_⟩
      rw [hcoverage, hfirst.2, Option.or_assoc, List.find?_cons]
      by_cases hname : s.name = f
      · simp [hname]
      · simp [hname]

end FallbackProgress

end BinaryCoverage
