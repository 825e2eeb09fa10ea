import BinaryCoverage.Correlation.Fallback
import BinaryCoverage.Proofs.Correlation.Progress

/-!
# What placing functions adds

Placing the functions without source lines changes no line and no index of a binary.  This file
defines:

* `Correlator.Keeps` — nothing but functions has changed;
* `SourceSearch.candidates` — the files below a folder that mention a name;
* `SourceSearch.Faithful` — what a search has loaded is what stands below the folder;

and shows that the files found to declare a function stay the same (`declaring_eq_filter`).
-/

namespace BinaryCoverage

/-! ## What is kept -/

namespace Correlator

structure Keeps (c d : Correlator) : Prop where
  registry : d.registry = c.registry
  line : ∀ key n, d.document.line? key n = c.document.line? key n
  index : Option.Rel DeclarationIndex.Extends c.index d.index

theorem Keeps.refl (c : Correlator) : c.Keeps c :=
  ⟨rfl, fun _ _ => rfl, DeclarationIndex.rel_refl c.index⟩

theorem Keeps.trans {c d e : Correlator} (h : c.Keeps d) (h' : d.Keeps e) : c.Keeps e where
  registry := h'.registry.trans h.registry
  line key n := (h'.line key n).trans (h.line key n)
  index := DeclarationIndex.rel_trans h.index h'.index

end Correlator

namespace FallbackProgress

variable {v : SourceView} {traces : TraceStore}

/-! ## Asking for declarations -/

theorem extends_declaring (s : DeclarationSource) (function : String) (x : DeclarationIndex)
    (paths : List Path) : x.Extends (declaring s function x paths).2 := by
  induction paths generalizing x with
  | nil =>
      exact DeclarationIndex.Extends.refl x
  | cons p rest ih =>
      have hfirst := x.extends_line? s p function
      rw [declaring]
      rcases hline : x.line? s p function with ⟨e | line, y⟩
      · rw [hline] at hfirst
        exact hfirst
      · rw [hline] at hfirst
        exact hfirst.trans (ih y)

/-- The files found to declare a function are those of which any later index says so. -/
theorem declaring_eq_filter {s : DeclarationSource} {function : String} {x y z : DeclarationIndex}
    {paths : List Path} {found : List (Path × UInt32)}
    (h : declaring s function x paths = (.ok found, y)) (hz : y.Extends z) :
    found.map (·.1) = paths.filter (z.declares s function) := by
  induction paths generalizing x found with
  | nil =>
      cases h
      rfl
  | cons p rest ih =>
      rw [declaring] at h
      rcases hline : x.line? s p function with ⟨e | line, x'⟩
      · rw [hline] at h
        cases h
      · rw [hline] at h
        dsimp only at h
        have hextends := extends_declaring s function x' rest
        rcases hrest : declaring s function x' rest with ⟨e | found', y'⟩
        · rw [hrest] at h
          cases h
        · rw [hrest] at h hextends
          cases h
          -- The answer for the first file is known to every index that comes after it.
          have hfirst := DeclarationIndex.declares_of_extends hline (hextends.trans hz)
          rw [List.filter_cons, hfirst, ← ih hrest]
          cases line <;> rfl

/-! ## Placing one function -/

theorem hasFunction_eq_isSome (d : Document) (key function : String) :
    hasFunction d key function = (d.function? key function).isSome := by
  unfold hasFunction Document.function?
  cases d.file? key with
  | none =>
      rfl
  | some c =>
      simp

theorem keeps_place (p : FallbackProgress) (m : SourceMapping) (function : String) (covered : Bool)
    (declared : List (Path × UInt32)) :
    p.correlator.Keeps (p.place m function covered declared).correlator := by
  match declared with
  | [] =>
      exact Correlator.Keeps.refl _
  | [(path, line)] =>
      rw [place]
      split
      · exact Correlator.Keeps.refl _
      · refine ⟨rfl, ?_, DeclarationIndex.rel_refl _⟩
        intro key n
        exact Document.line?_updateFunction _ _ _ _ _ _ _
  | _ :: _ :: _ =>
      exact Correlator.Keeps.refl _

theorem keeps_step (p : FallbackProgress) (f : FunctionSymbol) :
    p.correlator.Keeps (step v traces p f).2.correlator := by
  unfold step
  cases hindex : p.correlator.index with
  | none =>
      exact Correlator.Keeps.refl _
  | some x =>
      dsimp only
      rcases p.search.mentioning v.declarations.files f.name with ⟨e | candidates, search⟩
      · exact Correlator.Keeps.refl _
      · dsimp only
        -- The index learns from the questions even when one of them fails.
        have hextends := extends_declaring v.declarations f.name x candidates
        rcases hdeclared : declaring v.declarations f.name x candidates with ⟨found, y⟩
        rw [hdeclared] at hextends
        have hasked : p.correlator.Keeps { p.correlator with index := some y } :=
          ⟨rfl, fun _ _ => rfl, hindex ▸ Option.Rel.some hextends⟩
        rcases found with e | declared
        · exact hasked
        · refine hasked.trans ?_
          exact keeps_place { p with search, correlator := { p.correlator with index := some y } }
            v.mapping f.name (traces.contains f.start) declared

theorem search_place (p : FallbackProgress) (m : SourceMapping) (function : String) (covered : Bool)
    (declared : List (Path × UInt32)) :
    (p.place m function covered declared).search = p.search := by
  match declared with
  | [] =>
      rfl
  | [(path, line)] =>
      rw [place]
      split <;> rfl
  | _ :: _ :: _ =>
      rfl

theorem index_place (p : FallbackProgress) (m : SourceMapping) (function : String) (covered : Bool)
    (declared : List (Path × UInt32)) :
    (p.place m function covered declared).correlator.index = p.correlator.index := by
  match declared with
  | [] =>
      rfl
  | [(path, line)] =>
      rw [place]
      split <;> rfl
  | _ :: _ :: _ =>
      rfl

/-- A step that does not fail has found the files to place the function by. -/
theorem step_of_succeeds {p : FallbackProgress} {f : FunctionSymbol} {x : DeclarationIndex}
    (hindex : p.correlator.index = some x) (hsucceeds : (step v traces p f).1 = none) :
    ∃ candidates search declared y,
      p.search.mentioning v.declarations.files f.name = (.ok candidates, search) ∧
        declaring v.declarations f.name x candidates = (.ok declared, y) ∧
        (step v traces p f).2 =
          place { p with search, correlator := { p.correlator with index := some y } }
            v.mapping f.name (traces.contains f.start) declared := by
  unfold step at hsucceeds ⊢
  simp only [hindex] at hsucceeds ⊢
  rcases hmentioning : p.search.mentioning v.declarations.files f.name with ⟨e | candidates, search⟩
  · simp [hmentioning] at hsucceeds
  · simp only [hmentioning] at hsucceeds ⊢
    rcases hdeclared : declaring v.declarations f.name x candidates with ⟨e | declared, y⟩
    · simp [hdeclared] at hsucceeds
    · exact ⟨candidates, search, declared, y, rfl, hdeclared, rfl⟩

theorem keeps_steps (v : SourceView) (traces : TraceStore) (symbols : List FunctionSymbol)
    (p : FallbackProgress) :
    p.correlator.Keeps (attemptEach (step v traces) p symbols).2.correlator := by
  refine attemptEach_respects (R := fun p q : FallbackProgress => p.correlator.Keeps q.correlator)
    ?_ ?_ symbols ?_ p
  · intro p
    exact Correlator.Keeps.refl p.correlator
  · intro p q r hpq hqr
    exact hpq.trans hqr
  · intro p f _
    exact p.keeps_step f

end FallbackProgress

/-- Placing functions changes nothing but functions, whatever comes of it. -/
theorem Correlator.keeps_placeUnmapped (c : Correlator) (v : SourceView) (functions : FunctionTable)
    (traces : TraceStore) (search : SourceSearch) :
    c.Keeps (c.placeUnmapped v functions traces search).2.correlator :=
  FallbackProgress.keeps_steps v traces functions.unmapped { correlator := c, search }

/-! ## Searching -/

namespace SourceSearch

variable {s : SourceSearch} {t : FileTree} {root : Path}

def candidates (t : FileTree) (root : Path) (name : String) : Except Failure (List Path) :=
  (sourcesIn t root).map fun sources =>
    sources.filterMap fun (p, text) => if Text.mentions name text then some p else none

structure Faithful (s : SourceSearch) (t : FileTree) (root : Path) : Prop where
  below : s.root = root
  loaded : ∀ sources, s.loaded = some sources → sourcesIn t root = .ok sources

theorem faithful_fresh (t : FileTree) (root : Path) : Faithful { root } t root := by
  refine ⟨rfl, ?_⟩
  intro sources h
  cases h

theorem load_spec (h : s.Faithful t root) :
    (s.load t).1 = sourcesIn t root ∧ (s.load t).2.Faithful t root := by
  unfold load
  cases hloaded : s.loaded with
  | some sources =>
      exact ⟨(h.loaded sources hloaded).symm, h⟩
  | none =>
      dsimp only
      cases hsources : sourcesIn t s.root with
      | error e =>
          exact ⟨hsources.symm.trans (by rw [h.below]), h⟩
      | ok sources =>
          rw [h.below] at hsources
          refine ⟨hsources.symm, h.below, ?_⟩
          intro sources' hsources'
          cases hsources'
          exact hsources

theorem mentioning_spec (h : s.Faithful t root) (name : String) :
    (s.mentioning t name).1 = candidates t root name ∧
      (s.mentioning t name).2.Faithful t root := by
  rcases load_spec h with ⟨hsources, hfaithful⟩
  refine ⟨?_, hfaithful⟩
  rw [candidates, ← hsources]
  rfl

end SourceSearch

end BinaryCoverage
