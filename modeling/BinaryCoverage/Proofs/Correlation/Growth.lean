import BinaryCoverage.Proofs.Correlation.Reachable
import BinaryCoverage.Proofs.Coverage.Growth

/-!
# Growing correlators

Taking binaries and placing functions add to what a correlator has built, even when they fail on
the way.  This file defines:

* `Correlator.GrowsTo` — the document has grown, and each binary has kept its index;

and shows that whatever is done to a correlator or merged into a document leaves all that was
there (`growsTo_performAll_and_merge`).
-/

namespace BinaryCoverage

/-! ## Placing functions as notes -/

namespace Document

/-- Where a function is not there yet, setting its coverage is noting it. -/
theorem updateFile_setFunction_of_absent {d : Document} {key name : String} (line : UInt32)
    (covered : Bool) (habsent : d.function? key name = none) :
    d.updateFile key (·.setFunction name line covered) =
      d.note ⟨key, .function name line covered⟩ := by
  rw [function?_eq_getD, file?] at habsent
  unfold note updateFile FileCoverage.note FileCoverage.setFunction FileCoverage.updateFunction
  refine congrArg (Document.mk · _) (Table.update_congr ?_)
  refine congrArg (FileCoverage.mk · _) (Table.update_congr ?_)
  simp [habsent, FunctionCoverage.covered_declare]

end Document

namespace FallbackProgress

variable {v : SourceView} {traces : TraceStore}

theorem notes_place (p : FallbackProgress) (m : SourceMapping) (function : String) (covered : Bool)
    (declared : List (Path × UInt32)) :
    ∃ xs, (p.place m function covered declared).correlator.document =
      p.correlator.document.noteAll xs := by
  match declared with
  | [] =>
      exact ⟨[], rfl⟩
  | [(path, line)] =>
      -- A function that is there already is left as it is.
      rw [place]
      split
      · exact ⟨[], rfl⟩
      · rename_i habsent
        rw [hasFunction_eq_isSome, Option.not_isSome_iff_eq_none] at habsent
        exact ⟨[⟨m.keyOfLocal path, .function function line covered⟩],
          Document.updateFile_setFunction_of_absent line covered habsent⟩
  | _ :: _ :: _ =>
      exact ⟨[], rfl⟩

theorem notes_step (p : FallbackProgress) (f : FunctionSymbol) :
    ∃ xs, (step v traces p f).2.correlator.document = p.correlator.document.noteAll xs := by
  unfold step
  cases p.correlator.index with
  | none =>
      exact ⟨[], rfl⟩
  | some x =>
      dsimp only
      -- Neither the search nor the declarations touch the document, whether they fail or not.
      rcases p.search.mentioning v.declarations.files f.name with ⟨e | candidates, search⟩
      · exact ⟨[], rfl⟩
      · dsimp only
        rcases declaring v.declarations f.name x candidates with ⟨e | declared, y⟩
        · exact ⟨[], rfl⟩
        · exact notes_place { p with search, correlator := { p.correlator with index := some y } }
            v.mapping f.name (traces.contains f.start) declared

theorem notes_steps (p : FallbackProgress) (symbols : List FunctionSymbol) :
    ∃ xs, (attemptEach (step v traces) p symbols).2.correlator.document =
      p.correlator.document.noteAll xs := by
  refine attemptEach_respects
    (R := fun p q : FallbackProgress =>
      ∃ xs, q.correlator.document = p.correlator.document.noteAll xs)
    ?_ ?_ symbols ?_ p
  · intro p
    exact ⟨[], rfl⟩
  · rintro p q r ⟨xs, hq⟩ ⟨ys, hr⟩
    exact ⟨xs ++ ys, by rw [hr, hq, Document.noteAll_append]⟩
  · intro p f _
    exact p.notes_step f

theorem growsTo_steps (p : FallbackProgress) (symbols : List FunctionSymbol) :
    p.correlator.document.GrowsTo
      (attemptEach (step v traces) p symbols).2.correlator.document := by
  have hnotes : ∃ xs, (attemptEach (step v traces) p symbols).2.correlator.document =
      p.correlator.document.noteAll xs := p.notes_steps symbols
  obtain ⟨xs, hdocument⟩ := hnotes
  rw [hdocument]
  exact p.correlator.document.growsTo_noteAll xs

end FallbackProgress

/-! ## Correlators -/

namespace Correlator

theorem growsTo_placeUnmapped (c : Correlator) (v : SourceView) (functions : FunctionTable)
    (traces : TraceStore) (search : SourceSearch) :
    c.document.GrowsTo (c.placeUnmapped v functions traces search).2.correlator.document :=
  FallbackProgress.growsTo_steps { correlator := c, search } functions.unmapped

structure GrowsTo (c d : Correlator) : Prop where
  document : c.document.GrowsTo d.document
  assigned (name : String) (i : UInt32) :
    c.registry.assigned[name]? = some i → d.registry.assigned[name]? = some i

theorem GrowsTo.refl (c : Correlator) : c.GrowsTo c :=
  ⟨Document.GrowsTo.refl c.document, fun _ _ h => h⟩

theorem GrowsTo.trans {c d e : Correlator} (h : c.GrowsTo d) (h' : d.GrowsTo e) : c.GrowsTo e where
  document := h.document.trans h'.document
  assigned name i hc := h'.assigned name i (h.assigned name i hc)

/-- An operation that fails has taken the beginning of its notes down. -/
theorem growsTo_perform (c : Correlator) (op : Operation) : c.GrowsTo (c.perform op) := by
  cases op with
  | take v b =>
      have hspec := c.take_spec v b
      rcases hspec.document with ⟨xs, -, hdocument⟩
      refine ⟨?_, ?_⟩
      · rw [perform, hdocument]
        exact c.document.growsTo_noteAll xs
      · intro name i hi
        rw [perform, hspec.registry]
        exact BinaryRegistry.assigned_index_of_assigned hi b.name
  | placeUnmapped v functions traces search =>
      refine ⟨c.growsTo_placeUnmapped v functions traces search, ?_⟩
      intro name i hi
      rw [perform, (c.keeps_placeUnmapped v functions traces search).registry]
      exact hi

theorem growsTo_performAll (c : Correlator) (ops : List Operation) :
    c.GrowsTo (c.performAll ops) := by
  induction ops generalizing c with
  | nil =>
      exact GrowsTo.refl c
  | cons op ops ih =>
      exact (c.growsTo_perform op).trans (ih (c.perform op))

end Correlator

/-- Nothing that a correlator or a document holds is lost, whatever is done to the one and merged
into the other. -/
theorem growsTo_performAll_and_merge :
    (∀ (c : Correlator) (ops : List Operation), c.GrowsTo (c.performAll ops)) ∧
      ∀ (d : Document) (es : List Document), d.GrowsTo (es.foldl Document.merge d) :=
  ⟨Correlator.growsTo_performAll, Document.growsTo_foldl_merge⟩

end BinaryCoverage
