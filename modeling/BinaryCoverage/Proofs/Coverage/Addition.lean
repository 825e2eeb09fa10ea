import BinaryCoverage.Proofs.Coverage.Merge
import BinaryCoverage.Proofs.Coverage.Note

/-!
# Notes as a document

What notes add to a document does not depend on it: they may be taken down in an empty document,
which is then merged into the first one (`noteAll_eq_merge`).  The rules for changing an entry and
those for merging two are one policy.
-/

namespace BinaryCoverage

namespace Table

variable {κ α : Type} [Ord κ] [Std.TransOrd κ] [Std.LawfulEqOrd κ] [DecidableEq κ]
  {join : α → α → α}

theorem unionWith_empty (a : Table κ α) : unionWith join a ∅ = a := by
  ext1 j
  simp [getElem?_unionWith]

/-- A change that may be made before joining may be made before uniting. -/
theorem update_unionWith {fresh : α} {f : α → α} (hjoin : ∀ u v, f (join u v) = join u (f v))
    (hfresh : ∀ u, join u fresh = u) (a b : Table κ α) (k : κ) :
    update (unionWith join a b) k fresh f = unionWith join a (update b k fresh f) := by
  ext1 j
  simp only [getElem?_update, getElem?_unionWith]
  by_cases hkj : k = j
  · subst hkj
    rw [if_pos rfl, if_pos rfl]
    cases a[k]? with
    | none =>
        simp
    | some u =>
        cases b[k]? with
        | none =>
            -- Joining nothing yet changes nothing, so that `f` may come after it.
            simpa [hfresh] using hjoin u fresh
        | some v =>
            simpa using hjoin u v
  · rw [if_neg hkj, if_neg hkj]

theorem insert_override (a b : Table κ α) (k : κ) (v : α) :
    (override a b).insert k v = override a (b.insert k v) := by
  unfold override
  ext1 j
  simp only [Std.ExtTreeMap.getElem?_insert, getElem?_unionWith]
  split
  · cases a[j]? <;> simp
  · rfl

end Table

/-! ## Entries -/

namespace FunctionCoverage

theorem merge_empty (f : FunctionCoverage) : f.merge {} = f := by
  rcases f with ⟨covered, line⟩
  by_cases hline : line = 0 <;> simp [merge, declare, hline]

theorem note_merge (f g : FunctionCoverage) (line : UInt32) (covered : Bool) :
    (f.merge g).note line covered = f.merge (g.note line covered) := by
  rcases f with ⟨c, n⟩
  rcases g with ⟨c', n'⟩
  by_cases hn : n = 0 <;> by_cases hn' : n' = 0 <;>
    simp [merge, note, declare, hn, hn', Bool.or_assoc]

end FunctionCoverage

namespace LineCoverage

theorem merge_empty (l : LineCoverage) : l.merge {} = l := by
  rcases l with ⟨covered, records⟩
  simp [merge, Table.unionWith_empty]

theorem record_merge (l m : LineCoverage) (binary : UInt32) (address : UInt64) (opcode : String)
    (count : UInt64) :
    (l.merge m).record binary address opcode count =
      l.merge (m.record binary address opcode count) := by
  unfold record merge
  rw [mk.injEq]
  refine ⟨Bool.or_assoc _ _ _, ?_⟩
  refine Table.update_unionWith ?_ ?_ _ _ _
  · intro u v
    exact Table.insert_override u v address _
  · intro u
    exact Table.unionWith_empty u

end LineCoverage

/-! ## Files and documents -/

namespace FileCoverage

theorem merge_empty (c : FileCoverage) : c.merge {} = c := by
  rcases c with ⟨functions, lines⟩
  simp [merge, Table.unionWith_empty]

theorem note_merge (c d : FileCoverage) (x : Finding) : (c.merge d).note x = c.merge (d.note x) := by
  unfold merge
  cases x with
  | function name line covered =>
      refine congrArg (FileCoverage.mk · _) ?_
      exact Table.update_unionWith (fun f g => f.note_merge g line covered)
        FunctionCoverage.merge_empty _ _ _
  | line n =>
      have hsame : ∀ l m : LineCoverage, id (l.merge m) = l.merge (id m) := fun _ _ => rfl
      refine congrArg (FileCoverage.mk _) ?_
      exact Table.update_unionWith hsame LineCoverage.merge_empty _ _ _
  | instruction n binary address r =>
      refine congrArg (FileCoverage.mk _) ?_
      exact Table.update_unionWith (fun l m => l.record_merge m binary address _ _)
        LineCoverage.merge_empty _ _ _

end FileCoverage

namespace Document

theorem note_merge (d e : Document) (x : Note) : (d.merge e).note x = d.merge (e.note x) := by
  unfold merge
  refine congrArg (Document.mk · _) ?_
  exact Table.update_unionWith (fun c c' => c.note_merge c' x.finding) FileCoverage.merge_empty _ _ _

theorem noteAll_merge (d e : Document) (xs : List Note) :
    (d.merge e).noteAll xs = d.merge (e.noteAll xs) := by
  induction xs generalizing e with
  | nil =>
      rfl
  | cons x xs ih =>
      rw [noteAll_cons, noteAll_cons, note_merge, ih]

theorem merge_empty (d : Document) : d.merge {} = d := by
  rcases d with ⟨files, sources, metadata, binaries⟩
  simp [merge, Provenance.merge, Table.complete, Table.unionWith_empty]

/-- Notes add to a document what they make of an empty one. -/
theorem noteAll_eq_merge (d : Document) (xs : List Note) :
    d.noteAll xs = d.merge (({} : Document).noteAll xs) := by
  rw [← noteAll_merge, merge_empty]

end Document

end BinaryCoverage
