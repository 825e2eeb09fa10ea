import BinaryCoverage.Correlation.Declarations
import Mathlib.Tactic.Common

/-!
# Declaration indices grow

An index only learns: what it has answered once it answers ever after (`line?_again`).  This
file defines:

* `DeclarationIndex.Extends` — an index knows what another one knows;
* `DeclarationIndex.declares` — an index answers that a file declares a function.
-/

namespace BinaryCoverage.DeclarationIndex

/-- What one index knows the other one knows too. -/
def Extends (x y : DeclarationIndex) : Prop :=
  ∀ (k : List Component) (d : Declarations), x.known[k]? = some d → y.known[k]? = some d

theorem Extends.refl (x : DeclarationIndex) : x.Extends x := by
  intro k d h
  exact h

theorem Extends.trans {x y z : DeclarationIndex} (h : x.Extends y) (h' : y.Extends z) :
    x.Extends z := by
  intro k d hk
  exact h' k d (h k d hk)

theorem extends_fetch (x : DeclarationIndex) (s : DeclarationSource) (p : Path)
    (hnew : x.known[p.components]? = none) : x.Extends (x.fetch s p).2 := by
  -- Only what is unknown is fetched, so that no answer of before is replaced.
  have hinsert : ∀ (d : Declarations) (asked : List Path),
      x.Extends { known := x.known.insert p.components d, asked } := by
    intro d asked k d' hk
    have hne : p.components ≠ k := by
      rintro rfl
      rw [hnew] at hk
      cases hk
    simp [Std.ExtTreeMap.getElem?_insert, hne, hk]
  unfold fetch
  split
  · dsimp only
    split
    · exact Extends.refl x
    · exact hinsert _ _
  · exact hinsert _ _

theorem extends_declarations (x : DeclarationIndex) (s : DeclarationSource) (p : Path) :
    x.Extends (x.declarations s p).2 := by
  unfold declarations
  split
  · exact Extends.refl x
  · exact extends_fetch x s p ‹_›

theorem extends_line? (x : DeclarationIndex) (s : DeclarationSource) (p : Path)
    (function : String) : x.Extends (x.line? s p function).2 :=
  extends_declarations x s p

theorem extends_lineNumber (x : DeclarationIndex) (s : DeclarationSource) (p : Path)
    (function : String) : x.Extends (x.lineNumber s p function).2 :=
  extends_declarations x s p

/-! ## Indices that may be missing -/

theorem rel_refl (x : Option DeclarationIndex) : Option.Rel Extends x x := by
  cases x with
  | none =>
      exact Option.Rel.none
  | some x =>
      exact Option.Rel.some (Extends.refl x)

theorem rel_trans {x y z : Option DeclarationIndex} (h : Option.Rel Extends x y)
    (h' : Option.Rel Extends y z) : Option.Rel Extends x z := by
  cases h with
  | none =>
      exact h'
  | some hxy =>
      cases h' with
      | some hyz =>
          exact Option.Rel.some (hxy.trans hyz)

/-! ## Answers -/

theorem known_of_fetch {x y : DeclarationIndex} {s : DeclarationSource} {p : Path}
    {d : Declarations} (h : x.fetch s p = (.ok d, y)) : y.known[p.components]? = some d := by
  unfold fetch at h
  split at h
  · dsimp only at h
    split at h
    · cases h
    · cases h
      simp
  · cases h
    simp

theorem known_of_declarations {x y : DeclarationIndex} {s : DeclarationSource} {p : Path}
    {d : Declarations} (h : x.declarations s p = (.ok d, y)) : y.known[p.components]? = some d := by
  unfold declarations at h
  split at h
  · rename_i hknown
    cases h
    exact hknown
  · exact known_of_fetch h

theorem declarations_of_known {x : DeclarationIndex} {p : Path} {d : Declarations}
    (h : x.known[p.components]? = some d) (s : DeclarationSource) :
    x.declarations s p = (.ok d, x) := by
  rw [declarations, h]

/-- An index that has learnt more gives the same answer, whatever the source says by then, and it
learns nothing from the question. -/
theorem line?_again {x y z : DeclarationIndex} {s : DeclarationSource} {p : Path}
    {function : String} {line : Option UInt32} (h : x.line? s p function = (.ok line, y))
    (hz : y.Extends z) (s' : DeclarationSource) : z.line? s' p function = (.ok line, z) := by
  unfold line? at h ⊢
  rcases hfound : x.declarations s p with ⟨e | d, y'⟩
  · rw [hfound] at h
    cases h
  · rw [hfound] at h
    cases h
    -- The later index knows the file and does not ask for it again.
    rw [declarations_of_known (hz _ _ (known_of_declarations hfound))]
    rfl

theorem lineNumber_again {x y z : DeclarationIndex} {s : DeclarationSource} {p : Path}
    {function : String} {line : UInt32} (h : x.lineNumber s p function = (.ok line, y))
    (hz : y.Extends z) (s' : DeclarationSource) : z.lineNumber s' p function = (.ok line, z) := by
  unfold lineNumber at h ⊢
  rcases hfound : x.line? s p function with ⟨e | found, y'⟩
  · rw [hfound] at h
    cases h
  · rw [hfound] at h
    cases h
    rw [line?_again hfound hz s']
    rfl

def declares (x : DeclarationIndex) (s : DeclarationSource) (function : String) (p : Path) : Bool :=
  match (x.line? s p function).1 with
  | .ok line => line.isSome
  | .error _ => false

theorem declares_of_extends {x y z : DeclarationIndex} {s : DeclarationSource} {p : Path}
    {function : String} {line : Option UInt32} (h : x.line? s p function = (.ok line, y))
    (hz : y.Extends z) : z.declares s function p = line.isSome := by
  rw [declares, line?_again h hz s]

end BinaryCoverage.DeclarationIndex
