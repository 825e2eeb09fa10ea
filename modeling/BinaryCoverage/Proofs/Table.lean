import BinaryCoverage.Table
import Mathlib.Tactic.Common

/-!
# Looking up in tables

What stands at a key after a table has been changed or united with another one.
-/

namespace BinaryCoverage.Table

variable {κ α : Type} [Ord κ] [Std.TransOrd κ]

theorem values_eq (t : Table κ α) : t.values = t.toList.map (·.2) := by
  -- Both lists are gathered by a fold from the right over the tree behind the table.
  have hfoldr : t.values = t.foldr (fun _ v rest => v :: rest) [] := by
    rcases t with ⟨t⟩
    induction t with
    | mk m =>
        rfl
  rw [hfoldr, Std.ExtTreeMap.foldr_eq_foldr_toList, List.map_eq_foldr]

variable [Std.LawfulEqOrd κ] [DecidableEq κ]

theorem getElem?_update (t : Table κ α) (k j : κ) (fresh : α) (f : α → α) :
    (update t k fresh f)[j]? = if k = j then some (f (t[k]?.getD fresh)) else t[j]? := by
  unfold update
  rw [Std.ExtTreeMap.getElem?_alter]
  simp only [Std.LawfulEqCmp.compare_eq_iff_eq]

theorem update_update (t : Table κ α) (k : κ) (fresh : α) (f g : α → α) :
    update (update t k fresh f) k fresh g = update t k fresh (g ∘ f) := by
  ext1 j
  simp only [getElem?_update]
  split <;> simp

/-- Only what becomes of the present entry matters. -/
theorem update_congr {t : Table κ α} {k : κ} {fresh : α} {f g : α → α}
    (h : f (t[k]?.getD fresh) = g (t[k]?.getD fresh)) : update t k fresh f = update t k fresh g := by
  ext1 j
  rw [getElem?_update, getElem?_update, h]

theorem getElem?_putWith_eq (join : α → α → α) (a : Table κ α) (k j : κ) (v : α) :
    (putWith join a k v)[j]? = if k = j then Option.merge join a[j]? (some v) else a[j]? := by
  rw [getElem?_putWith]
  by_cases hkj : k = j
  · subst hkj
    cases a[k]? <;> simp
  · simp [hkj]

/-- Where an entry that is there stays, the first value of each key is kept. -/
theorem getElem?_foldl_first (key : α → κ) (items : List α) (a : Table κ α) (k : κ) :
    (items.foldl (fun a v => putWith (fun old _ => old) a (key v) v) a)[k]? =
      a[k]?.or (items.find? (key · = k)) := by
  induction items generalizing a with
  | nil =>
      simp
  | cons first rest ih =>
      rw [List.foldl_cons, ih, getElem?_putWith_eq, List.find?_cons]
      by_cases hfirst : key first = k
      · cases a[k]? <;> simp [hfirst]
      · simp [hfirst]

/-! ## Unions -/

theorem getElem?_foldl_putWith (join : α → α → α) (entries : List (κ × α)) (a : Table κ α) (j : κ)
    (hdistinct : entries.Pairwise fun x y => x.1 ≠ y.1) :
    (entries.foldl (fun a e => putWith join a e.1 e.2) a)[j]? =
      Option.merge join a[j]? (entries.lookup j) := by
  induction entries generalizing a with
  | nil =>
      simp
  | cons e rest ih =>
      rcases e with ⟨k, v⟩
      rcases List.pairwise_cons.1 hdistinct with ⟨hhead, hrest⟩
      rw [List.foldl_cons, ih _ hrest, getElem?_putWith_eq, List.lookup_cons]
      by_cases hkj : k = j
      · -- The key comes only once, so nothing later joins it.
        subst hkj
        have hnone : rest.lookup k = none := by
          rw [List.lookup_eq_none_iff]
          intro x hx
          simpa using hhead x hx
        simp [hnone]
      · have hjk : (j == k) = false := by
          simpa using fun h : j = k => hkj h.symm
        simp [hkj, hjk]

theorem lookup_toList (b : Table κ α) (j : κ) : b.toList.lookup j = b[j]? := by
  -- The list has an entry for a key exactly when the table has it, and then no other one.
  have hmem : ∀ v, (j, v) ∈ b.toList ↔ b[j]? = some v := by
    intro v
    exact Std.ExtTreeMap.mem_toList_iff_getElem?_eq_some
  cases hfound : b.toList.lookup j with
  | none =>
      cases hentry : b[j]? with
      | none =>
          rfl
      | some v =>
          rw [List.lookup_eq_none_iff] at hfound
          have hne := hfound (j, v) ((hmem v).2 hentry)
          simp at hne
  | some v =>
      rcases List.lookup_eq_some_iff.1 hfound with ⟨before, after, hsplit, _⟩
      have hin : (j, v) ∈ b.toList := by
        rw [hsplit]
        simp
      exact ((hmem v).1 hin).symm

theorem getElem?_unionWith (join : α → α → α) (a b : Table κ α) (j : κ) :
    (unionWith join a b)[j]? = Option.merge join a[j]? b[j]? := by
  -- Each key of `b` comes once, so that the order of joining does not matter.
  have hdistinct : b.toList.Pairwise fun x y => x.1 ≠ y.1 := by
    refine b.distinct_keys_toList.imp ?_
    intro x y hne hxy
    exact hne (Std.LawfulEqCmp.compare_eq_iff_eq.2 hxy)
  unfold unionWith
  rw [Std.ExtTreeMap.foldl_eq_foldl_toList, getElem?_foldl_putWith join _ _ _ hdistinct,
    lookup_toList]

/-- Where the common entries may be joined in either order, so may the tables. -/
theorem unionWith_comm {join : α → α → α} {a b : Table κ α}
    (hjoin : ∀ (k : κ) (u v : α), a[k]? = some u → b[k]? = some v → join u v = join v u) :
    unionWith join a b = unionWith join b a := by
  ext1 k
  rw [getElem?_unionWith, getElem?_unionWith]
  cases ha : a[k]? with
  | none =>
      simp
  | some u =>
      cases hb : b[k]? with
      | none =>
          simp
      | some v =>
          simp [hjoin k u v ha hb]

/-- A table is built again from its entries. -/
theorem build_toList (t : Table κ α) : build t.toList = t := by
  have hinsert : (fun (a : Table κ α) (e : κ × α) => a.insert e.1 e.2) =
      fun a e => putWith (fun _ new => new) a e.1 e.2 := by
    funext a e
    ext1 j
    rw [Std.ExtTreeMap.getElem?_insert, getElem?_putWith_eq]
    cases a[j]? <;> simp
  have hbuild : build t.toList = unionWith (fun _ new => new) ∅ t := by
    unfold build unionWith
    rw [Std.ExtTreeMap.foldl_eq_foldl_toList, ← hinsert]
  rw [hbuild]
  ext1 j
  simp [getElem?_unionWith]

/-! ## Laws of joining -/

variable {join : α → α → α}

instance [Std.Associative join] : Std.Associative (unionWith (κ := κ) join) where
  assoc a b c := by
    ext1 j
    simp only [getElem?_unionWith]
    exact Std.Associative.assoc _ _ _

instance [Std.IdempotentOp join] : Std.IdempotentOp (unionWith (κ := κ) join) where
  idempotent a := by
    ext1 j
    rw [getElem?_unionWith]
    exact Std.IdempotentOp.idempotent _

instance : Std.Associative (override (κ := κ) (α := α)) :=
  have : Std.Associative fun _ new : α => new := ⟨fun _ _ _ => rfl⟩
  inferInstanceAs (Std.Associative (unionWith (κ := κ) fun _ new : α => new))

instance : Std.IdempotentOp (override (κ := κ) (α := α)) :=
  have : Std.IdempotentOp fun _ new : α => new := ⟨fun _ => rfl⟩
  inferInstanceAs (Std.IdempotentOp (unionWith (κ := κ) fun _ new : α => new))

instance : Std.Associative (complete (κ := κ) (α := α)) :=
  have : Std.Associative fun old _ : α => old := ⟨fun _ _ _ => rfl⟩
  inferInstanceAs (Std.Associative (unionWith (κ := κ) fun old _ : α => old))

instance : Std.IdempotentOp (complete (κ := κ) (α := α)) :=
  have : Std.IdempotentOp fun old _ : α => old := ⟨fun _ => rfl⟩
  inferInstanceAs (Std.IdempotentOp (unionWith (κ := κ) fun old _ : α => old))

end BinaryCoverage.Table
