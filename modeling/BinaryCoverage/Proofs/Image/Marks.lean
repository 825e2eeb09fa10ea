import BinaryCoverage.Image.Functions
import BinaryCoverage.Proofs.Table

/-!
# Marking functions

Marking a function changes no name of a table and no other function of it.  This file defines:

* `FunctionTable.markAll` — the table after several functions have been marked;

and finds a function among those without source lines by its name (`find?_unmapped`).
-/

namespace BinaryCoverage.FunctionTable

def markAll (t : FunctionTable) (names : List String) : FunctionTable := names.foldl mark t

theorem markAll_append (t : FunctionTable) (names names' : List String) :
    t.markAll (names ++ names') = (t.markAll names).markAll names' :=
  List.foldl_append

theorem contains_mark (t : FunctionTable) (name m : String) :
    (t.mark name).contains m = t.contains m := by
  simp only [contains, mark, Std.ExtTreeMap.contains_modify]

theorem contains_markAll (t : FunctionTable) (names : List String) (m : String) :
    (t.markAll names).contains m = t.contains m := by
  induction names generalizing t with
  | nil =>
      rfl
  | cons name names ih =>
      exact (ih (t.mark name)).trans (contains_mark t name m)

theorem get?_mark (t : FunctionTable) (name m : String) :
    (t.mark name).get? m =
      if name = m then (t.get? m).map ({ · with mapped := true }) else t.get? m := by
  unfold get? mark
  simp only [Std.ExtTreeMap.getElem?_modify, Std.LawfulEqCmp.compare_eq_iff_eq]
  split
  · rename_i hname
    subst hname
    rfl
  · rfl

theorem get?_markAll (t : FunctionTable) (names : List String) (m : String) :
    (t.markAll names).get? m =
      if m ∈ names then (t.get? m).map ({ · with mapped := true }) else t.get? m := by
  induction names generalizing t with
  | nil =>
      rfl
  | cons name names ih =>
      refine (ih (t.mark name)).trans ?_
      rw [get?_mark]
      by_cases hname : name = m
      · -- A function that is marked again stays as it is.
        subst hname
        cases t.get? name <;> simp
      · simp [hname, Ne.symm hname]

theorem excluded_markAll (t : FunctionTable) (names : List String) :
    (t.markAll names).excluded = t.excluded := by
  induction names generalizing t with
  | nil =>
      rfl
  | cons name names ih =>
      exact ih (t.mark name)

/-- Marking the same functions again changes nothing. -/
theorem markAll_markAll (t : FunctionTable) (names : List String) :
    (t.markAll names).markAll names = t.markAll names := by
  refine FunctionTable.ext ?_ (excluded_markAll _ names)
  ext1 m
  change ((t.markAll names).markAll names).get? m = (t.markAll names).get? m
  rw [get?_markAll _ _ m, get?_markAll t _ m]
  split
  · cases t.get? m <;> rfl
  · rfl

theorem get?_markAll_of_notMem {t : FunctionTable} {names : List String} {m : String}
    (hm : m ∉ names) : (t.markAll names).get? m = t.get? m := by
  rw [get?_markAll, if_neg hm]

/-! ## Symbols and patterns -/

theorem active_foldl_add (t : FunctionTable) (symbols : List FunctionSymbol) :
    (symbols.foldl add t).active =
      symbols.foldl (fun a s => a.putWith (fun old _ => old) s.name s) t.active := by
  induction symbols generalizing t with
  | nil =>
      rfl
  | cons first rest ih =>
      exact ih (t.add first)

theorem excluded_foldl_add (t : FunctionTable) (symbols : List FunctionSymbol) :
    (symbols.foldl add t).excluded = t.excluded := by
  induction symbols generalizing t with
  | nil =>
      rfl
  | cons first rest ih =>
      exact ih (t.add first)

/-- A table starts with the first symbol of each name. -/
theorem get?_ofSymbols (symbols : List FunctionSymbol) (name : String) :
    (ofSymbols symbols).get? name = symbols.find? (·.name = name) := by
  unfold get? ofSymbols
  rw [active_foldl_add, Table.getElem?_foldl_first FunctionSymbol.name]
  simp

/-- A table starts with nothing excluded. -/
theorem excluded_ofSymbols (symbols : List FunctionSymbol) : (ofSymbols symbols).excluded = ∅ :=
  excluded_foldl_add {} symbols

theorem get?_exclude (t : FunctionTable) (patterns : List Pattern) (name : String) :
    (t.exclude patterns).get? name =
      (t.get? name).filter fun _ => !isExcludedBy patterns name := by
  unfold get? exclude
  rw [Std.ExtTreeMap.getElem?_filter']

/-! ## Functions without source lines -/

theorem mem_unmapped_iff {t : FunctionTable} {s : FunctionSymbol} :
    s ∈ t.unmapped ↔ (∃ name, t.get? name = some s) ∧ s.mapped = false := by
  unfold unmapped get?
  rw [Table.values_eq]
  simp [Std.ExtTreeMap.mem_toList_iff_getElem?_eq_some]

theorem nodup_unmapped_names (t : FunctionTable) : (t.unmapped.map (·.name)).Nodup := by
  have hkeys : t.active.values.map (·.name) = t.active.toList.map (·.1) := by
    rw [Table.values_eq, List.map_map]
    refine List.map_congr_left ?_
    intro e he
    exact t.named (Std.ExtTreeMap.mem_toList_iff_getElem?_eq_some.1 he)
  have hdistinct : (t.active.toList.map (·.1)).Nodup := by
    rw [List.Nodup, List.pairwise_map]
    refine t.active.distinct_keys_toList.imp ?_
    intro x y hne hxy
    exact hne (Std.LawfulEqCmp.compare_eq_iff_eq.2 hxy)
  rw [← hkeys] at hdistinct
  exact hdistinct.sublist (List.filter_sublist.map _)

/-- A name finds its own function, if that has no source lines. -/
theorem find?_unmapped (t : FunctionTable) (name : String) :
    t.unmapped.find? (·.name = name) = (t.get? name).filter (!·.mapped) := by
  -- Whatever has the name stands under it, so the entry of the name is all there is to find.
  have hown : ∀ s ∈ t.unmapped, s.name = name → (t.get? name).filter (!·.mapped) = some s := by
    intro s hs hname
    rcases mem_unmapped_iff.1 hs with ⟨⟨m, hm⟩, hmapped⟩
    rw [← hname, t.named hm, hm]
    simp [hmapped]
  cases hfound : t.unmapped.find? (·.name = name) with
  | some s =>
      have hname : s.name = name := by
        simpa using List.find?_some hfound
      exact (hown s (List.mem_of_find?_eq_some hfound) hname).symm
  | none =>
      cases hentry : (t.get? name).filter (!·.mapped) with
      | none =>
          rfl
      | some s =>
          rcases Option.filter_eq_some_iff.1 hentry with ⟨hget, hmapped⟩
          have hmem : s ∈ t.unmapped :=
            mem_unmapped_iff.2 ⟨⟨name, hget⟩, by simpa using hmapped⟩
          have hnone := List.find?_eq_none.1 hfound s hmem
          simp [t.named hget] at hnone

end BinaryCoverage.FunctionTable
