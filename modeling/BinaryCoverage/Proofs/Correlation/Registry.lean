import BinaryCoverage.Correlation.Registry
import BinaryCoverage.Proofs.Table
import Mathlib.Data.List.Basic
import Mathlib.Data.List.Induction

/-!
# Numbered binaries

A registry gives well-known names their reserved indices and numbers the others in order of first
use.  This file defines:

* `numberedIndex` — the index of the name at a place among those without a reserved index;
* `Numbering` — a table of indices numbers given names in their order;
* `unreservedNames` — the names without a reserved index, in order of first use;
* `BinaryRegistry.indexAll` — the registry after several names;
* `BinaryRegistry.Knows` — the index of a name is settled;

and shows that a registry always numbers the names that it has met (`numbers_indexAll`), each by an
index of its own as long as the numbers do not run out (`Numbering.name_eq`), and that names whose
indices are settled may come in any order (`index_comm`).
-/

namespace BinaryCoverage

/-- The index of the name at a given place; past the greatest word the numbers start over. -/
def numberedIndex (place : Nat) : UInt32 := 100 + UInt32.ofNat place

def IsReserved (name : String) : Prop := (wellKnownBinaries.lookup name).isSome

instance (name : String) : Decidable (IsReserved name) := by
  unfold IsReserved
  infer_instance

structure Numbering (assigned : Table String UInt32) (names : List String) : Prop where
  nodup : names.Nodup
  unreserved : ∀ name ∈ names, ¬ IsReserved name
  numbered : ∀ name, ¬ IsReserved name →
    assigned[name]? = if name ∈ names then some (numberedIndex (names.idxOf name)) else none
  reserved : ∀ name i, IsReserved name → assigned[name]? = some i →
    wellKnownBinaries.lookup name = some i

namespace BinaryRegistry

/-- The registry has numbered these names, and goes on with the next number. -/
structure Numbers (r : BinaryRegistry) (names : List String) : Prop where
  numbering : Numbering r.assigned names
  next : r.next = numberedIndex names.length

theorem numbers_empty : ({} : BinaryRegistry).Numbers [] := by
  refine ⟨⟨List.nodup_nil, ?_, ?_, ?_⟩, rfl⟩
  · intro name hname
    cases hname
  · intro name _
    simp
  · intro name i _ h
    simp at h

theorem numberedIndex_succ (n : Nat) : numberedIndex n + 1 = numberedIndex (n + 1) := by
  unfold numberedIndex
  rw [UInt32.ofNat_add, ← UInt32.add_assoc]
  rfl

/-- A numbered name has its number already. -/
theorem Numbers.notMem_of_new {r : BinaryRegistry} {names : List String} {name : String}
    (h : r.Numbers names) (hnew : r.assigned[name]? = none) (hname : ¬ IsReserved name) :
    name ∉ names := by
  intro hmem
  rw [h.numbering.numbered name hname, if_pos hmem] at hnew
  cases hnew

/-- Where a name is met for the first time, it is numbered after the others. -/
theorem numbers_insert {r : BinaryRegistry} {names : List String} {name : String}
    (h : r.Numbers names) (hnew : r.assigned[name]? = none) (hname : ¬ IsReserved name) :
    BinaryRegistry.Numbers ⟨r.assigned.insert name r.next, r.next + 1⟩ (names ++ [name]) := by
  have hfresh := h.notMem_of_new hnew hname
  refine ⟨⟨?_, ?_, ?_, ?_⟩, ?_⟩
  · rw [List.nodup_append]
    refine ⟨h.numbering.nodup, by simp, ?_⟩
    intro a ha b hb hab
    rw [List.mem_singleton] at hb
    exact hfresh (hb ▸ hab ▸ ha)
  · intro a ha
    rcases List.mem_append.1 ha with ha | ha
    · exact h.numbering.unreserved a ha
    · rw [List.mem_singleton.1 ha]
      exact hname
  · intro a ha
    rw [Std.ExtTreeMap.getElem?_insert]
    by_cases hna : name = a
    · subst hna
      simp [h.next, List.idxOf_append_of_notMem hfresh]
    · rw [if_neg (by simpa using hna), h.numbering.numbered a ha]
      by_cases hmem : a ∈ names
      · simp [hmem, List.idxOf_append_of_mem hmem]
      · simp [hmem, Ne.symm hna]
  · intro a i ha hai
    rw [Std.ExtTreeMap.getElem?_insert] at hai
    have hna : name ≠ a := by
      rintro rfl
      exact hname ha
    rw [if_neg (by simpa using hna)] at hai
    exact h.numbering.reserved a i ha hai
  · rw [h.next, numberedIndex_succ, List.length_append]
    rfl

theorem numbers_insert_reserved {r : BinaryRegistry} {names : List String} {name : String}
    {i : UInt32} (h : r.Numbers names) (hname : wellKnownBinaries.lookup name = some i) :
    BinaryRegistry.Numbers { r with assigned := r.assigned.insert name i } names := by
  have hreserved : IsReserved name := by
    rw [IsReserved, hname]
    rfl
  refine ⟨⟨h.numbering.nodup, h.numbering.unreserved, ?_, ?_⟩, h.next⟩
  · intro a ha
    have hna : name ≠ a := by
      rintro rfl
      exact ha hreserved
    rw [Std.ExtTreeMap.getElem?_insert, if_neg (by simpa using hna)]
    exact h.numbering.numbered a ha
  · intro a j ha haj
    rw [Std.ExtTreeMap.getElem?_insert] at haj
    by_cases hna : name = a
    · subst hna
      simp only [Std.compare_self, if_true, Option.some.injEq] at haj
      rw [← haj]
      exact hname
    · rw [if_neg (by simpa using hna)] at haj
      exact h.numbering.reserved a j ha haj

/-- The name has the index that it is given, and no other name loses its own. -/
theorem assigned_index (r : BinaryRegistry) (name a : String) :
    (r.index name).2.assigned[a]? =
      if name = a then some (r.index name).1 else r.assigned[a]? := by
  unfold index
  split
  · rename_i i hfound
    by_cases hna : name = a
    · subst hna
      simpa using hfound
    · simp [hna]
  · split <;> simp [Std.ExtTreeMap.getElem?_insert]

/-- A name that has an index keeps it. -/
theorem assigned_index_of_assigned {r : BinaryRegistry} {name : String} {i : UInt32}
    (h : r.assigned[name]? = some i) (a : String) : (r.index a).2.assigned[name]? = some i := by
  rw [assigned_index]
  by_cases ha : a = name
  · -- The name itself is given the same index again.
    subst ha
    rw [if_pos rfl, index, h]
  · rw [if_neg ha, h]

end BinaryRegistry

/-! ## Indices of their own -/

/-- The numbers from 100 up that fit into a word. -/
def numberLimit : Nat := UInt32.size - 100

theorem toNat_numberedIndex {i : Nat} (hi : i < numberLimit) :
    (numberedIndex i).toNat = 100 + i := by
  unfold numberLimit UInt32.size at hi
  unfold numberedIndex
  rw [UInt32.toNat_add, UInt32.toNat_ofNat']
  -- Below the limit the sum does not start over.
  have hhundred : (100 : UInt32).toNat = 100 := rfl
  omega

theorem numberedIndex_inj {i j : Nat} (hi : i < numberLimit) (hj : j < numberLimit)
    (h : numberedIndex i = numberedIndex j) : i = j := by
  have hnat := congrArg UInt32.toNat h
  rw [toNat_numberedIndex hi, toNat_numberedIndex hj] at hnat
  omega

theorem mem_of_lookup_reserved {name : String} {i : UInt32}
    (h : wellKnownBinaries.lookup name = some i) : (name, i) ∈ wellKnownBinaries := by
  rcases List.lookup_eq_some_iff.1 h with ⟨before, after, hsplit, _⟩
  rw [hsplit]
  simp

theorem reserved_inj {a b : String} {i : UInt32} (ha : wellKnownBinaries.lookup a = some i)
    (hb : wellKnownBinaries.lookup b = some i) : a = b := by
  have hall : ∀ p ∈ wellKnownBinaries, ∀ q ∈ wellKnownBinaries, p.2 = q.2 → p.1 = q.1 := by
    decide
  exact hall _ (mem_of_lookup_reserved ha) _ (mem_of_lookup_reserved hb) rfl

theorem reserved_ne_numberedIndex {name : String} {j : Nat} {i : UInt32}
    (h : wellKnownBinaries.lookup name = some i) (hj : j < numberLimit) :
    i ≠ numberedIndex j := by
  -- The reserved indices all lie below the first number.
  have hall : ∀ p ∈ wellKnownBinaries, p.2.toNat < 100 := by
    decide
  intro heq
  have hlow := hall _ (mem_of_lookup_reserved h)
  dsimp only at hlow
  rw [heq, toNat_numberedIndex hj] at hlow
  omega

namespace Numbering

variable {t t' : Table String UInt32} {names names' : List String}

/-- A name has its reserved index or that of its place. -/
theorem cases_of_getElem? (h : Numbering t names) {name : String} {i : UInt32}
    (hi : t[name]? = some i) :
    wellKnownBinaries.lookup name = some i ∨
      (name ∈ names ∧ i = numberedIndex (names.idxOf name)) := by
  by_cases hname : IsReserved name
  · exact Or.inl (h.reserved name i hname hi)
  · rw [h.numbered name hname] at hi
    by_cases hmem : name ∈ names
    · rw [if_pos hmem] at hi
      cases hi
      exact Or.inr ⟨hmem, rfl⟩
    · rw [if_neg hmem] at hi
      cases hi

/-- Names with the same index are the same, or numbered at the same place. -/
theorem eq_or_place_eq (h : Numbering t names) (h' : Numbering t' names')
    (hlength : names.length ≤ numberLimit) (hlength' : names'.length ≤ numberLimit) {a b : String}
    {i : UInt32} (ha : t[a]? = some i) (hb : t'[b]? = some i) :
    a = b ∨ (a ∈ names ∧ b ∈ names' ∧ names.idxOf a = names'.idxOf b) := by
  -- A reserved index is no number, so the two names are both reserved or both numbered.
  rcases h.cases_of_getElem? ha with ha | ⟨hmema, hia⟩
  · rcases h'.cases_of_getElem? hb with hb | ⟨hmemb, hib⟩
    · exact Or.inl (reserved_inj ha hb)
    · have hplace := List.idxOf_lt_length_iff.2 hmemb
      exact absurd hib (reserved_ne_numberedIndex ha (by omega))
  · have hplacea := List.idxOf_lt_length_iff.2 hmema
    rcases h'.cases_of_getElem? hb with hb | ⟨hmemb, hib⟩
    · exact absurd hia (reserved_ne_numberedIndex hb (by omega))
    · have hplaceb := List.idxOf_lt_length_iff.2 hmemb
      have hplace : names.idxOf a = names'.idxOf b :=
        numberedIndex_inj (by omega) (by omega) (hia.symm.trans hib)
      exact Or.inr ⟨hmema, hmemb, hplace⟩

theorem name_eq (h : Numbering t names) (hlength : names.length ≤ numberLimit) {a b : String}
    {i : UInt32} (ha : t[a]? = some i) (hb : t[b]? = some i) : a = b := by
  rcases h.eq_or_place_eq h hlength hlength ha hb with hab | ⟨hmem, _, hplace⟩
  · exact hab
  · exact (List.idxOf_inj hmem).1 hplace

end Numbering

/-! ## Names in order -/

/-- The names without a reserved index, in order of first use. -/
def unreservedNames (names : List String) : List String :=
  (names.filter fun name => ¬ IsReserved name).eraseDups

theorem unreservedNames_append_singleton (names : List String) (name : String) :
    unreservedNames (names ++ [name]) =
      if IsReserved name ∨ name ∈ unreservedNames names then unreservedNames names
      else unreservedNames names ++ [name] := by
  unfold unreservedNames
  rw [List.filter_append, List.eraseDups_append]
  by_cases hname : IsReserved name
  · simp [hname]
  · by_cases hmet : name ∈ names
    · simp [hname, hmet, List.removeAll]
    · simp [hname, hmet, List.removeAll, List.eraseDups_cons]

namespace BinaryRegistry

/-- The names that a registry has numbered when it has met one more. -/
theorem numbers_index {r : BinaryRegistry} {names : List String} (h : r.Numbers names)
    (name : String) :
    (r.index name).2.Numbers
      (if IsReserved name ∨ name ∈ names then names else names ++ [name]) := by
  unfold index
  split
  · rename_i i hfound
    rw [if_pos]
    · exact h
    · rcases h.numbering.cases_of_getElem? hfound with hreserved | ⟨hmem, _⟩
      · exact Or.inl (by rw [IsReserved, hreserved]; rfl)
      · exact Or.inr hmem
  · rename_i hnew
    split
    · rename_i i hlookup
      rw [if_pos (Or.inl (by rw [IsReserved, hlookup]; rfl))]
      exact numbers_insert_reserved h hlookup
    · rename_i hlookup
      have hname : ¬ IsReserved name := by
        simp [IsReserved, hlookup]
      rw [if_neg (not_or.2 ⟨hname, h.notMem_of_new hnew hname⟩)]
      exact numbers_insert h hnew hname

/-- The registry after several names. -/
def indexAll (r : BinaryRegistry) (names : List String) : BinaryRegistry :=
  names.foldl (fun r name => (r.index name).2) r

theorem indexAll_append (r : BinaryRegistry) (names names' : List String) :
    r.indexAll (names ++ names') = (r.indexAll names).indexAll names' :=
  List.foldl_append

theorem assigned_indexAll {r : BinaryRegistry} {name : String} {i : UInt32}
    (h : r.assigned[name]? = some i) (names : List String) :
    (r.indexAll names).assigned[name]? = some i := by
  induction names generalizing r with
  | nil =>
      exact h
  | cons a rest ih =>
      exact ih (assigned_index_of_assigned h a)

/-- The first name keeps the index that it is given. -/
theorem assigned_indexAll_cons (r : BinaryRegistry) (name : String) (names : List String) :
    (r.indexAll (name :: names)).assigned[name]? = some (r.index name).1 := by
  refine assigned_indexAll (r := (r.index name).2) ?_ names
  rw [assigned_index, if_pos rfl]

theorem numbers_indexAll (names : List String) :
    (indexAll {} names).Numbers (unreservedNames names) := by
  induction names using List.reverseRecOn with
  | nil =>
      exact numbers_empty
  | append_singleton names name ih =>
      rw [unreservedNames_append_singleton, indexAll_append]
      exact numbers_index ih name

/-! ## Names in any order -/

/-- The name has an index, or one that is kept for it. -/
def Knows (r : BinaryRegistry) (name : String) : Prop := name ∈ r.assigned ∨ IsReserved name

variable {r : BinaryRegistry} {names : List String} {a b : String}

theorem index_of_knows (h : r.Knows a) :
    r.assigned[a]?.or (wellKnownBinaries.lookup a) = some (r.index a).1 ∧
      (r.index a).2.next = r.next := by
  unfold Knows IsReserved at h
  rw [Std.ExtTreeMap.mem_iff_isSome_getElem?] at h
  unfold index
  cases hfound : r.assigned[a]? with
  | some i =>
      exact ⟨rfl, rfl⟩
  | none =>
      cases hlookup : wellKnownBinaries.lookup a with
      | some i =>
          exact ⟨rfl, rfl⟩
      | none =>
          simp [hfound, hlookup] at h

theorem Knows.index (h : r.Knows a) (b : String) : (r.index b).2.Knows a := by
  refine h.imp_left fun hmem => ?_
  rw [Std.ExtTreeMap.mem_iff_isSome_getElem?, Option.isSome_iff_exists] at hmem ⊢
  rcases hmem with ⟨i, hi⟩
  exact ⟨i, assigned_index_of_assigned hi b⟩

/-- A known name has the same index when another one comes first. -/
theorem fst_index_index (hne : a ≠ b) (hb : r.Knows b) :
    ((r.index a).2.index b).1 = (r.index b).1 := by
  have hlater := (index_of_knows (hb.index a)).1
  rw [assigned_index, if_neg hne, (index_of_knows hb).1] at hlater
  exact (Option.some.inj hlater).symm

theorem index_comm (hne : a ≠ b) (ha : r.Knows a) (hb : r.Knows b) :
    ((r.index a).2.index b).2 = ((r.index b).2.index a).2 := by
  have hassigned : ((r.index a).2.index b).2.assigned = ((r.index b).2.index a).2.assigned := by
    ext1 name
    rw [assigned_index, assigned_index, assigned_index, assigned_index, fst_index_index hne hb,
      fst_index_index hne.symm ha]
    by_cases hname : b = name
    · subst hname
      rw [if_pos rfl, if_pos rfl, if_neg hne]
    · rw [if_neg hname, if_neg hname]
  have hnext : ((r.index a).2.index b).2.next = ((r.index b).2.index a).2.next := by
    rw [(index_of_knows (hb.index a)).2, (index_of_knows ha).2, (index_of_knows (ha.index b)).2,
      (index_of_knows hb).2]
  cases hleft : ((r.index a).2.index b).2
  cases hright : ((r.index b).2.index a).2
  rw [hleft, hright] at hassigned hnext
  cases hassigned
  cases hnext
  rfl

theorem numbers_index_of_knows (h : r.Numbers names) (ha : r.Knows a) :
    (r.index a).2.Numbers names := by
  have hnumbers := numbers_index h a
  rwa [if_pos] at hnumbers
  rcases ha with hmem | hreserved
  · rw [Std.ExtTreeMap.mem_iff_isSome_getElem?, Option.isSome_iff_exists] at hmem
    rcases hmem with ⟨i, hi⟩
    rcases h.numbering.cases_of_getElem? hi with hlookup | ⟨hname, _⟩
    · exact Or.inl (by rw [IsReserved, hlookup]; rfl)
    · exact Or.inr hname
  · exact Or.inl hreserved

/-- Different names that are known have indices of their own. -/
theorem fst_index_ne (h : r.Numbers names) (hlength : names.length ≤ numberLimit) (hne : a ≠ b)
    (ha : r.Knows a) (hb : r.Knows b) : (r.index a).1 ≠ (r.index b).1 := by
  -- Both indices stand in the registry that has met both names.
  have hnumbers := (numbers_index_of_knows (numbers_index_of_knows h ha) (hb.index a)).numbering
  have hassigned := assigned_index (r.index a).2 b
  intro hsame
  refine hne (hnumbers.name_eq hlength (i := (r.index a).1) ?_ ?_)
  · rw [hassigned, if_neg hne.symm, assigned_index, if_pos rfl]
  · rw [hassigned, if_pos rfl, fst_index_index hne hb, hsame]

end BinaryRegistry

end BinaryCoverage
