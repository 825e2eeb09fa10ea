import BinaryCoverage.Proofs.Json.Layout

/-!
# Nesting and meaning

What a printed value is read as means that value again, as long as fewer arrays and objects are
open at once than there are levels; and nothing that is accepted opens more.  This file defines:

* `Json.depth` — how many arrays and objects are open at once, at most.
-/

namespace BinaryCoverage.Json

mutual

/-- How many arrays and objects are open at once, at most. -/
def depth : Json → Nat
  | .array items => itemsDepth items + 1
  | .object fields => fieldsDepth fields + 1
  | _ => 0

def itemsDepth : List Json → Nat
  | [] => 0
  | item :: rest => max item.depth (itemsDepth rest)

def fieldsDepth : List (String × Json) → Nat
  | [] => 0
  | (_, value) :: rest => max value.depth (fieldsDepth rest)

end

theorem itemsDepth_le_iff {items : List Json} {n : Nat} :
    itemsDepth items ≤ n ↔ ∀ item ∈ items, item.depth ≤ n := by
  induction items with
  | nil =>
      simp [itemsDepth]
  | cons item items ih =>
      simp [itemsDepth, ih]

theorem fieldsDepth_le_iff {fields : List (String × Json)} {n : Nat} :
    fieldsDepth fields ≤ n ↔ ∀ field ∈ fields, field.2.depth ≤ n := by
  induction fields with
  | nil =>
      simp [fieldsDepth]
  | cons field fields ih =>
      simp [fieldsDepth, ih]

theorem descend?_eq_some_iff {level below : Nat} :
    descend? level = some below ↔ 0 < below ∧ level = below + 1 := by
  rcases level with _ | _ | level
  · simp [descend?]
  · simp [descend?]
    omega
  · simp [descend?]
    omega

/-! ## The meaning of forms -/

mutual

theorem valueOf?_form : (j : Json) → j.isFloatless → ∀ level, j.depth < level →
    valueOf? level j.form = some j
  | .null, _, _, _ => rfl
  | .bool _, _, _, _ => rfl
  | .integer n, _, _, _ => numberOf?_numberForm n
  | .string s, _, _, _ => by
      rw [form, valueOf?, textOf?_pieces]
      rfl
  | .array items, h, level + 2, hdepth => by
      have hitems := itemsOf?_forms items h (level + 1) (by simpa [depth] using hdepth)
      rw [form, valueOf?]
      change (itemsOf? (level + 1) (itemForms items)).map _ = _
      rw [hitems]
      rfl
  | .object fields, h, level + 2, hdepth => by
      have hfields := fieldsOf?_forms fields h (level + 1) (by simpa [depth] using hdepth)
      rw [form, valueOf?]
      change (fieldsOf? (level + 1) (fieldForms fields)).map _ = _
      rw [hfields]
      rfl
  | .array _, _, 1, hdepth => by
      simp [depth] at hdepth
  | .object _, _, 1, hdepth => by
      simp [depth] at hdepth

theorem itemsOf?_forms : (items : List Json) → allFloatless items → ∀ level,
    itemsDepth items < level → itemsOf? level (itemForms items) = some items
  | [], _, _, _ => rfl
  | item :: items, h, level, hdepth => by
      simp only [allFloatless, Bool.and_eq_true] at h
      simp only [itemsDepth, Nat.max_lt] at hdepth
      rw [itemForms, itemsOf?, valueOf?_form item h.1 level hdepth.1,
        itemsOf?_forms items h.2 level hdepth.2]
      rfl

theorem fieldsOf?_forms : (fields : List (String × Json)) → fieldsFloatless fields → ∀ level,
    fieldsDepth fields < level → fieldsOf? level (fieldForms fields) = some fields
  | [], _, _, _ => rfl
  | (key, value) :: fields, h, level, hdepth => by
      simp only [fieldsFloatless, Bool.and_eq_true] at h
      simp only [fieldsDepth, Nat.max_lt] at hdepth
      rw [fieldForms, fieldsOf?, textOf?_pieces, valueOf?_form value h.1 level hdepth.1,
        fieldsOf?_forms fields h.2 level hdepth.2]
      rfl

end

/-! ## The nesting of what is accepted -/

theorem depth_of_numberOf? {n : RawNumber} {j : Json} (h : numberOf? n = some j) : j.depth = 0 := by
  have hfloat : (floatNumber? n).map .float = some j → j.depth = 0 := by
    intro hj
    rcases Option.map_eq_some_iff.1 hj with ⟨x, -, rfl⟩
    rfl
  unfold numberOf? at h
  split at h
  · split at h
    · cases h
      rfl
    · split at h
      · cases h
        rfl
      · exact hfloat h
  · exact hfloat h

mutual

theorem depth_of_valueOf? : (raw : Raw) → ∀ level j, 0 < level → valueOf? level raw = some j →
    j.depth < level
  | .null, level, j, hlevel, h => by
      cases h
      exact hlevel
  | .bool _, level, j, hlevel, h => by
      cases h
      exact hlevel
  | .number n, level, j, hlevel, h => by
      rw [depth_of_numberOf? h]
      exact hlevel
  | .string s, level, j, hlevel, h => by
      rcases Option.map_eq_some_iff.1 h with ⟨text, -, rfl⟩
      exact hlevel
  | .array raws, level, j, hlevel, h => by
      rcases Option.bind_eq_some_iff.1 h with ⟨below, hbelow, h⟩
      rcases Option.map_eq_some_iff.1 h with ⟨items, hitems, rfl⟩
      rcases descend?_eq_some_iff.1 hbelow with ⟨hpos, rfl⟩
      exact Nat.succ_lt_succ (depth_of_itemsOf? raws below items hpos hitems)
  | .object raws, level, j, hlevel, h => by
      rcases Option.bind_eq_some_iff.1 h with ⟨below, hbelow, h⟩
      rcases Option.map_eq_some_iff.1 h with ⟨fields, hfields, rfl⟩
      rcases descend?_eq_some_iff.1 hbelow with ⟨hpos, rfl⟩
      exact Nat.succ_lt_succ (depth_of_fieldsOf? raws below fields hpos hfields)

theorem depth_of_itemsOf? : (raws : List Raw) → ∀ level items, 0 < level →
    itemsOf? level raws = some items → itemsDepth items < level
  | [], level, items, hlevel, h => by
      cases h
      exact hlevel
  | raw :: raws, level, items, hlevel, h => by
      rcases Option.bind_eq_some_iff.1 h with ⟨item, hitem, h⟩
      rcases Option.bind_eq_some_iff.1 h with ⟨rest, hrest, h⟩
      cases h
      exact Nat.max_lt.2 ⟨depth_of_valueOf? raw level item hlevel hitem,
        depth_of_itemsOf? raws level rest hlevel hrest⟩

theorem depth_of_fieldsOf? : (raws : List (List Piece × Raw)) → ∀ level fields, 0 < level →
    fieldsOf? level raws = some fields → fieldsDepth fields < level
  | [], level, fields, hlevel, h => by
      cases h
      exact hlevel
  | (key, raw) :: raws, level, fields, hlevel, h => by
      rcases Option.bind_eq_some_iff.1 h with ⟨name, -, h⟩
      rcases Option.bind_eq_some_iff.1 h with ⟨value, hvalue, h⟩
      rcases Option.bind_eq_some_iff.1 h with ⟨rest, hrest, h⟩
      cases h
      exact Nat.max_lt.2 ⟨depth_of_valueOf? raw level value hlevel hvalue,
        depth_of_fieldsOf? raws level rest hlevel hrest⟩

end

/-! ## Bounds -/

/-- There is no floating-point number, and at most so many arrays and objects are open at once. -/
structure Within (n : Nat) (j : Json) : Prop where
  isFloatless : j.isFloatless
  depth : j.depth ≤ n

theorem Within.mono {j : Json} {n m : Nat} (h : j.Within n) (hnm : n ≤ m) : j.Within m :=
  ⟨h.isFloatless, h.depth.trans hnm⟩

theorem within_array {n : Nat} {items : List Json} (h : ∀ item ∈ items, item.Within n) :
    (array items).Within (n + 1) :=
  ⟨allFloatless_iff.2 fun item hitem => (h item hitem).isFloatless,
    Nat.succ_le_succ (itemsDepth_le_iff.2 fun item hitem => (h item hitem).depth)⟩

theorem within_object {n : Nat} {fields : List (String × Json)}
    (h : ∀ field ∈ fields, field.2.Within n) : (object fields).Within (n + 1) :=
  ⟨fieldsFloatless_iff.2 fun field hfield => (h field hfield).isFloatless,
    Nat.succ_le_succ (fieldsDepth_le_iff.2 fun field hfield => (h field hfield).depth)⟩

/-! ## Key order -/

theorem fieldsDepth_putField (key : String) (value : Json) (fields : List (String × Json)) :
    fieldsDepth (putField key value fields) ≤ max value.depth (fieldsDepth fields) := by
  induction fields with
  | nil =>
      simp [putField, fieldsDepth]
  | cons field fields ih =>
      rcases field with ⟨k, v⟩
      unfold putField
      split
      · exact Nat.le_refl _
      · split
        · exact Nat.le_max_right _ _
        · rw [fieldsDepth, fieldsDepth]
          omega

mutual

/-- Fields that get lost as another one has their key may only make a value shallower. -/
theorem depth_ordered_le : (j : Json) → j.ordered.depth ≤ j.depth
  | .null | .bool _ | .integer _ | .float _ | .string _ => Nat.le_refl _
  | .array items => Nat.succ_le_succ (itemsDepth_ordered_le items)
  | .object fields => Nat.succ_le_succ (fieldsDepth_ordered_le fields)

theorem itemsDepth_ordered_le : (items : List Json) →
    itemsDepth (orderedItems items) ≤ itemsDepth items
  | [] => Nat.le_refl _
  | item :: items => by
      have hitem := depth_ordered_le item
      have hitems := itemsDepth_ordered_le items
      rw [orderedItems, itemsDepth, itemsDepth]
      omega

theorem fieldsDepth_ordered_le : (fields : List (String × Json)) →
    fieldsDepth (orderedFields fields) ≤ fieldsDepth fields
  | [] => Nat.le_refl _
  | (key, value) :: fields => by
      have hput := fieldsDepth_putField key value.ordered (orderedFields fields)
      have hvalue := depth_ordered_le value
      have hfields := fieldsDepth_ordered_le fields
      rw [orderedFields, fieldsDepth]
      omega

end

mutual

theorem ordered_of_isOrdered : (j : Json) → j.isOrdered → j.ordered = j
  | .null, _ | .bool _, _ | .integer _, _ | .float _, _ | .string _, _ => rfl
  | .array items, h => by
      rw [ordered, orderedItems_of_allOrdered items h]
  | .object fields, h => by
      simp only [isOrdered, Bool.and_eq_true] at h
      rw [ordered, orderedFields_of_fieldsOrdered fields h.1 h.2]

theorem orderedItems_of_allOrdered : (items : List Json) → allOrdered items →
    orderedItems items = items
  | [], _ => rfl
  | item :: items, h => by
      simp only [allOrdered, Bool.and_eq_true] at h
      rw [orderedItems, ordered_of_isOrdered item h.1, orderedItems_of_allOrdered items h.2]

theorem orderedFields_of_fieldsOrdered : (fields : List (String × Json)) →
    keysIncrease (fields.map Prod.fst) → fieldsOrdered fields → orderedFields fields = fields
  | [], _, _ => rfl
  | (key, value) :: fields, hkeys, h => by
      simp only [fieldsOrdered, Bool.and_eq_true] at h
      rw [List.map_cons, keysIncrease_cons_iff] at hkeys
      rw [orderedFields, ordered_of_isOrdered value h.1,
        orderedFields_of_fieldsOrdered fields hkeys.2 h.2]
      -- The key stands before all others.
      rcases fields with _ | ⟨⟨k, v⟩, fields⟩
      · rfl
      · rw [putField, if_pos (hkeys.1 k rfl)]

end

end BinaryCoverage.Json

namespace BinaryCoverage.Payload

theorem ofJson_json (p : Payload) : ofJson p.json = p := by
  rcases p with ⟨j, hj⟩
  unfold ofJson
  simp only [j.ordered_of_isOrdered hj]

end BinaryCoverage.Payload
