import BinaryCoverage.Proofs.Json.Text
import Mathlib.Data.List.DropRight

/-!
# Printed values read back

The text of a value is read in one form, whatever the value is made of.  Floating point is left
aside.  This file defines:

* `Json.isFloatless` — there is no floating-point number in a value;
* `Json.form` — the form in which a printed value is read;

and shows that the reader, given fuel for twice the text, finds that form (`readValue?_layout`).
-/

namespace BinaryCoverage.Json

mutual

/-- There is no floating-point number. -/
def isFloatless : Json → Bool
  | .float _ => false
  | .array items => allFloatless items
  | .object fields => fieldsFloatless fields
  | _ => true

def allFloatless : List Json → Bool
  | [] => true
  | item :: rest => item.isFloatless && allFloatless rest

def fieldsFloatless : List (String × Json) → Bool
  | [] => true
  | (_, value) :: rest => value.isFloatless && fieldsFloatless rest

end

theorem allFloatless_iff {items : List Json} :
    allFloatless items ↔ ∀ item ∈ items, item.isFloatless := by
  induction items with
  | nil =>
      simp [allFloatless]
  | cons item items ih =>
      simp [allFloatless, ih]

theorem fieldsFloatless_iff {fields : List (String × Json)} :
    fieldsFloatless fields ↔ ∀ field ∈ fields, field.2.isFloatless := by
  induction fields with
  | nil =>
      simp [fieldsFloatless]
  | cons field fields ih =>
      simp [fieldsFloatless, ih]

mutual

/-- The form in which a printed value is read; floating point is left aside. -/
def form : Json → Raw
  | .null => .null
  | .bool b => .bool b
  | .integer n => .number (numberForm n.value)
  | .float _ => .null
  | .string s => .string (pieces s)
  | .array items => .array (itemForms items)
  | .object fields => .object (fieldForms fields)

def itemForms : List Json → List Raw
  | [] => []
  | item :: rest => item.form :: itemForms rest

def fieldForms : List (String × Json) → List (List Piece × Raw)
  | [] => []
  | (key, value) :: rest => (pieces key, value.form) :: fieldForms rest

end

theorem itemForms_eq_map (items : List Json) : itemForms items = items.map form := by
  induction items with
  | nil =>
      rfl
  | cons item items ih =>
      rw [itemForms, ih]
      rfl

theorem fieldForms_eq_map (fields : List (String × Json)) :
    fieldForms fields = fields.map fun field => (pieces field.1, field.2.form) := by
  induction fields with
  | nil =>
      rfl
  | cons field fields ih =>
      rw [fieldForms, ih]
      rfl

/-! ## Blanks -/

theorem skip_skip (cs : List Char) : Raw.skip (Raw.skip cs) = Raw.skip cs :=
  List.dropWhile_idempotent Raw.isSpace cs

theorem skip_newline (depth : Nat) (cs : List Char) :
    Raw.skip (newline depth ++ cs) = Raw.skip cs := by
  have hspaces : ∀ c ∈ newline depth, Raw.isSpace c := by
    intro c hc
    unfold newline at hc
    rcases List.mem_cons.1 hc with rfl | hc
    · rfl
    · rw [List.eq_of_mem_replicate hc]
      rfl
  exact List.dropWhile_append_of_pos hspaces

theorem readValue?_skip (fuel : Nat) (cs : List Char) :
    Raw.readValue? fuel (Raw.skip cs) = Raw.readValue? fuel cs := by
  cases fuel with
  | zero =>
      rfl
  | succ fuel =>
      rw [Raw.readValue?, Raw.readValue?, skip_skip]

theorem readValue?_newline (fuel depth : Nat) (cs : List Char) :
    Raw.readValue? fuel (newline depth ++ cs) = Raw.readValue? fuel cs := by
  rw [← readValue?_skip, skip_newline, readValue?_skip]

theorem readItems?_skip (fuel : Nat) (cs : List Char) :
    Raw.readItems? fuel (Raw.skip cs) = Raw.readItems? fuel cs := by
  cases fuel with
  | zero =>
      rfl
  | succ fuel =>
      rw [Raw.readItems?, Raw.readItems?, readValue?_skip]

theorem readFields?_skip (fuel : Nat) (cs : List Char) :
    Raw.readFields? fuel (Raw.skip cs) = Raw.readFields? fuel cs := by
  cases fuel with
  | zero =>
      rfl
  | succ fuel =>
      rw [Raw.readFields?, Raw.readFields?, skip_skip]

theorem readFields?_newline (fuel depth : Nat) (cs : List Char) :
    Raw.readFields? fuel (newline depth ++ cs) = Raw.readFields? fuel cs := by
  rw [← readFields?_skip, skip_newline, readFields?_skip]

/-- No value begins with the end of an array. -/
theorem readValue?_close {cs rest : List Char} (h : Raw.skip cs = ']' :: rest) (fuel : Nat) :
    Raw.readValue? fuel cs = none := by
  cases fuel with
  | zero =>
      rfl
  | succ fuel =>
      rw [Raw.readValue?, h]
      rfl

/-! ## One value -/

theorem skip_quote (text : String) (cs : List Char) :
    Raw.skip (quote text ++ cs) = quote text ++ cs := rfl

section

variable {fuel : Nat} {cs rest tail : List Char} {item : Raw} {items : List Raw}
  {fields : List (List Piece × Raw)}

theorem readValue?_number {c : Char} (hc : c = '-' ∨ Text.isDigit c) :
    Raw.readValue? (fuel + 1) (c :: cs) =
      (Raw.readNumber? (c :: cs)).map fun (n, rest) => (.number n, rest) := by
  have hfirst : ∀ d ∈ [' ', '\n', '\t', '\r', 'n', 't', 'f', '"', '[', '{'], c ≠ d := by
    have hothers : ∀ d ∈ [' ', '\n', '\t', '\r', 'n', 't', 'f', '"', '[', '{'],
        ¬ (d = '-' ∨ Text.isDigit d) := by
      simp [Text.isDigit]
    rintro d hd rfl
    exact hothers c hd hc
  have hskip : Raw.skip (c :: cs) = c :: cs := by
    have hspace : Raw.isSpace c = false := by
      simp [Raw.isSpace, hfirst]
    simp [Raw.skip, hspace]
  rw [Raw.readValue?, hskip]
  -- All other values begin with a character of their own.
  split
  all_goals
    first
      | rfl
      | rename_i heq
        cases heq
        exact absurd rfl (hfirst _ (by decide))

theorem readValue?_integerText (n : Int) (hrest : endsNumber rest) :
    Raw.readValue? (fuel + 1) (integerText n ++ rest) = some (.number (numberForm n), rest) := by
  have hread := readNumber?_integerText n hrest
  have hfirst : ∃ c cs, integerText n = c :: cs ∧ (c = '-' ∨ Text.isDigit c) := by
    unfold integerText
    split
    · exact ⟨'-', _, rfl, Or.inl rfl⟩
    · rcases Text.decimal_eq_cons n.natAbs with ⟨c, cs, hdigits, hc⟩
      exact ⟨c, cs, hdigits, Or.inr hc⟩
  rcases hfirst with ⟨c, cs, htext, hc⟩
  rw [htext, List.cons_append] at hread ⊢
  rw [readValue?_number hc, hread]
  rfl

theorem readValue?_quote (fuel : Nat) (text : String) (cs : List Char) :
    Raw.readValue? (fuel + 1) (quote text ++ cs) = some (.string (pieces text), cs) := by
  unfold quote
  rw [List.cons_append, List.append_assoc, List.singleton_append, Raw.readValue?]
  change (Raw.readString? _ _).map _ = _
  rw [readString?_quote]
  rfl

theorem readValue?_bracket :
    Raw.readValue? (fuel + 1) ('[' :: cs) =
      match Raw.skip cs with
      | ']' :: rest => some (.array [], rest)
      | rest => (Raw.readItems? fuel rest).map fun (items, rest) => (.array items, rest) := by
  rw [Raw.readValue?]
  rfl

theorem readValue?_array (h : Raw.readItems? fuel cs = some (items, rest)) :
    Raw.readValue? (fuel + 1) ('[' :: cs) = some (.array items, rest) := by
  rw [readValue?_bracket]
  split
  · rename_i close hclose
    -- Items have been read, so that the array does not end here.
    cases fuel with
    | zero =>
        cases h
    | succ fuel =>
        rw [Raw.readItems?, readValue?_close hclose] at h
        cases h
  · rw [readItems?_skip, h]
    rfl

theorem readValue?_brace :
    Raw.readValue? (fuel + 1) ('{' :: cs) =
      match Raw.skip cs with
      | '}' :: rest => some (.object [], rest)
      | rest => (Raw.readFields? fuel rest).map fun (fields, rest) => (.object fields, rest) := by
  rw [Raw.readValue?]
  rfl

theorem readValue?_object (h : Raw.readFields? fuel cs = some (fields, rest)) :
    Raw.readValue? (fuel + 1) ('{' :: cs) = some (.object fields, rest) := by
  rw [readValue?_brace]
  split
  · rename_i close hclose
    cases fuel with
    | zero =>
        cases h
    | succ fuel =>
        rw [Raw.readFields?, hclose] at h
        cases h
  · rw [readFields?_skip, h]
    rfl

/-! ## Items and fields -/

theorem readItems?_value (h : Raw.readValue? fuel cs = some (item, rest)) :
    Raw.readItems? (fuel + 1) cs =
      match Raw.skip rest with
      | ',' :: rest =>
          (Raw.readItems? fuel rest).bind fun (items, rest) => some (item :: items, rest)
      | ']' :: rest => some ([item], rest)
      | _ => none := by
  rw [Raw.readItems?, h]
  rfl

theorem readItems?_last (h : Raw.readValue? fuel cs = some (item, rest))
    (hclose : Raw.skip rest = ']' :: tail) :
    Raw.readItems? (fuel + 1) cs = some ([item], tail) := by
  rw [readItems?_value h, hclose]
  rfl

theorem readItems?_more {more : List Char} (h : Raw.readValue? fuel cs = some (item, rest))
    (hcomma : Raw.skip rest = ',' :: more) (hmore : Raw.readItems? fuel more = some (items, tail)) :
    Raw.readItems? (fuel + 1) cs = some (item :: items, tail) := by
  rw [readItems?_value h, hcomma]
  change (Raw.readItems? fuel more).bind _ = _
  rw [hmore]
  rfl

theorem readFields?_quote (key : String) :
    Raw.readFields? (fuel + 1) (quote key ++ ':' :: ' ' :: cs) =
      (Raw.readValue? fuel cs).bind fun (value, rest) =>
        match Raw.skip rest with
        | ',' :: rest =>
            (Raw.readFields? fuel rest).bind fun (fields, rest) =>
              some ((pieces key, value) :: fields, rest)
        | '}' :: rest => some ([(pieces key, value)], rest)
        | _ => none := by
  have hblank : Raw.readValue? fuel (' ' :: cs) = Raw.readValue? fuel cs := by
    rw [← readValue?_skip fuel (' ' :: cs), ← readValue?_skip fuel cs]
    rfl
  rw [Raw.readFields?, skip_quote]
  unfold quote
  rw [List.cons_append, List.append_assoc, List.singleton_append]
  change (Raw.readString? _ _).bind _ = _
  rw [readString?_quote, Option.bind_some]
  change (Raw.readValue? fuel (' ' :: cs)).bind _ = _
  rw [hblank]
  rfl

theorem readFields?_last (key : String) (h : Raw.readValue? fuel cs = some (item, rest))
    (hclose : Raw.skip rest = '}' :: tail) :
    Raw.readFields? (fuel + 1) (quote key ++ ':' :: ' ' :: cs) =
      some ([(pieces key, item)], tail) := by
  rw [readFields?_quote, h, Option.bind_some]
  dsimp only
  rw [hclose]
  rfl

theorem readFields?_more (key : String) {more : List Char}
    (h : Raw.readValue? fuel cs = some (item, rest)) (hcomma : Raw.skip rest = ',' :: more)
    (hmore : Raw.readFields? fuel more = some (fields, tail)) :
    Raw.readFields? (fuel + 1) (quote key ++ ':' :: ' ' :: cs) =
      some ((pieces key, item) :: fields, tail) := by
  rw [readFields?_quote, h, Option.bind_some]
  dsimp only
  rw [hcomma]
  change (Raw.readFields? fuel more).bind _ = _
  rw [hmore]
  rfl

end

/-! ## Layouts -/

/-- What follows a value inside an array goes on with no number. -/
theorem endsNumber_layoutItems (depth : Nat) (items : List Json) (cs : List Char) :
    endsNumber (layoutItems depth items ++ cs) := by
  cases items <;> rfl

theorem endsNumber_layoutFields (depth : Nat) (fields : List (String × Json)) (cs : List Char) :
    endsNumber (layoutFields depth fields ++ cs) := by
  rcases fields with _ | ⟨⟨key, value⟩, fields⟩ <;> rfl

theorem skip_layoutItems_nil (depth : Nat) (cs : List Char) :
    Raw.skip (layoutItems depth [] ++ cs) = ']' :: cs := by
  rw [layoutItems, List.append_assoc, skip_newline]
  rfl

theorem skip_layoutFields_nil (depth : Nat) (cs : List Char) :
    Raw.skip (layoutFields depth [] ++ cs) = '}' :: cs := by
  rw [layoutFields, List.append_assoc, skip_newline]
  rfl

theorem skip_layoutItems_cons (depth : Nat) (item : Json) (items : List Json) (cs : List Char) :
    Raw.skip (layoutItems depth (item :: items) ++ cs) =
      ',' :: (layoutItems depth (item :: items) ++ cs).tail := rfl

theorem skip_layoutFields_cons (depth : Nat) (field : String × Json)
    (fields : List (String × Json)) (cs : List Char) :
    Raw.skip (layoutFields depth (field :: fields) ++ cs) =
      ',' :: (layoutFields depth (field :: fields) ++ cs).tail := rfl

theorem tail_layoutItems_cons (depth : Nat) (item : Json) (items : List Json) (cs : List Char) :
    (layoutItems depth (item :: items) ++ cs).tail =
      newline (depth + 1) ++ (layout (depth + 1) item ++ (layoutItems depth items ++ cs)) := by
  simp [layoutItems]

theorem tail_layoutFields_cons (depth : Nat) (key : String) (value : Json)
    (fields : List (String × Json)) (cs : List Char) :
    (layoutFields depth ((key, value) :: fields) ++ cs).tail =
      newline (depth + 1) ++ (quote key ++ ':' :: ' ' ::
        (layout (depth + 1) value ++ (layoutFields depth fields ++ cs))) := by
  simp [layoutFields]

theorem length_layoutItems_cons (depth : Nat) (item : Json) (items : List Json) :
    (layoutItems depth (item :: items)).length = (newline (depth + 1)).length +
      (layout (depth + 1) item).length + (layoutItems depth items).length + 1 := by
  simp [layoutItems, Nat.add_assoc]

theorem length_layoutFields_cons (depth : Nat) (key : String) (value : Json)
    (fields : List (String × Json)) :
    (layoutFields depth ((key, value) :: fields)).length =
      (newline (depth + 1)).length + (quote key).length + 2 + (layout (depth + 1) value).length +
        (layoutFields depth fields).length + 1 := by
  simp [layoutFields]
  omega

mutual

theorem readValue?_layout (depth : Nat) : (j : Json) → j.isFloatless → ∀ (fuel : Nat)
    (rest : List Char), 2 * (layout depth j).length < fuel → endsNumber rest →
      Raw.readValue? fuel (layout depth j ++ rest) = some (j.form, rest)
  | .null, _, fuel + 1, rest, _, _ => rfl
  | .bool true, _, fuel + 1, rest, _, _ => rfl
  | .bool false, _, fuel + 1, rest, _, _ => rfl
  | .integer n, _, fuel + 1, rest, _, hrest => readValue?_integerText n.value hrest
  | .string s, _, fuel + 1, rest, _, _ => readValue?_quote fuel s rest
  | .array [], _, fuel + 1, rest, _, _ => rfl
  | .array (item :: items), h, fuel + 1, rest, hfuel, _ => by
      have hitems := readItems?_layout depth (item :: items) h (by simp) fuel rest hfuel
      exact readValue?_array hitems
  | .object [], _, fuel + 1, rest, _, _ => rfl
  | .object ((key, value) :: fields), h, fuel + 1, rest, hfuel, _ => by
      have hfields := readFields?_layout depth ((key, value) :: fields) h (by simp) fuel rest hfuel
      exact readValue?_object hfields

/-- The items of an array are read behind the bracket or comma before them. -/
theorem readItems?_layout (depth : Nat) : (items : List Json) → allFloatless items →
    items ≠ [] → ∀ (fuel : Nat) (rest : List Char),
      2 * (layoutItems depth items).length < fuel + 1 →
      Raw.readItems? fuel (layoutItems depth items ++ rest).tail = some (itemForms items, rest)
  | item :: items, h, _, fuel, rest, hfuel => by
      simp only [allFloatless, Bool.and_eq_true] at h
      rw [length_layoutItems_cons] at hfuel
      rcases fuel with _ | fuel
      · omega
      have hitem : Raw.readValue? fuel (layoutItems depth (item :: items) ++ rest).tail =
          some (item.form, layoutItems depth items ++ rest) := by
        rw [tail_layoutItems_cons, readValue?_newline]
        exact readValue?_layout (depth + 1) item h.1 fuel _ (by omega)
          (endsNumber_layoutItems depth items rest)
      rcases items with _ | ⟨next, items⟩
      · exact readItems?_last hitem (skip_layoutItems_nil depth rest)
      · have hrest := readItems?_layout depth (next :: items) h.2 (by simp) fuel rest (by omega)
        exact readItems?_more hitem (skip_layoutItems_cons depth next items rest) hrest

theorem readFields?_layout (depth : Nat) : (fields : List (String × Json)) →
    fieldsFloatless fields → fields ≠ [] → ∀ (fuel : Nat) (rest : List Char),
      2 * (layoutFields depth fields).length < fuel + 1 →
      Raw.readFields? fuel (layoutFields depth fields ++ rest).tail = some (fieldForms fields, rest)
  | (key, value) :: fields, h, _, fuel, rest, hfuel => by
      simp only [fieldsFloatless, Bool.and_eq_true] at h
      rw [length_layoutFields_cons] at hfuel
      rcases fuel with _ | fuel
      · omega
      have hvalue : Raw.readValue? fuel
          (layout (depth + 1) value ++ (layoutFields depth fields ++ rest)) =
            some (value.form, layoutFields depth fields ++ rest) :=
        readValue?_layout (depth + 1) value h.1 fuel _ (by omega)
          (endsNumber_layoutFields depth fields rest)
      rw [tail_layoutFields_cons, readFields?_newline]
      rcases fields with _ | ⟨next, fields⟩
      · exact readFields?_last key hvalue (skip_layoutFields_nil depth rest)
      · have hrest := readFields?_layout depth (next :: fields) h.2 (by simp) fuel rest (by omega)
        exact readFields?_more key hvalue (skip_layoutFields_cons depth next fields rest) hrest

end

/-- The text of a value is read in its form. -/
theorem read?_print {j : Json} (h : j.isFloatless) : Raw.read? j.print = some j.form := by
  have hvalue := readValue?_layout 0 j h (2 * (layout 0 j).length + 2) [] (by omega) rfl
  rw [List.append_nil] at hvalue
  unfold Raw.read? print
  rw [String.toList_ofList]
  dsimp only
  rw [hvalue]
  rfl

end BinaryCoverage.Json
