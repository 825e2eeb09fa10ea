import BinaryCoverage.Decimal.Binary64
import BinaryCoverage.Table

/-!
# JSON values

A whole number lies in the range of signed and unsigned words of 64 bits; any other number is
binary floating point.  An object lists its fields.  This file defines:

* `Json.isOrdered` — the keys of every object increase strictly;
* `Json.ordered` — the same value with the fields of each object in key order, the last of several
  with one key kept;
* `Payload` — an ordered value, the form in which values are passed through unchanged.
-/

namespace BinaryCoverage

/-- A whole number from `-2 ^ 63` up to `2 ^ 64 - 1`. -/
structure Integer64 where
  value : Int
  lower : -0x8000000000000000 ≤ value := by omega
  upper : value ≤ 0xFFFFFFFFFFFFFFFF := by omega
  deriving DecidableEq

namespace Integer64

def ofNat (n : Nat) (h : n ≤ 0xFFFFFFFFFFFFFFFF) : Integer64 := { value := n }

def ofNegative (n : Nat) (h : n ≤ 0x8000000000000000) : Integer64 := { value := -(n : Int) }

end Integer64

inductive Json where
  | null
  | bool (value : Bool)
  | integer (value : Integer64)
  | float (value : Binary64)
  | string (text : String)
  | array (items : List Json)
  | object (fields : List (String × Json))
  deriving Inhabited

namespace Json

def ofNat (n : Nat) (h : n ≤ 0xFFFFFFFFFFFFFFFF := by omega) : Json := .integer (.ofNat n h)

def ofWord32 (w : UInt32) : Json :=
  .integer { value := w.toNat, upper := by have := w.toNat_lt; omega }

def ofWord64 (w : UInt64) : Json :=
  .integer { value := w.toNat, upper := by have := w.toNat_lt; omega }

/-! ## Key order -/

/-- Whether the keys increase strictly. -/
def keysIncrease : List String → Bool
  | k :: l :: rest => k < l && keysIncrease (l :: rest)
  | _ => true

mutual

def isOrdered : Json → Bool
  | .array items => allOrdered items
  | .object fields => keysIncrease (fields.map Prod.fst) && fieldsOrdered fields
  | _ => true

def allOrdered : List Json → Bool
  | [] => true
  | item :: rest => item.isOrdered && allOrdered rest

def fieldsOrdered : List (String × Json) → Bool
  | [] => true
  | (_, value) :: rest => value.isOrdered && fieldsOrdered rest

end

/-- Puts a field in front of fields that are in key order; one already there is kept. -/
def putField (key : String) (value : Json) : List (String × Json) → List (String × Json)
  | [] => [(key, value)]
  | (k, v) :: rest =>
      if key < k then (key, value) :: (k, v) :: rest
      -- The fields behind come later in the text, so that the last one is kept.
      else if key = k then (k, v) :: rest
      else (k, v) :: putField key value rest

mutual

/-- The value with every object in key order. -/
def ordered : Json → Json
  | .array items => .array (orderedItems items)
  | .object fields => .object (orderedFields fields)
  | value => value

def orderedItems : List Json → List Json
  | [] => []
  | item :: rest => item.ordered :: orderedItems rest

def orderedFields : List (String × Json) → List (String × Json)
  | [] => []
  | (key, value) :: rest => putField key value.ordered (orderedFields rest)

end

theorem fieldsOrdered_putField (key : String) (value : Json) (fields : List (String × Json))
    (hv : value.isOrdered) (hf : fieldsOrdered fields) :
    fieldsOrdered (putField key value fields) := by
  induction fields with
  | nil => simp [putField, fieldsOrdered, hv]
  | cons f rest ih =>
      obtain ⟨k, v⟩ := f
      simp only [fieldsOrdered, Bool.and_eq_true] at hf
      unfold putField
      split
      · simp [fieldsOrdered, hv, hf.1, hf.2]
      · split
        · simp [fieldsOrdered, hf.1, hf.2]
        · simp [fieldsOrdered, hf.1, ih hf.2]

theorem keysIncrease_cons_iff (k : String) (ks : List String) :
    keysIncrease (k :: ks) ↔ (∀ l ∈ ks.head?, k < l) ∧ keysIncrease ks := by
  cases ks with
  | nil => simp [keysIncrease]
  | cons l rest => simp [keysIncrease]

theorem head?_putField (key : String) (value : Json) (fields : List (String × Json)) (l : String)
    (h : l ∈ ((putField key value fields).map Prod.fst).head?) :
    l = key ∨ l ∈ (fields.map Prod.fst).head? := by
  cases fields with
  | nil => simp [putField] at h; exact .inl h.symm
  | cons f rest =>
      obtain ⟨k, v⟩ := f
      unfold putField at h
      split at h
      · simp at h; exact .inl h.symm
      · split at h
        · simp at h; exact .inr (by simp [h])
        · simp at h; exact .inr (by simp [h])

theorem keysIncrease_putField (key : String) (value : Json) (fields : List (String × Json))
    (h : keysIncrease (fields.map Prod.fst)) :
    keysIncrease ((putField key value fields).map Prod.fst) := by
  induction fields with
  | nil => simp [putField, keysIncrease]
  | cons f rest ih =>
      obtain ⟨k, v⟩ := f
      unfold putField
      split
      · next hlt => simpa [keysIncrease, hlt] using h
      · split
        · exact h
        · next hlt hne =>
            have hk : k < key := by
              refine Decidable.byContradiction fun hle => hne ?_
              exact String.le_antisymm (String.not_lt.mp hle) (String.not_lt.mp hlt)
            simp only [List.map_cons] at h ⊢
            rw [keysIncrease_cons_iff] at h ⊢
            refine ⟨fun l hl => ?_, ih h.2⟩
            rcases head?_putField key value rest l hl with rfl | hl
            · exact hk
            · exact h.1 l hl

mutual

theorem isOrdered_ordered : (j : Json) → j.ordered.isOrdered = true
  | .null | .bool _ | .integer _ | .float _ | .string _ => rfl
  | .array items => by simpa [ordered, isOrdered] using allOrdered_orderedItems items
  | .object fields => by
      simpa [ordered, isOrdered] using orderedFields_isOrdered fields

theorem allOrdered_orderedItems : (items : List Json) → allOrdered (orderedItems items) = true
  | [] => rfl
  | item :: rest => by
      simp [orderedItems, allOrdered, isOrdered_ordered item, allOrdered_orderedItems rest]

theorem orderedFields_isOrdered : (fields : List (String × Json)) →
    keysIncrease ((orderedFields fields).map Prod.fst) = true ∧
      fieldsOrdered (orderedFields fields) = true
  | [] => ⟨rfl, rfl⟩
  | (key, value) :: rest => by
      have ih := orderedFields_isOrdered rest
      exact ⟨keysIncrease_putField _ _ _ ih.1,
        fieldsOrdered_putField _ _ _ (isOrdered_ordered value) ih.2⟩

end

/-! ## Sameness -/

mutual

/-- The value with positive zero in place of each negative zero. -/
def unsignedZeros : Json → Json
  | .float x => .float x.unsignedZero
  | .array items => .array (unsignedZerosItems items)
  | .object fields => .object (unsignedZerosFields fields)
  | value => value

def unsignedZerosItems : List Json → List Json
  | [] => []
  | item :: rest => item.unsignedZeros :: unsignedZerosItems rest

def unsignedZerosFields : List (String × Json) → List (String × Json)
  | [] => []
  | (key, value) :: rest => (key, value.unsignedZeros) :: unsignedZerosFields rest

end

mutual

def decEq : (a b : Json) → Decidable (a = b)
  | .null, b => match b with
      | .null => .isTrue rfl
      | .bool _ | .integer _ | .float _ | .string _ | .array _ | .object _ => .isFalse nofun
  | .bool x, b => match b with
      | .bool y => if h : x = y then .isTrue (h ▸ rfl) else .isFalse fun e => h (by injection e)
      | .null | .integer _ | .float _ | .string _ | .array _ | .object _ => .isFalse nofun
  | .integer x, b => match b with
      | .integer y => if h : x = y then .isTrue (h ▸ rfl) else .isFalse fun e => h (by injection e)
      | .null | .bool _ | .float _ | .string _ | .array _ | .object _ => .isFalse nofun
  | .float x, b => match b with
      | .float y => if h : x = y then .isTrue (h ▸ rfl) else .isFalse fun e => h (by injection e)
      | .null | .bool _ | .integer _ | .string _ | .array _ | .object _ => .isFalse nofun
  | .string x, b => match b with
      | .string y => if h : x = y then .isTrue (h ▸ rfl) else .isFalse fun e => h (by injection e)
      | .null | .bool _ | .integer _ | .float _ | .array _ | .object _ => .isFalse nofun
  | .array x, b => match b with
      | .array y => match decEqItems x y with
          | .isTrue h => .isTrue (h ▸ rfl)
          | .isFalse h => .isFalse fun e => h (by injection e)
      | .null | .bool _ | .integer _ | .float _ | .string _ | .object _ => .isFalse nofun
  | .object x, b => match b with
      | .object y => match decEqFields x y with
          | .isTrue h => .isTrue (h ▸ rfl)
          | .isFalse h => .isFalse fun e => h (by injection e)
      | .null | .bool _ | .integer _ | .float _ | .string _ | .array _ => .isFalse nofun

def decEqItems : (a b : List Json) → Decidable (a = b)
  | [], b => match b with
      | [] => .isTrue rfl
      | _ :: _ => .isFalse nofun
  | x :: xs, b => match b with
      | [] => .isFalse nofun
      | y :: ys => match decEq x y, decEqItems xs ys with
          | .isTrue h, .isTrue h' => .isTrue (h ▸ h' ▸ rfl)
          | .isFalse h, _ => .isFalse fun e => h (by injection e)
          | _, .isFalse h => .isFalse fun e => h (by injection e)

def decEqFields : (a b : List (String × Json)) → Decidable (a = b)
  | [], b => match b with
      | [] => .isTrue rfl
      | _ :: _ => .isFalse nofun
  | (k, x) :: xs, b => match b with
      | [] => .isFalse nofun
      | (l, y) :: ys =>
          if hk : k = l then
            match decEq x y, decEqFields xs ys with
            | .isTrue h, .isTrue h' => .isTrue (hk ▸ h ▸ h' ▸ rfl)
            | .isFalse h, _ => .isFalse fun e => h (by injection e with e; injection e)
            | _, .isFalse h => .isFalse fun e => h (by injection e)
          else
            .isFalse fun e => hk (by injection e with e; injection e)

end

instance : DecidableEq Json := decEq

/-- Equal as data: the two zeros of floating point are one number. -/
def same (a b : Json) : Bool := a.unsignedZeros = b.unsignedZeros

end Json

/-! ## Values passed through -/

/-- A value whose objects are in key order. -/
structure Payload where
  json : Json
  isOrdered : json.isOrdered = true
  deriving DecidableEq

namespace Payload

def ofJson (j : Json) : Payload := ⟨j.ordered, j.isOrdered_ordered⟩

def emptyText : Payload := ⟨.string "", rfl⟩

instance : Inhabited Payload := ⟨emptyText⟩

end Payload

end BinaryCoverage
