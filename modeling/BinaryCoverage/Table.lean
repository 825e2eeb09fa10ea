import Std.Data.ExtTreeMap

/-!
# Tables

A table is a finite map whose entries come in the order of its keys, and two tables with the same
entries are equal.  Texts are ordered by code point and words by value.  This file defines:

* `Table.update` — get or create an entry and change it;
* `Table.unionWith` — the entries of two tables, with a rule for the keys that both have.
-/

namespace BinaryCoverage

abbrev Table (κ : Type) (α : Type) [Ord κ] : Type := Std.ExtTreeMap κ α compare

namespace Table

variable {κ α : Type} [Ord κ] [Std.TransOrd κ]

/-- Changes the entry at `k`, which starts as `fresh` where there is none. -/
def update (t : Table κ α) (k : κ) (fresh : α) (f : α → α) : Table κ α :=
  t.alter k fun entry => some (f (entry.getD fresh))

/-- The entry of `b` is put into `a`; where `a` has one already, `join` combines the two. -/
def putWith (join : α → α → α) (a : Table κ α) (k : κ) (v : α) : Table κ α :=
  a.alter k fun
    | none => some v
    | some u => some (join u v)

/-- The entries of both tables; `join` combines the two entries of a key that both have. -/
def unionWith (join : α → α → α) (a b : Table κ α) : Table κ α :=
  b.foldl (putWith join) a

/-- The entries of both tables, where the entry of `b` replaces that of `a`. -/
def override (a b : Table κ α) : Table κ α := unionWith (fun _ new => new) a b

/-- The entries of both tables, where the entry of `a` is kept. -/
def complete (a b : Table κ α) : Table κ α := unionWith (fun old _ => old) a b

/-- Builds a table; a later entry replaces an earlier one with the same key. -/
def build (entries : List (κ × α)) : Table κ α :=
  entries.foldl (fun t (k, v) => t.insert k v) ∅

theorem getElem?_putWith (join : α → α → α) (a : Table κ α) (k j : κ) (v : α) :
    (putWith join a k v)[j]? =
      if compare k j = .eq then some ((a[k]?).elim v (join · v)) else a[j]? := by
  unfold putWith
  rw [Std.ExtTreeMap.getElem?_alter]
  split
  · cases a[k]? <;> rfl
  · rfl

end Table

end BinaryCoverage
