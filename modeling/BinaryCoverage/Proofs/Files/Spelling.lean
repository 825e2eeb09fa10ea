import BinaryCoverage.Proofs.Files.Walk
import BinaryCoverage.Proofs.Path.Below

/-!
# Spellings of one path

Paths of the same components differ in silent pieces only.  A silent piece may keep a path from its
file, but it never leads to another one.  This file defines:

* `Path.Thins` — pieces of which some silent ones have been left out;

and shows that two paths of the same components which both lead to a file lead to the same one
(`FileTree.find_eq_of_components`).
-/

namespace BinaryCoverage

/-! ## Leaving out silent pieces -/

namespace Path

inductive Thins : List (List Char) → List (List Char) → Prop where
  | nil : Thins [] []
  | keep (w : List Char) {ws vs : List (List Char)} (h : Thins ws vs) : Thins (w :: ws) (w :: vs)
  | drop {w : List Char} {ws vs : List (List Char)} (hw : isSilent w) (h : Thins ws vs) :
      Thins (w :: ws) vs

namespace Thins

variable {ws vs : List (List Char)}

theorem append_left (h : Thins ws vs) (front : List (List Char)) :
    Thins (front ++ ws) (front ++ vs) := by
  induction front with
  | nil =>
      exact h
  | cons w front ih =>
      exact Thins.keep w ih

theorem filter (ws : List (List Char)) : Thins ws (ws.filter (!isSilent ·)) := by
  induction ws with
  | nil =>
      exact Thins.nil
  | cons w ws ih =>
      cases hw : isSilent w with
      | true =>
          rw [List.filter_cons_of_neg (by simp [hw])]
          exact Thins.drop hw ih
      | false =>
          rw [List.filter_cons_of_pos (by simp [hw])]
          exact Thins.keep w ih

theorem all (h : Thins ws vs) {p : List Char → Bool} (hall : ws.all p) : vs.all p := by
  induction h with
  | nil =>
      exact hall
  | keep w _ ih =>
      rw [List.all_cons, Bool.and_eq_true] at hall ⊢
      exact ⟨hall.1, ih hall.2⟩
  | drop _ _ ih =>
      rw [List.all_cons, Bool.and_eq_true] at hall
      exact ih hall.2

theorem eq_nil (h : Thins [] vs) : vs = [] := by
  cases h
  rfl

end Thins

/-! ## Pieces and components -/

theorem componentOf_injective : Function.Injective componentOf := by
  intro w v h
  unfold componentOf at h
  split at h <;> split at h
  · simp_all
  · cases h
  · cases h
  · exact String.ofList_injective (Component.name.inj h)

variable {p q : Path}

/-- The piece that says where a path starts names nothing. -/
theorem exists_silent_of_start (h : p.start ≠ .direct) :
    ∃ w ws, p.pieces = w :: ws ∧ isSilent w := by
  unfold start at h
  unfold pieces
  split at h
  · rename_i rest hchars
    rw [hchars]
    exact ⟨[], Text.pieces (· == '/') rest, rfl, rfl⟩
  · rename_i hchars
    rw [hchars]
    exact ⟨['.'], [], rfl, rfl⟩
  · rename_i rest hchars
    rw [hchars]
    exact ⟨['.'], Text.pieces (· == '/') rest, rfl, rfl⟩
  · exact absurd rfl h

theorem filter_pieces (p : Path) :
    p.pieces.filter (!isSilent ·) = p.body.filter (!isSilent ·) := by
  by_cases hstart : p.start = .direct
  · have hbody : p.body = p.pieces := by
      unfold body
      rw [hstart]
    rw [hbody]
  · obtain ⟨w, ws, hpieces, hw⟩ := exists_silent_of_start hstart
    have hbody : p.body = ws := by
      unfold body
      split
      · contradiction
      · rw [hpieces, List.drop_one, List.tail_cons]
    rw [hbody, hpieces, List.filter_cons_of_neg (by simp [hw])]

theorem mem_bodyComponents {c : Component} (h : c ∈ p.bodyComponents) :
    c ≠ .root ∧ c ≠ .current := by
  obtain ⟨w, -, rfl⟩ := List.mem_map.1 h
  unfold componentOf
  split <;> simp

theorem start_eq_of_components (h : p.components = q.components) : p.start = q.start := by
  have hroot : ∀ r : Path, Component.root ∉ r.bodyComponents :=
    fun r hr => (mem_bodyComponents hr).1 rfl
  have hcurrent : ∀ r : Path, Component.current ∉ r.bodyComponents :=
    fun r hr => (mem_bodyComponents hr).2 rfl
  have hfirst : ∀ c, c ∈ p.components ↔ c ∈ q.components := by
    intro c
    rw [h]
  have hp := hfirst .root
  have hq := hfirst .current
  -- Where a path starts is told by whether the root or a leading dot is among its components.
  unfold components at hp hq
  rw [List.mem_append, List.mem_append] at hp hq
  cases hstart : p.start <;> cases hstart' : q.start <;>
    simp_all [Start.components]

theorem filter_pieces_eq_of_components (h : p.components = q.components) :
    p.pieces.filter (!isSilent ·) = q.pieces.filter (!isSilent ·) := by
  have hstart := start_eq_of_components h
  unfold components at h
  rw [hstart, List.append_cancel_left_eq] at h
  rw [filter_pieces, filter_pieces]
  exact componentOf_injective.list_map h

end Path

namespace FileTree

open BinaryCoverage.Path (Thins)

variable {t : FileTree} {links : Nat} {here l : Path.Location} {ws vs : List (List Char)}

/-- A piece that says something is kept, and leads on as before. -/
theorem walk_of_thins (h : Thins ws vs) (hwalk : t.walk true links here ws = .ok l) :
    t.walk true links here vs = .ok l := by
  -- By the steps of the walk.  The steps that fail are left to the last case.
  fun_induction walk t true links here ws generalizing vs with
  | case1 links here =>
      rw [h.eq_nil, walk]
      exact hwalk
  | case2 links here w rest hw ih =>
      cases h with
      | keep _ h =>
          rw [walk, if_pos hw]
          exact ih h hwalk
      | drop _ h =>
          exact ih h hwalk
  | case3 links here rest hsilent ih =>
      cases h with
      | keep _ h =>
          rw [walk, if_neg hsilent, if_pos rfl]
          exact ih h hwalk
      | drop hw _ =>
          exact absurd hw hsilent
  | case5 links here w rest hsilent hup name next hfits hentry =>
      rename_i hrest
      cases h with
      | keep _ h =>
          rw [walk_missing _ _ _ _ hsilent hup (Nat.not_lt.1 hfits) hentry (h.all hrest)]
          exact hwalk
      | drop hw _ =>
          exact absurd hw hsilent
  | case7 links here w rest hsilent hup name next hfits hentry =>
      rename_i ih
      cases h with
      | keep _ h =>
          rw [walk_folder _ _ _ _ hsilent hup (Nat.not_lt.1 hfits) hentry]
          exact ih h hwalk
      | drop hw _ =>
          exact absurd hw hsilent
  | case8 links here w rest hsilent hup name next hfits bytes executable hentry =>
      rename_i hrest
      cases h with
      | keep _ h =>
          -- A file ends a path, so that nothing at all is left to be left out.
          rw [List.isEmpty_iff.1 hrest] at h
          rw [h.eq_nil, walk_file _ _ _ _ hsilent hup (Nat.not_lt.1 hfits) hentry]
          exact hwalk
      | drop hw _ =>
          exact absurd hw hsilent
  | case10 links here w rest hsilent hup name next hfits target hentry =>
      rename_i hstops
      simp at hstops
  | case12 here w rest hsilent hup name next hfits target hentry hthrough links =>
      rename_i ih
      cases h with
      | keep _ h =>
          -- The pieces of the target come before what is left, and stay as they are.
          rw [walk_link _ _ _ hsilent hup (Nat.not_lt.1 hfits) hentry]
          exact ih (h.append_left target.pieces) hwalk
      | drop hw _ =>
          exact absurd hw hsilent
  | _ =>
      cases hwalk

variable {p q : Path}

theorem walk_of_locate (h : t.locate true p = .ok l) :
    t.walk true linkLimit (if p.isAbsolute then [] else t.home) p.pieces = .ok l := by
  unfold locate at h
  split at h
  · cases h
  · split at h
    · cases h
    · split at h
      · cases h
      · exact h

theorem locate_eq_of_components {l' : Path.Location} (h : p.components = q.components)
    (hp : t.locate true p = .ok l) (hq : t.locate true q = .ok l') : l = l' := by
  have hstart := Path.start_eq_of_components h
  have habsolute : p.isAbsolute = q.isAbsolute := by
    unfold Path.isAbsolute
    rw [hstart]
  -- Without their silent pieces the two paths are the same, and so are their walks.
  have hwalk := walk_of_thins (Thins.filter p.pieces) (walk_of_locate hp)
  have hwalk' := walk_of_thins (Thins.filter q.pieces) (walk_of_locate hq)
  rw [Path.filter_pieces_eq_of_components h, habsolute, hwalk'] at hwalk
  exact (Except.ok.inj hwalk).symm

theorem exists_find_of_isFile (h : t.isFile p) :
    ∃ l bytes executable, t.locate true p = .ok l ∧
      t.find p = .ok (l, .file bytes executable) := by
  unfold isFile at h
  split at h
  · rename_i l bytes executable hfind
    refine ⟨l, bytes, executable, ?_, hfind⟩
    unfold find at hfind
    split at hfind
    · cases hfind
    · rename_i l' hlocate
      split at hfind
      · cases hfind
        exact hlocate
      · cases hfind
  · cases h

/-- Two spellings of one path that both lead to a file lead to the same one. -/
theorem find_eq_of_components (h : p.components = q.components) (hp : t.isFile p)
    (hq : t.isFile q) : t.find p = t.find q := by
  obtain ⟨l, bytes, executable, hlocate, hfind⟩ := exists_find_of_isFile hp
  obtain ⟨l', bytes', executable', hlocate', hfind'⟩ := exists_find_of_isFile hq
  have hl : l = l' := locate_eq_of_components h hlocate hlocate'
  have hsame : t.locate true p = t.locate true q := by
    rw [hlocate, hlocate', hl]
  unfold find
  rw [hsame]

theorem readText_eq_of_components (h : p.components = q.components) (hp : t.isFile p)
    (hq : t.isFile q) : t.readText p = t.readText q := by
  unfold readText read
  rw [find_eq_of_components h hp hq]

end FileTree

end BinaryCoverage
