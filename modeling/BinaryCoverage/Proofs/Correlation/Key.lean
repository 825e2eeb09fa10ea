import BinaryCoverage.Correlation.Mapping
import BinaryCoverage.Correlation.Search
import BinaryCoverage.Proofs.Path.Below

/-!
# Keys of source files

A source file has a path below the build root, which a transcript names, and a path below the local
root, which a search finds.  This file shows:

* `SourceMapping.keys_agree` — where both are the root and the same names, they have one key, which
  leads back to the local path and belongs to no other file;
* `SourceMapping.keyOfBuilt_alike_iff` — paths below the build root have one key when they are
  written alike, and the key of the local path when they are written as names alone.
-/

namespace BinaryCoverage.SourceMapping

open BinaryCoverage.Path (Location IsName IsBelow IsTrimmed Continues ofPieces)
open SourceSearch (pathBelow)

variable {m : SourceMapping} {p q : Path} {ws vs : List (List Char)} {l : Location}

/-! ## Keys -/

theorem keyOfBuilt_of_continues (h : Continues m.buildRoot ws p) :
    m.keyOfBuilt p = if m.relative then (ofPieces ws).text else p.text := by
  unfold keyOfBuilt
  rw [Path.stripPrefix?_of_continues h]
  rfl

theorem continues_pathBelow (root : Path) (h : ∀ n ∈ l, IsName n.toList) :
    Continues root (l.map String.toList) (pathBelow root l) := by
  have hnames : ∀ w ∈ l.map String.toList, IsName w := by
    simpa using h
  exact Path.continues_join root (IsTrimmed.of_names hnames) fun w hw => (hnames w hw).slashless

theorem keyOfLocal_pathBelow (h : ∀ n ∈ l, IsName n.toList) :
    m.keyOfLocal (pathBelow m.localRoot l) =
      if m.relative then (ofPieces (l.map String.toList)).text
      else (pathBelow m.buildRoot l).text := by
  unfold keyOfLocal
  rw [Path.stripPrefix?_of_continues (continues_pathBelow m.localRoot h)]
  rfl

theorem text_inj : p.text = q.text ↔ p = q := by
  cases p
  cases q
  simp

/-- The names that lead to a file are the only ones that give its key. -/
theorem keyOfBuilt_eq_iff (hp : Continues m.buildRoot ws p) (hq : Continues m.buildRoot vs q) :
    m.keyOfBuilt p = m.keyOfBuilt q ↔ if m.relative then ws = vs else p = q := by
  rw [keyOfBuilt_of_continues hp, keyOfBuilt_of_continues hq]
  split
  · rw [text_inj]
    exact Path.ofPieces_inj hp.isTrimmed hq.isTrimmed (Path.slashless_of_continues hp)
      (Path.slashless_of_continues hq)
  · exact text_inj

/-! ## Roots and names -/

theorem keyOfBuilt_pathBelow (h : ∀ n ∈ l, IsName n.toList) :
    m.keyOfBuilt (pathBelow m.buildRoot l) = m.keyOfLocal (pathBelow m.localRoot l) := by
  rw [keyOfBuilt_of_continues (continues_pathBelow m.buildRoot h), keyOfLocal_pathBelow h]

/-- The key of a file leads to it from the local root. -/
theorem localPath_keyOfLocal (habsolute : m.buildRoot.isAbsolute) (h : ∀ n ∈ l, IsName n.toList) :
    m.localPath (m.keyOfLocal (pathBelow m.localRoot l)) = pathBelow m.localRoot l := by
  have hbelow := continues_pathBelow m.buildRoot h
  rw [keyOfLocal_pathBelow h]
  unfold localPath
  split
  · -- A relative key begins with a name.
    have hdirect : (ofPieces (l.map String.toList)).start = .direct :=
      Path.start_ofPieces hbelow.isTrimmed (Path.slashless_of_continues hbelow)
    have hrelative : (ofPieces (l.map String.toList)).isAbsolute = false := by
      simp [Path.isAbsolute, hdirect]
    simp only [hrelative]
    rfl
  · have hkey : (pathBelow m.buildRoot l).isAbsolute = true := by
      rw [Path.isAbsolute, hbelow.start_eq]
      exact habsolute
    simp only [hkey, if_true, Path.stripPrefix?_of_continues hbelow]
    rfl

/-- However the roots are written: the path of a file below the build root and that below the local
root have the same key, that key leads to the local path, and no other file has it. -/
theorem keys_agree (m : SourceMapping) (habsolute : m.buildRoot.isAbsolute) (l : Location)
    (hl : ∀ n ∈ l, IsName n.toList) :
    m.keyOfBuilt (pathBelow m.buildRoot l) = m.keyOfLocal (pathBelow m.localRoot l) ∧
    m.localPath (m.keyOfBuilt (pathBelow m.buildRoot l)) = pathBelow m.localRoot l ∧
    ∀ l' : Location, (∀ n ∈ l', IsName n.toList) →
      m.keyOfBuilt (pathBelow m.buildRoot l') = m.keyOfBuilt (pathBelow m.buildRoot l) →
      l' = l := by
  refine ⟨keyOfBuilt_pathBelow hl, ?_, fun l' hl' hkeys => ?_⟩
  · rw [keyOfBuilt_pathBelow hl]
    exact localPath_keyOfLocal habsolute hl
  · have hbelow := continues_pathBelow m.buildRoot hl
    have hbelow' := continues_pathBelow m.buildRoot hl'
    have hpieces : l'.map String.toList = l.map String.toList := by
      rw [keyOfBuilt_eq_iff hbelow' hbelow] at hkeys
      split at hkeys
      · exact hkeys
      · -- Equal paths leave the same below the root.
        have hrest := Path.stripPrefix?_of_continues hbelow
        rw [← hkeys, Path.stripPrefix?_of_continues hbelow', Option.some.injEq] at hrest
        exact (Path.ofPieces_inj hbelow'.isTrimmed hbelow.isTrimmed
          (Path.slashless_of_continues hbelow') (Path.slashless_of_continues hbelow)).1 hrest
    exact List.map_injective_iff.2 (fun _ _ h => String.toList_injective h) hpieces

/-- The local root lies in the build root, and both end in slashes. -/
theorem keys_agree_nestedRoots :
    let m : SourceMapping := ⟨⟨"/work//tf-a/"⟩, ⟨"/work/tf-a/./local/"⟩, false⟩
    m.buildRoot.isAbsolute ∧ (∀ n ∈ ["lib", "x.S"], IsName n.toList) ∧
    m.keyOfLocal ⟨"/work/tf-a/./local/lib/x.S"⟩ = "/work//tf-a/lib/x.S" ∧
    m.keyOfBuilt (pathBelow m.buildRoot ["lib", "x.S"]) =
      m.keyOfLocal (pathBelow m.localRoot ["lib", "x.S"]) := by
  intro m
  have habsolute : m.buildRoot.isAbsolute := by
    decide +kernel
  have hnames : ∀ n ∈ ["lib", "x.S"], IsName n.toList := by
    decide +kernel
  exact ⟨habsolute, hnames, by decide +kernel, (keys_agree m habsolute ["lib", "x.S"] hnames).1⟩

/-! ## Ways of writing -/

theorem keyOfBuilt_eq_keyOfLocal_iff (hp : Continues m.buildRoot ws p)
    (hl : ∀ n ∈ l, IsName n.toList) :
    m.keyOfBuilt p = m.keyOfLocal (pathBelow m.localRoot l) ↔
      if m.relative then ws = l.map String.toList else p = pathBelow m.buildRoot l := by
  rw [← keyOfBuilt_pathBelow hl]
  exact keyOfBuilt_eq_iff hp (continues_pathBelow m.buildRoot hl)

/-- A path with the key of a local file leads to its names from the build root. -/
theorem follow_of_keyOfBuilt_eq (hp : Continues m.buildRoot ws p) (hl : ∀ n ∈ l, IsName n.toList)
    (hkey : m.keyOfBuilt p = m.keyOfLocal (pathBelow m.localRoot l)) (here : Location) :
    Path.follow here p.components = Path.follow here m.buildRoot.components ++ l := by
  rw [keyOfBuilt_eq_keyOfLocal_iff hp hl] at hkey
  split at hkey
  · subst hkey
    exact Path.follow_of_continues hp hl here
  · rw [hkey]
    exact Path.follow_of_continues (continues_pathBelow m.buildRoot hl) hl here

/-- Two paths below the build root have the same key when they are written alike: where keys are
relative, from the first piece below the root that is not silent to the last one, and else as a
whole.  Their key is that of a file below the local root when they are written as the names that
lead to it, and then they do lead to it from the build root. -/
theorem keyOfBuilt_alike_iff (m : SourceMapping) {p q : Path} (hp : IsBelow m.buildRoot p)
    (hq : IsBelow m.buildRoot q) :
    ∃ ws vs, Continues m.buildRoot ws p ∧ Continues m.buildRoot vs q ∧
      (m.keyOfBuilt p = m.keyOfBuilt q ↔ if m.relative then ws = vs else p = q) ∧
      ∀ l : Location, (∀ n ∈ l, IsName n.toList) →
        (m.keyOfBuilt p = m.keyOfLocal (pathBelow m.localRoot l) ↔
          if m.relative then ws = l.map String.toList else p = pathBelow m.buildRoot l) ∧
        (m.keyOfBuilt p = m.keyOfLocal (pathBelow m.localRoot l) → ∀ here,
          Path.follow here p.components = Path.follow here m.buildRoot.components ++ l) := by
  obtain ⟨ws, hws⟩ := Path.isBelow_iff.1 hp
  obtain ⟨vs, hvs⟩ := Path.isBelow_iff.1 hq
  exact ⟨ws, vs, hws, hvs, keyOfBuilt_eq_iff hws hvs, fun l hl =>
    ⟨keyOfBuilt_eq_keyOfLocal_iff hws hl, follow_of_keyOfBuilt_eq hws hl⟩⟩

/-- Silent pieces right below the root and at the end make no difference to relative keys. -/
theorem keyOfBuilt_alike_iff_silentEnds :
    let m : SourceMapping := ⟨⟨"/work"⟩, ⟨"tree"⟩, true⟩
    let p : Path := ⟨"/work/.//lib/f.c"⟩
    let q : Path := ⟨"//work/lib/f.c/."⟩
    IsBelow m.buildRoot p ∧ IsBelow m.buildRoot q ∧ (∀ n ∈ ["lib", "f.c"], IsName n.toList) ∧
    ∃ ws vs, Continues m.buildRoot ws p ∧ Continues m.buildRoot vs q ∧ ws = vs ∧
      ws = ["lib".toList, "f.c".toList] ∧
      Path.follow [] p.components = ["work", "lib", "f.c"] := by
  intro m p q
  have hp : IsBelow m.buildRoot p := by
    decide +kernel
  have hq : IsBelow m.buildRoot q := by
    decide +kernel
  have hnames : ∀ n ∈ ["lib", "f.c"], IsName n.toList := by
    decide +kernel
  have hsame : m.keyOfBuilt p = m.keyOfBuilt q := by
    decide +kernel
  have hlocal : m.keyOfBuilt p = m.keyOfLocal (pathBelow m.localRoot ["lib", "f.c"]) := by
    decide +kernel
  obtain ⟨ws, vs, hws, hvs, halike, hfile⟩ := keyOfBuilt_alike_iff m hp hq
  obtain ⟨hwritten, hleads⟩ := hfile ["lib", "f.c"] hnames
  have hroot : Path.follow [] m.buildRoot.components = ["work"] := by
    decide +kernel
  have hfollow := hleads hlocal []
  rw [hroot] at hfollow
  exact ⟨hp, hq, hnames, ws, vs, hws, hvs, halike.1 hsame, hwritten.1 hlocal, hfollow⟩

/-- A slash more, a dot or a detour between the names gives the same file another key. -/
theorem keyOfBuilt_spellings_differ :
    let m : SourceMapping := ⟨⟨"/work"⟩, ⟨"tree"⟩, true⟩
    let p : Path := ⟨"/work/lib/f.c"⟩
    ∀ q ∈ [Path.mk "/work/lib//f.c", ⟨"/work/lib/./f.c"⟩, ⟨"/work/lib/x/../f.c"⟩],
      IsBelow m.buildRoot q ∧ Path.follow [] q.components = Path.follow [] p.components ∧
        m.keyOfBuilt q ≠ m.keyOfBuilt p ∧
        m.keyOfBuilt q ≠ m.keyOfLocal (pathBelow m.localRoot ["lib", "f.c"]) := by
  decide +kernel

end BinaryCoverage.SourceMapping
