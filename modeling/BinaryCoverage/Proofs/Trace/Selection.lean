import BinaryCoverage.Proofs.Files.Spelling
import BinaryCoverage.Proofs.Table
import BinaryCoverage.Proofs.Trace.Load
import Mathlib.Data.List.Sort
import Mathlib.Data.Set.Defs

/-!
# Traces that patterns select

Patterns select files, and it does not matter how often or in which order they do: the files are
read in the order of the components of their paths, each once.  This file defines:

* `TraceStore.Selects` — one of some patterns matches a path, and a file is there;
* `TraceStore.selected` — the components of the selected paths;
* `TraceStore.traces` — the texts of the selected files, as far as they can be read;
* `TraceStore.Lists` — a list has each of these texts once, in order;
* `TraceStore.LoadsOnce` — a store holds what these texts say, and nothing else;

and shows that loading fills such a store, or fails where nothing is selected (`load_once`).
-/

namespace BinaryCoverage.TraceStore

variable {read : Reader} {t : FileTree} {patterns : List String} {p q : Path}
  {cs : List Component}

/-! ## Selected files -/

/-- One of the patterns matches a path, and a file is there. -/
def Selects (t : FileTree) (patterns : List String) (p : Path) : Prop :=
  ∃ pattern ∈ patterns, ∃ g, Glob.read? pattern = some g ∧ p ∈ g.paths t ∧ t.isFile p

/-- The components of the selected paths. -/
def selected (t : FileTree) (patterns : List String) : Set (List Component) :=
  { cs | ∃ p, Selects t patterns p ∧ p.components = cs }

def AllValid (patterns : List String) : Prop := ∀ pattern ∈ patterns, (Glob.read? pattern).isSome

/-- The paths of files that one pattern matches. -/
def filesOf (t : FileTree) (pattern : String) : List Path :=
  (Glob.read? pattern).elim [] fun g => (g.paths t).filter t.isFile

theorem mem_filesOf_iff : p ∈ patterns.flatMap (filesOf t) ↔ Selects t patterns p := by
  rw [List.mem_flatMap]
  refine exists_congr fun pattern => and_congr_right fun _ => ?_
  unfold filesOf
  cases Glob.read? pattern with
  | none =>
      simp
  | some g =>
      simp

/-- The selected paths by their components, of which the first spelling is kept. -/
def selection (t : FileTree) (patterns : List String) : PathSet :=
  (patterns.flatMap (filesOf t)).foldl
    (fun found p => Table.putWith (fun old _ => old) found p.components p) ∅

theorem selectAll_eq (hvalid : AllValid patterns) (found : PathSet) :
    selectAll t found patterns =
      .ok ((patterns.flatMap (filesOf t)).foldl
        (fun found p => Table.putWith (fun old _ => old) found p.components p) found) := by
  induction patterns generalizing found with
  | nil =>
      rfl
  | cons pattern rest ih =>
      obtain ⟨g, hg⟩ := Option.isSome_iff_exists.1 (hvalid pattern List.mem_cons_self)
      have hrest : AllValid rest := fun q hq => hvalid q (List.mem_cons_of_mem pattern hq)
      have hfiles : filesOf t pattern = (g.paths t).filter t.isFile := by
        rw [filesOf, hg, Option.elim_some]
      rw [selectAll, select, hg, List.flatMap_cons, List.foldl_append, hfiles]
      exact ih hrest _

theorem getElem?_selection (t : FileTree) (patterns : List String) (cs : List Component) :
    (selection t patterns)[cs]? =
      (patterns.flatMap (filesOf t)).find? (·.components = cs) := by
  unfold selection
  rw [Table.getElem?_foldl_first Path.components]
  simp

theorem selects_of_getElem? (h : (selection t patterns)[cs]? = some p) :
    Selects t patterns p ∧ p.components = cs := by
  rw [getElem?_selection] at h
  have hmem : p ∈ patterns.flatMap (filesOf t) := List.mem_of_find?_eq_some h
  exact ⟨mem_filesOf_iff.1 hmem, by simpa using List.find?_some h⟩

theorem exists_of_selects (h : Selects t patterns p) :
    ∃ q, (selection t patterns)[p.components]? = some q := by
  rw [getElem?_selection, ← Option.isSome_iff_exists, List.find?_isSome]
  exact ⟨p, mem_filesOf_iff.2 h, by simp⟩

theorem isEmpty_selection_iff : (selection t patterns).isEmpty ↔ ∀ p, ¬ Selects t patterns p := by
  constructor
  · intro hempty p hp
    obtain ⟨q, hq⟩ := exists_of_selects hp
    rw [Std.ExtTreeMap.isEmpty_iff.1 hempty] at hq
    simp at hq
  · intro hnone
    rw [Std.ExtTreeMap.isEmpty_iff]
    ext1 cs
    cases hcs : (selection t patterns)[cs]? with
    | none =>
        simp
    | some p =>
        exact absurd (selects_of_getElem? hcs).1 (hnone p)

/-! ## Texts of selected files -/

theorem toOption_eq_some_iff {α : Type} {e : Except AccessError α} {a : α} :
    e.toOption = some a ↔ e = .ok a := by
  cases e <;> simp [Except.toOption]

/-- Two spellings of one path are read alike where both lead to a file. -/
def ReadsAlike (read : Reader) (t : FileTree) : Prop :=
  ∀ p q, t.isFile p → t.isFile q → p.components = q.components → read p = read q

theorem readsAlike_readText (t : FileTree) : ReadsAlike t.readText t :=
  fun _ _ hp hq h => FileTree.readText_eq_of_components h hp hq

/-- The texts of the selected files under the components of their paths; a file that cannot be read
as text has none. -/
def traces (read : Reader) (t : FileTree) (patterns : List String) :
    Set (List Component × String) :=
  { x | ∃ p, Selects t patterns p ∧ p.components = x.1 ∧ read p = .ok x.2 }

/-- A list has each of the texts once, in the order of the paths. -/
structure Lists (read : Reader) (t : FileTree) (patterns : List String)
    (entries : List (List Component × String)) : Prop where
  ordered : entries.Pairwise fun x y => compare x.1 y.1 = .lt
  mem_iff : ∀ x, x ∈ entries ↔ x ∈ traces read t patterns

/-- What is read from paths by their components. -/
def entriesOf (read : Reader) (found : PathSet) : List (List Component × String) :=
  found.toList.filterMap fun e => (read e.2).toOption.map (e.1, ·)

theorem Selects.isFile (h : Selects t patterns p) : t.isFile p := by
  obtain ⟨pattern, -, g, -, -, hfile⟩ := h
  exact hfile

theorem lists_entriesOf (hread : ReadsAlike read t) :
    Lists read t patterns (entriesOf read (selection t patterns)) where
  ordered := by
    refine List.Pairwise.filterMap _ ?_ Std.ExtTreeMap.ordered_keys_toList
    intro a b hab x hx y hy
    obtain ⟨text, -, rfl⟩ := Option.map_eq_some_iff.1 hx
    obtain ⟨text', -, rfl⟩ := Option.map_eq_some_iff.1 hy
    exact hab
  mem_iff := by
    rintro ⟨cs, text⟩
    simp only [entriesOf, List.mem_filterMap, Prod.exists,
      Std.ExtTreeMap.mem_toList_iff_getElem?_eq_some, Option.map_eq_some_iff, Prod.mk.injEq]
    constructor
    · rintro ⟨cs, p, hp, text, htext, rfl, rfl⟩
      obtain ⟨hselects, hcs⟩ := selects_of_getElem? hp
      exact ⟨p, hselects, hcs, toOption_eq_some_iff.1 htext⟩
    · rintro ⟨p, hselects, rfl, htext⟩
      -- The spelling that is kept is read as this one is.
      obtain ⟨q, hq⟩ := exists_of_selects hselects
      obtain ⟨hselects', hcs⟩ := selects_of_getElem? hq
      have hsame : read q = read p := hread q p hselects'.isFile hselects.isFile hcs
      exact ⟨p.components, q, hq, text, toOption_eq_some_iff.2 (hsame.trans htext), rfl, rfl⟩

/-- The texts tell the list of them. -/
theorem Lists.unique {read' : Reader} {t' : FileTree} {patterns' : List String}
    {entries entries' : List (List Component × String)} (h : Lists read t patterns entries)
    (h' : Lists read' t' patterns' entries')
    (hsame : traces read' t' patterns' = traces read t patterns) : entries' = entries := by
  -- The order is strict, and so a list is told by its members.
  have hantisymm : Std.Antisymm fun x y : List Component × String => compare x.1 y.1 = .lt :=
    ⟨fun _ _ hlt hgt => absurd hgt (Std.OrientedCmp.not_lt_of_lt hlt)⟩
  have hirrefl : Std.Irrefl fun x y : List Component × String => compare x.1 y.1 = .lt :=
    ⟨by simp⟩
  refine List.Pairwise.eq_of_mem_iff h'.ordered h.ordered ?_
  intro x
  rw [h'.mem_iff, hsame, h.mem_iff]

/-! ## Loading -/

def ingestAll (entries : List (List Component × String)) : TraceStore :=
  entries.foldl (fun s x => s.ingest x.2) {}

/-- A file that cannot be read changes nothing. -/
theorem foldl_ingestFile (read : Reader) (found : PathSet) :
    found.values.foldl (ingestFile read) {} = ingestAll (entriesOf read found) := by
  unfold ingestAll entriesOf
  rw [Table.values_eq, List.foldl_map, List.foldl_filterMap]
  congr 1
  funext s e
  unfold ingestFile
  cases read e.2 <;> rfl

theorem loadThrough_eq (hvalid : AllValid patterns) :
    loadThrough read t patterns =
      if (selection t patterns).isEmpty then .error (.noTraces none patterns)
      else .ok (ingestAll (entriesOf read (selection t patterns)),
        (selection t patterns).values.flatMap (fileNotices read)) := by
  rw [loadThrough, selectAll_eq hvalid, ← foldl_ingestFile]
  rfl

/-- The store that a load results in, if it does. -/
def store? (outcome : Except Failure (TraceStore × List Notice)) : Option TraceStore :=
  outcome.toOption.map (·.1)

/-- A load fails where nothing is selected, and otherwise takes in each readable text once. -/
structure LoadsOnce (read : Reader) (t : FileTree) (patterns : List String)
    (outcome : Except Failure (TraceStore × List Notice)) : Prop where
  fails_iff : outcome = .error (.noTraces none patterns) ↔ ∀ p, ¬ Selects t patterns p
  store : (∃ p, Selects t patterns p) → ∃ entries, Lists read t patterns entries ∧
    store? outcome = some (ingestAll entries)
  /-- The patterns may come in another order, and more than once. -/
  reordered : ∀ patterns', (∀ pattern, pattern ∈ patterns' ↔ pattern ∈ patterns) →
    store? (loadThrough read t patterns') = store? outcome
  /-- The patterns may overlap, and others may do that select the same. -/
  exchanged : ∀ patterns', AllValid patterns' → selected t patterns' = selected t patterns →
    store? (loadThrough read t patterns') = store? outcome
  /-- It does not matter which files cannot be read, in this tree or in another one. -/
  unreadable : ∀ read' t' patterns', AllValid patterns' → ReadsAlike read' t' →
    traces read' t' patterns' = traces read t patterns →
    ∀ s s', store? outcome = some s → store? (loadThrough read' t' patterns') = some s' → s' = s

theorem loadThrough_eq_error_iff (hvalid : AllValid patterns) :
    loadThrough read t patterns = .error (.noTraces none patterns) ↔
      ∀ p, ¬ Selects t patterns p := by
  rw [loadThrough_eq hvalid, ← isEmpty_selection_iff]
  cases (selection t patterns).isEmpty <;> simp

theorem store?_loadThrough (hvalid : AllValid patterns) (hread : ReadsAlike read t)
    {s : TraceStore} :
    store? (loadThrough read t patterns) = some s ↔
      (∃ p, Selects t patterns p) ∧ ∃ entries, Lists read t patterns entries ∧
        ingestAll entries = s := by
  have hlists : Lists read t patterns (entriesOf read (selection t patterns)) :=
    lists_entriesOf hread
  rw [loadThrough_eq hvalid]
  by_cases hnone : ∀ p, ¬ Selects t patterns p
  · rw [if_pos (isEmpty_selection_iff.2 hnone)]
    simp [store?, Except.toOption, hnone]
  · rw [if_neg fun h => hnone (isEmpty_selection_iff.1 h)]
    rw [not_forall_not] at hnone
    simp only [hnone, true_and]
    -- There is a list in both directions, and no two of them.
    constructor
    · intro h
      exact ⟨_, hlists, Option.some.inj h⟩
    · rintro ⟨entries, hentries, rfl⟩
      rw [hlists.unique hentries rfl]
      rfl

/-- What is read depends on the selected components alone. -/
theorem traces_congr {patterns' : List String} (hread : ReadsAlike read t)
    (h : selected t patterns' = selected t patterns) :
    traces read t patterns' = traces read t patterns := by
  have hsub : ∀ {ps qs : List String}, selected t ps = selected t qs →
      ∀ x ∈ traces read t ps, x ∈ traces read t qs := by
    rintro ps qs heq ⟨cs, text⟩ ⟨p, hp, rfl, htext⟩
    have hmem : p.components ∈ selected t qs := heq ▸ ⟨p, hp, rfl⟩
    obtain ⟨q, hq, hcs⟩ := hmem
    exact ⟨q, hq, hcs, (hread q p hq.isFile hp.isFile hcs).trans htext⟩
  exact Set.Subset.antisymm (hsub h) (hsub h.symm)

theorem exists_selects_iff : (∃ p, Selects t patterns p) ↔ (selected t patterns).Nonempty := by
  constructor
  · rintro ⟨p, hp⟩
    exact ⟨p.components, p, hp, rfl⟩
  · rintro ⟨cs, p, hp, -⟩
    exact ⟨p, hp⟩

theorem Lists.congr {patterns' : List String} {entries : List (List Component × String)}
    (h : Lists read t patterns entries)
    (hsame : traces read t patterns' = traces read t patterns) : Lists read t patterns' entries where
  ordered := h.ordered
  mem_iff := by
    rw [hsame]
    exact h.mem_iff

theorem store?_congr {patterns' : List String} (hvalid : AllValid patterns)
    (hvalid' : AllValid patterns') (hread : ReadsAlike read t)
    (h : selected t patterns' = selected t patterns) :
    store? (loadThrough read t patterns') = store? (loadThrough read t patterns) := by
  have hsame := traces_congr hread h
  apply Option.ext
  intro s
  rw [store?_loadThrough hvalid hread, store?_loadThrough hvalid' hread, exists_selects_iff,
    exists_selects_iff, h]
  refine and_congr_right fun _ => exists_congr fun entries => and_congr_left fun _ => ?_
  exact ⟨fun hentries => hentries.congr hsame.symm, fun hentries => hentries.congr hsame⟩

theorem selected_congr {patterns' : List String}
    (h : ∀ pattern, pattern ∈ patterns' ↔ pattern ∈ patterns) :
    selected t patterns' = selected t patterns := by
  unfold selected Selects
  simp only [h]

theorem loadsOnce (hvalid : AllValid patterns) (hread : ReadsAlike read t) :
    LoadsOnce read t patterns (loadThrough read t patterns) where
  fails_iff := loadThrough_eq_error_iff hvalid
  store := by
    intro hsome
    exact ⟨_, lists_entriesOf hread,
      (store?_loadThrough hvalid hread).2 ⟨hsome, _, lists_entriesOf hread, rfl⟩⟩
  reordered := by
    intro patterns' h
    have hvalid' : AllValid patterns' := fun pattern hp => hvalid pattern ((h pattern).1 hp)
    exact store?_congr hvalid hvalid' hread (selected_congr h)
  exchanged := by
    intro patterns' hvalid' h
    exact store?_congr hvalid hvalid' hread h
  unreadable := by
    intro read' t' patterns' hvalid' hread' hsame s s' hs hs'
    obtain ⟨-, entries, hentries, rfl⟩ := (store?_loadThrough hvalid hread).1 hs
    obtain ⟨-, entries', hentries', rfl⟩ := (store?_loadThrough hvalid' hread').1 hs'
    rw [hentries.unique hentries' hsame]

/-- Patterns that can be read load each trace which they select once, whatever their order, and
however the files are read, as long as two spellings of one path are read alike. -/
theorem load_once (t : FileTree) (patterns : List String) (hvalid : AllValid patterns) :
    LoadsOnce t.readText t patterns (load t patterns) ∧
      ∀ read, ReadsAlike read t → LoadsOnce read t patterns (loadThrough read t patterns) := by
  refine ⟨loadsOnce hvalid (readsAlike_readText t), ?_⟩
  intro read hread
  exact loadsOnce hvalid hread

/-- A trace, and a file that is no text. -/
def twoFiles : FileTree where
  entries := Table.build [(["a.log"], .file "1000 2 4\n".toUTF8 false),
    (["b.log"], .file ⟨#[255]⟩ false)]

theorem entry?_twoFiles :
    twoFiles.entry? ["a.log"] = some (.file "1000 2 4\n".toUTF8 false) ∧
      twoFiles.entry? ["b.log"] = some (.file ⟨#[255]⟩ false) := by
  simp [twoFiles, FileTree.entry?, Table.build, Std.ExtTreeMap.getElem_insert]

/-- The pattern that consists of the characters of a name matches the file of that name only. -/
theorem mem_filesOf_name_iff {name : String} {bytes : ByteArray} {executable : Bool}
    (hname : FileTree.isPlain name)
    (hentry : t.entry? (t.home ++ [name]) = some (.file bytes executable))
    (hglob : Glob.read? name = some ⟨false, [name.toList.map .char], false⟩)
    (hliteral : NamePattern.literal? (name.toList.map .char) = some name.toList) :
    p ∈ filesOf t name ↔ p = ⟨name⟩ := by
  rw [filesOf, hglob, Option.elim_some, Glob.paths_of_name hname hentry hliteral,
    List.filter_cons_of_pos (FileTree.isFile_name hname hentry), List.filter_nil,
    List.mem_singleton]

theorem selects_twoFiles :
    Selects twoFiles ["b.log", "a.log", "b.log"] p ↔ p = ⟨"a.log"⟩ ∨ p = ⟨"b.log"⟩ := by
  have hfirst : ∀ p, p ∈ filesOf twoFiles "a.log" ↔ p = ⟨"a.log"⟩ := fun p =>
    mem_filesOf_name_iff (by decide +kernel) entry?_twoFiles.1 (by rfl) (by decide +kernel)
  have hsecond : ∀ p, p ∈ filesOf twoFiles "b.log" ↔ p = ⟨"b.log"⟩ := fun p =>
    mem_filesOf_name_iff (by decide +kernel) entry?_twoFiles.2 (by rfl) (by decide +kernel)
  rw [← mem_filesOf_iff]
  simp only [List.flatMap_cons, List.flatMap_nil, List.mem_append, List.not_mem_nil, hfirst,
    hsecond]
  tauto

theorem readText_twoFiles :
    twoFiles.readText ⟨"a.log"⟩ = .ok "1000 2 4\n" ∧
      twoFiles.readText ⟨"b.log"⟩ = .error .notText := by
  constructor
  · exact FileTree.readText_name (by decide +kernel) entry?_twoFiles.1
  · have hread : twoFiles.read ⟨"b.log"⟩ = .ok ⟨#[255]⟩ :=
      FileTree.read_name (by decide +kernel) entry?_twoFiles.2
    have hnone : Text.ofBytes? ⟨#[255]⟩ = none := by
      decide +kernel
    rw [FileTree.readText, hread]
    dsimp only
    rw [hnone]

/-- Access to the trace is denied, however its path is spelled. -/
def withoutTrace : Reader := fun p =>
  if p.components = [.name "a.log"] then .error .permissionDenied else twoFiles.readText p

theorem readsAlike_withoutTrace : ReadsAlike withoutTrace twoFiles := by
  intro p q hp hq h
  unfold withoutTrace
  rw [h, readsAlike_readText twoFiles p q hp hq h]

theorem load_once_twoFiles :
    let patterns := ["b.log", "a.log", "b.log"]
    AllValid patterns ∧ ReadsAlike withoutTrace twoFiles ∧
      LoadsOnce twoFiles.readText twoFiles patterns (load twoFiles patterns) ∧
      store? (load twoFiles patterns) = some (({} : TraceStore).ingest "1000 2 4\n") ∧
      store? (loadThrough withoutTrace twoFiles patterns) = some {} := by
  intro patterns
  have hvalid : AllValid patterns := by
    unfold AllValid
    decide +kernel
  have hselects : ∃ p, Selects twoFiles patterns p := ⟨_, selects_twoFiles.2 (Or.inl rfl)⟩
  have hcomponents : Path.components ⟨"a.log"⟩ = [.name "a.log"] := by
    decide +kernel
  have hother : Path.components ⟨"b.log"⟩ ≠ [.name "a.log"] := by
    decide +kernel
  have hone : Lists twoFiles.readText twoFiles patterns [([.name "a.log"], "1000 2 4\n")] := by
    refine ⟨List.pairwise_singleton _ _, ?_⟩
    rintro ⟨cs, text⟩
    rw [List.mem_singleton, Prod.mk.injEq]
    constructor
    · rintro ⟨rfl, rfl⟩
      exact ⟨⟨"a.log"⟩, selects_twoFiles.2 (Or.inl rfl), hcomponents, readText_twoFiles.1⟩
    · rintro ⟨p, hp, rfl, htext⟩
      rcases selects_twoFiles.1 hp with rfl | rfl
      · rw [readText_twoFiles.1] at htext
        exact ⟨hcomponents, (Except.ok.inj htext).symm⟩
      · rw [readText_twoFiles.2] at htext
        cases htext
  have hnone : Lists withoutTrace twoFiles patterns [] := by
    refine ⟨List.Pairwise.nil, ?_⟩
    rintro ⟨cs, text⟩
    refine ⟨fun hx => absurd hx List.not_mem_nil, ?_⟩
    rintro ⟨p, hp, -, htext⟩
    rcases selects_twoFiles.1 hp with rfl | rfl
    · rw [withoutTrace, if_pos hcomponents] at htext
      cases htext
    · rw [withoutTrace, if_neg hother, readText_twoFiles.2] at htext
      cases htext
  obtain ⟨hloads, hthrough⟩ := load_once twoFiles patterns hvalid
  obtain ⟨entries, hentries, hstore⟩ := hloads.store hselects
  obtain ⟨denied, hdenied, hempty⟩ := (hthrough withoutTrace readsAlike_withoutTrace).store hselects
  rw [hone.unique hentries rfl] at hstore
  rw [hnone.unique hdenied rfl] at hempty
  exact ⟨hvalid, readsAlike_withoutTrace, hloads, hstore, hempty⟩

end BinaryCoverage.TraceStore
