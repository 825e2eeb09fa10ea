import BinaryCoverage.Path.Basic
import BinaryCoverage.Proofs.Text.Lines
import Mathlib.Data.List.DropRight
import Mathlib.Data.List.TakeWhile

/-!
# Paths below a path

A path below another one begins with the components of that one.  This file defines:

* `Path.IsBelow` — the components of `base` come first in a path;
* `Path.Continues` — after them the path is written as given pieces, apart from silent pieces before
  and after these;
* `Path.IsName` — a piece that is the name of a file or a folder;
* `Path.ofPieces` — the path of pieces between single slashes;

and shows that these pieces are what is left of the path below `base` (`stripPrefix?_of_continues`),
and that joining puts them there (`continues_join`).
-/

namespace BinaryCoverage.Path

/-- The components that pieces after the start of a path name. -/
def named (ws : List (List Char)) : List Component := (ws.filter (!isSilent ·)).map componentOf

/-- The components of `base` come first in `p`. -/
def IsBelow (base p : Path) : Prop :=
  p.start = base.start ∧ base.bodyComponents <+: p.bodyComponents

instance (base p : Path) : Decidable (IsBelow base p) := inferInstanceAs (Decidable (_ ∧ _))

/-- Neither the first nor the last of the pieces is silent. -/
structure IsTrimmed (ws : List (List Char)) : Prop where
  first : ∀ w ∈ ws.head?, isSilent w = false
  last : ∀ w ∈ ws.getLast?, isSilent w = false

/-- After the components of `base` the path is written as `ws`; more silent pieces may stand before
and after these. -/
structure Continues (base : Path) (ws : List (List Char)) (p : Path) : Prop where
  start_eq : p.start = base.start
  isTrimmed : IsTrimmed ws
  body_eq : ∃ front back, p.body = front ++ ws ++ back ∧ named front = base.bodyComponents ∧
    ∀ w ∈ back, isSilent w = true

/-- The name of a file or a folder. -/
structure IsName (w : List Char) : Prop where
  isNamed : isSilent w = false
  ne_parent : w ≠ ['.', '.']
  slashless : '/' ∉ w

instance : DecidablePred IsName := fun w =>
  decidable_of_iff (isSilent w = false ∧ w ≠ ['.', '.'] ∧ '/' ∉ w)
    ⟨fun ⟨hnamed, hparent, hslash⟩ => ⟨hnamed, hparent, hslash⟩,
      fun h => ⟨h.isNamed, h.ne_parent, h.slashless⟩⟩

/-- The path of pieces that follow one another directly. -/
def ofPieces (ws : List (List Char)) : Path := ofChars (joinPieces ws)

variable {base p q : Path} {ws vs front back : List (List Char)}

/-! ## Pieces -/

theorem chars_ofChars (cs : List Char) : (ofChars cs).chars = cs :=
  String.toList_ofList

theorem ofChars_chars (p : Path) : ofChars p.chars = p := by
  simp [ofChars, chars]

theorem joinPieces_cons (w : List Char) (h : ws ≠ []) :
    joinPieces (w :: ws) = w ++ '/' :: joinPieces ws := by
  cases ws with
  | nil =>
      exact absurd rfl h
  | cons v ws =>
      rfl

theorem pieces_joinPieces (hne : ws ≠ []) (h : ∀ w ∈ ws, '/' ∉ w) :
    Text.pieces (· == '/') (joinPieces ws) = ws := by
  induction ws with
  | nil =>
      exact absurd rfl hne
  | cons w ws ih =>
      have hw : Text.pieces (· == '/') w = [w] :=
        Text.pieces_of_forall_not fun c hc => by
          simpa using fun hslash : c = '/' => h w (by simp) (hslash ▸ hc)
      by_cases hws : ws = []
      · subst hws
        exact hw
      · rw [joinPieces_cons w hws, Text.pieces_append_cons (by decide), hw,
          ih hws fun v hv => h v (by simp [hv])]
        rfl

theorem exists_pieces_eq_cons (cs : List Char) : ∃ w ws, Text.pieces (· == '/') cs = w :: ws :=
  List.exists_cons_of_ne_nil (Text.pieces_ne_nil cs)

theorem slashless_of_mem_pieces {cs w : List Char} (h : w ∈ Text.pieces (· == '/') cs) :
    '/' ∉ w := by
  induction cs generalizing w with
  | nil =>
      simp [Text.pieces] at h
      simp [h]
  | cons c cs ih =>
      obtain ⟨v, vs, hcs⟩ := exists_pieces_eq_cons cs
      by_cases hc : c = '/'
      · subst hc
        simp only [Text.pieces, beq_self_eq_true, if_true, List.mem_cons] at h
        rcases h with rfl | h
        · simp
        · exact ih h
      · rw [Text.pieces_cons_of_not (by simpa using hc) hcs, List.mem_cons] at h
        rcases h with rfl | h
        · simp only [List.mem_cons, not_or]
          exact ⟨Ne.symm hc, ih (hcs ▸ List.mem_cons_self)⟩
        · exact ih (hcs ▸ List.mem_cons_of_mem v h)

theorem mem_pieces_of_mem_body {w : List Char} (h : w ∈ p.body) : w ∈ p.pieces := by
  unfold body at h
  split at h
  · exact h
  · exact List.mem_of_mem_drop h

theorem slashless_of_continues (h : Continues base ws p) : ∀ w ∈ ws, '/' ∉ w := by
  obtain ⟨front, back, hbody, -, -⟩ := h.body_eq
  intro w hw
  have hmem : w ∈ p.body := by
    simp [hbody, hw]
  exact slashless_of_mem_pieces (mem_pieces_of_mem_body hmem)

theorem named_append (ws vs : List (List Char)) : named (ws ++ vs) = named ws ++ named vs := by
  simp [named]

theorem named_cons_of_silent {w : List Char} (h : isSilent w = true) (ws : List (List Char)) :
    named (w :: ws) = named ws := by
  simp [named, h]

theorem named_cons_of_not_silent {w : List Char} (h : isSilent w = false) (ws : List (List Char)) :
    named (w :: ws) = componentOf w :: named ws := by
  simp [named, h]

theorem named_of_silent (h : ∀ w ∈ ws, isSilent w = true) : named ws = [] := by
  simpa [named, List.filter_eq_nil_iff] using h

theorem named_append_silent (ws : List (List Char)) (h : ∀ w ∈ vs, isSilent w = true) :
    named (ws ++ vs) = named ws := by
  rw [named_append, named_of_silent h, List.append_nil]

/-! ## Trimming -/

theorem trimPieces_append_silent (h : ∀ w ∈ back, isSilent w = true) :
    trimPieces (ws ++ back) = trimPieces ws := by
  unfold trimPieces
  rw [List.reverse_append, List.dropWhile_append_of_pos]
  simpa using h

theorem IsTrimmed.trimPieces_eq (h : IsTrimmed ws) : trimPieces ws = ws := by
  unfold trimPieces
  rcases List.eq_nil_or_concat ws with rfl | ⟨ws, w, rfl⟩
  · rfl
  · have hlast : isSilent w = false := h.last w (by simp)
    simp [hlast]

theorem IsTrimmed.dropWhile_append (h : IsTrimmed ws) (hback : ∀ w ∈ back, isSilent w = true) :
    trimPieces ((ws ++ back).dropWhile isSilent) = ws := by
  cases ws with
  | nil =>
      have hnothing : back.dropWhile isSilent = [] := List.dropWhile_eq_nil_iff.2 hback
      rw [List.nil_append, hnothing]
      rfl
  | cons w ws =>
      have hfirst : isSilent w = false := h.first w rfl
      rw [List.cons_append, List.dropWhile_cons_of_neg (by simp [hfirst]), ← List.cons_append,
        trimPieces_append_silent hback, h.trimPieces_eq]

/-- Dropping as many names as `front` has leaves what follows it, and silent pieces before that. -/
theorem dropWhile_dropNames (front rest : List (List Char)) :
    (dropNames (named front).length (front ++ rest)).dropWhile isSilent =
      rest.dropWhile isSilent := by
  induction front with
  | nil =>
      simp [named, dropNames]
  | cons w front ih =>
      by_cases hw : isSilent w = true
      · rw [named_cons_of_silent hw]
        cases hcount : (named front).length with
        | zero =>
            -- All of `front` is silent and is dropped with what follows.
            rw [hcount, dropNames] at ih
            rw [dropNames, List.cons_append, List.dropWhile_cons_of_pos hw, ih]
        | succ n =>
            rw [hcount] at ih
            rw [List.cons_append, dropNames, if_pos hw]
            exact ih
      · rw [Bool.not_eq_true] at hw
        rw [named_cons_of_not_silent hw, List.length_cons, List.cons_append, dropNames,
          if_neg (by simp [hw])]
        exact ih

/-! ## Starts -/

theorem start_of_slashless_head (hchars : p.chars.head? ≠ some '/')
    (hdot : ∀ rest, p.chars = '.' :: rest → rest ≠ [] ∧ rest.head? ≠ some '/') :
    p.start = .direct := by
  unfold start
  split
  · rename_i heq
    simp [heq] at hchars
  · rename_i heq
    exact absurd rfl (hdot [] heq).1
  · rename_i rest heq
    exact absurd rfl (hdot ('/' :: rest) heq).2
  · rfl

/-- Pieces the first of which is not silent begin with a name of their own. -/
theorem start_ofPieces (h : IsTrimmed ws) (hslash : ∀ w ∈ ws, '/' ∉ w) :
    (ofPieces ws).start = .direct := by
  cases ws with
  | nil =>
      decide
  | cons w ws =>
      have hfirst : isSilent w = false := h.first w rfl
      have hw : '/' ∉ w := hslash w List.mem_cons_self
      obtain ⟨after, hchars⟩ : ∃ after, (ofPieces (w :: ws)).chars = w ++ after ∧
          (after = [] ∨ after.head? = some '/') := by
        unfold ofPieces
        rw [chars_ofChars]
        cases ws with
        | nil =>
            exact ⟨[], by simp [joinPieces], Or.inl rfl⟩
        | cons v ws =>
            exact ⟨'/' :: joinPieces (v :: ws), rfl, Or.inr rfl⟩
      cases w with
      | nil =>
          simp [isSilent] at hfirst
      | cons c cs =>
          simp only [List.mem_cons, not_or] at hw
          refine start_of_slashless_head ?_ ?_
          · rw [hchars.1]
            simpa using Ne.symm hw.1
          · intro rest hrest
            rw [hchars.1, List.cons_append, List.cons.injEq] at hrest
            obtain ⟨rfl, rfl⟩ := hrest
            -- A dot alone would be silent, so that another character follows it.
            cases cs with
            | nil =>
                simp [isSilent] at hfirst
            | cons d cs =>
                simp only [List.mem_cons, not_or] at hw
                exact ⟨by simp, by simpa using Ne.symm hw.2.1⟩

theorem start_append {cs tail : List Char} (hne : cs ≠ [])
    (htail : cs.getLast? = some '/' ∨ ∃ t, tail = '/' :: t) :
    (ofChars (cs ++ tail)).start = (ofChars cs).start := by
  unfold start
  rw [chars_ofChars, chars_ofChars]
  match cs with
  | [] =>
      exact absurd rfl hne
  | ['.'] =>
      rcases htail with hlast | ⟨t, rfl⟩
      · simp at hlast
      · rfl
  | '/' :: cs =>
      rfl
  | '.' :: '/' :: cs =>
      rfl
  | [c] =>
      rcases htail with hlast | ⟨t, rfl⟩
      · simp at hlast
        subst hlast
        rfl
      · by_cases hslash : c = '/'
        · subst hslash
          rfl
        · by_cases hdot : c = '.'
          · subst hdot
            rfl
          · simp [hslash, hdot]
  | c :: d :: cs =>
      by_cases hslash : c = '/'
      · subst hslash
        rfl
      · by_cases hdot : c = '.'
        · subst hdot
          by_cases hd : d = '/'
          · subst hd
            rfl
          · simp [hd]
        · simp [hslash, hdot]

/-! ## Joining -/

theorem pieces_ne_nil (p : Path) : p.pieces ≠ [] :=
  Text.pieces_ne_nil p.chars

/-- A joined path has the pieces of the first path, without an empty last one, and then those of
the second. -/
theorem join_spec (hq : q.start = .direct) (hbase : base.chars ≠ []) :
    (base.join q).start = base.start ∧ ∃ front, front ≠ [] ∧
      (base.join q).pieces = front ++ q.pieces ∧
      (base.pieces = front ∨ base.pieces = front ++ [[]]) := by
  have hrelative : q.isAbsolute = false := by
    simp [isAbsolute, hq]
  have hempty : base.chars.isEmpty = false := by
    simpa using hbase
  have hofChars := ofChars_chars base
  -- A slash at the end of `base` is the one between the two; its last piece is empty then.
  by_cases hlast : base.chars.getLast? = some '/'
  · have hjoin : base.join q = ofChars (base.chars ++ q.chars) := by
      unfold join
      rw [if_neg (by simp [hrelative]), if_pos (by simp [hlast])]
      simp [ofChars, chars, String.ofList_append]
    obtain ⟨cs, hcs⟩ := List.getLast?_eq_some_iff.1 hlast
    have hpieces : ∀ tail, Text.pieces (· == '/') (base.chars ++ tail) =
        Text.pieces (· == '/') cs ++ Text.pieces (· == '/') tail := by
      intro tail
      rw [hcs, List.append_assoc, List.singleton_append, Text.pieces_append_cons (by decide)]
    refine ⟨?_, Text.pieces (· == '/') cs, Text.pieces_ne_nil cs, ?_, Or.inr ?_⟩
    · rw [hjoin, start_append hbase (Or.inl hlast), hofChars]
    · rw [hjoin, pieces, chars_ofChars, hpieces]
      rfl
    · have hnothing := hpieces []
      rw [List.append_nil] at hnothing
      exact hnothing
  · have hjoin : base.join q = ofChars (base.chars ++ '/' :: q.chars) := by
      unfold join
      rw [if_neg (by simp [hrelative]), if_neg (by simp [hempty, hlast])]
      have htext : String.ofList ('/' :: q.chars) = "/" ++ q.text := by
        simp [chars, String.ofList_cons]
      rw [ofChars, String.ofList_append, htext, ← String.append_assoc]
      simp [chars]
    refine ⟨?_, base.pieces, base.pieces_ne_nil, ?_, Or.inl rfl⟩
    · rw [hjoin, start_append hbase (Or.inr ⟨q.chars, rfl⟩), hofChars]
    · rw [hjoin, pieces, chars_ofChars, Text.pieces_append_cons (by decide)]
      rfl

theorem pieces_ofPieces (hslash : ∀ w ∈ ws, '/' ∉ w) :
    (ofPieces ws).pieces = if ws = [] then [[]] else ws := by
  unfold pieces ofPieces
  rw [chars_ofChars]
  split
  · rename_i hws
    subst hws
    rfl
  · rename_i hws
    exact pieces_joinPieces hws hslash

/-- What is joined to a path comes after its components. -/
theorem continues_join (base : Path) (h : IsTrimmed ws) (hslash : ∀ w ∈ ws, '/' ∉ w) :
    Continues base ws (base.join (ofPieces ws)) := by
  have hdirect := start_ofPieces h hslash
  -- An empty path has one piece, which is silent.
  obtain ⟨back, hback, hsilent⟩ : ∃ back, (ofPieces ws).pieces = ws ++ back ∧
      ∀ w ∈ back, isSilent w = true := by
    rw [pieces_ofPieces hslash]
    split
    · rename_i hws
      exact ⟨[[]], by simp [hws], by simp [isSilent]⟩
    · exact ⟨[], by simp, by simp⟩
  by_cases hbase : base.chars = []
  · have hjoin : base.join (ofPieces ws) = ofPieces ws := by
      have htext : base.text = "" := by
        simpa [chars] using hbase
      simp [join, isAbsolute, hdirect, hbase, htext]
    have hstart : base.start = .direct := by
      simp [start, hbase]
    have hnothing : base.bodyComponents = [] := by
      simp [bodyComponents, body, hstart, pieces, hbase, Text.pieces, isSilent]
    refine ⟨?_, h, [], back, ?_, ?_, hsilent⟩
    · rw [hjoin, hdirect, hstart]
    · rw [hjoin, body, hdirect]
      exact hback
    · rw [hnothing]
      rfl
  · obtain ⟨hstart, front, hfront, hpieces, hnames⟩ := join_spec hdirect hbase
    obtain ⟨w, front, rfl⟩ := List.exists_cons_of_ne_nil hfront
    rw [hback] at hpieces
    -- The start of `base` takes its first piece or none, and that of the joined path does the same.
    cases hkind : base.start with
    | direct =>
        refine ⟨hstart, h, w :: front, back, ?_, ?_, hsilent⟩
        · rw [body, hstart, hkind]
          simpa using hpieces
        · rw [bodyComponents, body, hkind]
          rcases hnames with hnames | hnames
          · rw [hnames]
            rfl
          · rw [hnames]
            exact (named_append_silent (w :: front) (by simp [isSilent])).symm
    | root | current =>
        refine ⟨hstart, h, front, back, ?_, ?_, hsilent⟩
        · rw [body, hstart, hkind]
          simp [hpieces]
        · rw [bodyComponents, body, hkind]
          rcases hnames with hnames | hnames
          · rw [hnames]
            rfl
          · rw [hnames]
            exact (named_append_silent front (by simp [isSilent])).symm

/-! ## Below a path -/

theorem bodyComponents_of_continues (h : Continues base ws p) :
    p.bodyComponents = base.bodyComponents ++ named ws := by
  obtain ⟨front, back, hbody, hnames, hsilent⟩ := h.body_eq
  have hp : p.bodyComponents = named p.body := rfl
  rw [hp, hbody, named_append_silent _ hsilent, named_append, hnames]

/-- A path that starts with its names has no silent piece first, unless it is empty. -/
theorem body_of_direct (hstart : p.start = .direct) :
    p.body = [[]] ∨ ∀ w ∈ p.body.head?, isSilent w = false := by
  rw [body, hstart]
  change p.pieces = [[]] ∨ ∀ w ∈ p.pieces.head?, isSilent w = false
  unfold start at hstart
  unfold pieces
  match hchars : p.chars with
  | [] =>
      exact Or.inl rfl
  | c :: cs =>
      right
      rw [hchars] at hstart
      obtain ⟨v, vs, hcs⟩ := exists_pieces_eq_cons cs
      have hslash : c ≠ '/' := by
        rintro rfl
        cases hstart
      rw [Text.pieces_cons_of_not (by simpa using hslash) hcs]
      intro w hw
      rw [List.head?_cons, Option.mem_some] at hw
      subst hw
      by_contra hsilent
      -- The only silent piece with a character is a dot alone.
      obtain ⟨rfl, rfl⟩ : c = '.' ∧ v = [] := by
        simpa [isSilent] using hsilent
      match cs with
      | [] =>
          cases hstart
      | '/' :: cs =>
          cases hstart
      | d :: cs =>
          by_cases hd : d = '/'
          · subst hd
            cases hstart
          · obtain ⟨u, us, hus⟩ := exists_pieces_eq_cons cs
            rw [Text.pieces_cons_of_not (by simpa using hd) hus] at hcs
            cases hcs

/-- What is left of a path below `base` is the path of the pieces that it is continued with. -/
theorem stripPrefix?_of_continues (h : Continues base ws p) :
    p.stripPrefix? base = some (ofPieces ws) := by
  obtain ⟨front, back, hbody, hnames, hsilent⟩ := h.body_eq
  have hfirst : base.components.isPrefixOf p.components = true := by
    rw [List.isPrefixOf_iff_prefix, components, components, h.start_eq,
      bodyComponents_of_continues h]
    exact ⟨named ws, by simp⟩
  rw [stripPrefix?, if_pos hfirst]
  by_cases hempty : base.components.isEmpty = true
  · rw [if_pos hempty]
    obtain ⟨hstart, hnothing⟩ : base.start.components = [] ∧ base.bodyComponents = [] := by
      simpa [components] using hempty
    have hdirect : p.start = .direct := by
      rw [h.start_eq]
      cases hkind : base.start with
      | direct =>
          rfl
      | root | current =>
          rw [hkind] at hstart
          cases hstart
    -- Silent pieces come first only in an empty path.
    have htrim : trimPieces p.body = ws := by
      rcases body_of_direct hdirect with hbare | hhead
      · have hws : ws = [] := by
          cases ws with
          | nil =>
              rfl
          | cons w ws =>
              have hw : w ∈ p.body := by
                simp [hbody]
              rw [hbare, List.mem_singleton] at hw
              have hnot := h.isTrimmed.first w rfl
              simp [hw, isSilent] at hnot
        rw [hbare, hws]
        rfl
      · have hfront : front = [] := by
          cases front with
          | nil =>
              rfl
          | cons w front =>
              have hw := hhead w (by simp [hbody])
              rw [hnothing, named_cons_of_not_silent hw] at hnames
              cases hnames
        rw [hbody, hfront, List.nil_append, trimPieces_append_silent hsilent,
          h.isTrimmed.trimPieces_eq]
    rw [hdirect, htrim]
    rfl
  · rw [if_neg hempty, hbody, List.append_assoc, ← hnames]
    dsimp only
    rw [dropWhile_dropNames, h.isTrimmed.dropWhile_append hsilent]
    rfl

theorem exists_of_named_eq_append {cs ds : List Component} (h : named ws = cs ++ ds) :
    ∃ front rest, ws = front ++ rest ∧ named front = cs := by
  unfold named at h
  obtain ⟨names, others, hfilter, hcs, -⟩ := List.map_eq_append_iff.1 h
  obtain ⟨front, rest, hws, hfront, -⟩ := List.filter_eq_append_iff.1 hfilter
  exact ⟨front, rest, hws, by rw [named, hfront, hcs]⟩

/-- Between the silent pieces at both ends there are trimmed ones. -/
theorem exists_isTrimmed (ws : List (List Char)) : ∃ front vs back, ws = front ++ vs ++ back ∧
    IsTrimmed vs ∧ (∀ w ∈ front, isSilent w = true) ∧ ∀ w ∈ back, isSilent w = true := by
  have hhead : ∀ w ∈ (ws.dropWhile isSilent).head?, isSilent w = false := by
    intro w hw
    have hnot := List.head?_dropWhile_not isSilent ws
    rw [Option.mem_def.1 hw] at hnot
    exact hnot
  generalize hrest : ws.dropWhile isSilent = rest at hhead
  refine ⟨ws.takeWhile isSilent, rest.rdropWhile isSilent, rest.rtakeWhile isSilent, ?_, ⟨?_, ?_⟩,
    fun w hw => List.mem_takeWhile_imp hw, fun w hw => List.mem_rtakeWhile_imp hw⟩
  · rw [List.append_assoc, List.rdropWhile_append_rtakeWhile, ← hrest,
      List.takeWhile_append_dropWhile]
  · intro w hw
    refine hhead w ?_
    obtain ⟨vs, hvs⟩ := List.head?_eq_some_iff.1 (Option.mem_def.1 hw)
    rw [Option.mem_def, ← List.rdropWhile_append_rtakeWhile (p := isSilent) (l := rest), hvs]
    rfl
  · intro w hw
    by_contra hsilent
    rw [Bool.not_eq_false] at hsilent
    have hne : rest.rdropWhile isSilent ≠ [] := by
      intro hnil
      simp [hnil] at hw
    have hlast := List.rdropWhile_last_not isSilent rest hne
    rw [List.getLast?_eq_getLast_of_ne_nil hne] at hw
    cases hw
    exact hlast hsilent

theorem isBelow_iff : IsBelow base p ↔ ∃ ws, Continues base ws p := by
  constructor
  · rintro ⟨hstart, others, hnames⟩
    obtain ⟨front, rest, hbody, hfront⟩ :=
      exists_of_named_eq_append (show named p.body = _ from hnames.symm)
    obtain ⟨lead, ws, back, hrest, htrimmed, hlead, hback⟩ := exists_isTrimmed rest
    refine ⟨ws, hstart, htrimmed, front ++ lead, back, ?_, ?_, hback⟩
    · rw [hbody, hrest]
      simp
    · rw [named_append_silent front hlead, hfront]
  · rintro ⟨ws, h⟩
    exact ⟨h.start_eq, bodyComponents_of_continues h ▸ List.prefix_append ..⟩

/-! ## Names -/

theorem ofPieces_inj (hws : IsTrimmed ws) (hvs : IsTrimmed vs) (hslash : ∀ w ∈ ws, '/' ∉ w)
    (hslash' : ∀ w ∈ vs, '/' ∉ w) : ofPieces ws = ofPieces vs ↔ ws = vs := by
  refine ⟨fun h => ?_, fun h => h ▸ rfl⟩
  have hnot : ¬ IsTrimmed [[]] := fun h => absurd (h.first [] rfl) (by decide)
  have hpieces := congrArg pieces h
  rw [pieces_ofPieces hslash, pieces_ofPieces hslash'] at hpieces
  split at hpieces <;> split at hpieces
  · rename_i hnil hnil'
    rw [hnil, hnil']
  · exact absurd (hpieces ▸ hvs) hnot
  · exact absurd (hpieces ▸ hws) hnot
  · exact hpieces

theorem IsTrimmed.of_names (h : ∀ w ∈ ws, IsName w) : IsTrimmed ws :=
  ⟨fun w hw => (h w (List.mem_of_mem_head? hw)).isNamed,
    fun w hw => (h w (List.mem_of_mem_getLast? hw)).isNamed⟩

theorem named_names {l : Location} (h : ∀ n ∈ l, IsName n.toList) :
    named (l.map String.toList) = l.map Component.name := by
  induction l with
  | nil =>
      rfl
  | cons n l ih =>
      have hn := h n List.mem_cons_self
      rw [List.map_cons, named_cons_of_not_silent hn.isNamed, componentOf, if_neg hn.ne_parent,
        ih fun m hm => h m (List.mem_cons_of_mem n hm), String.ofList_toList]
      rfl

theorem follow_append (here : Location) (cs ds : List Component) :
    follow here (cs ++ ds) = follow (follow here cs) ds := by
  induction cs generalizing here with
  | nil =>
      rfl
  | cons c cs ih =>
      cases c <;> exact ih _

theorem follow_names (here l : Location) : follow here (l.map Component.name) = here ++ l := by
  induction l generalizing here with
  | nil =>
      simp [follow]
  | cons n l ih =>
      rw [List.map_cons, follow, ih, List.append_assoc]
      rfl

/-- A path that is continued with names leads to them from where `base` leads. -/
theorem follow_of_continues {l : Location} (h : Continues base (l.map String.toList) p)
    (hnames : ∀ n ∈ l, IsName n.toList) (here : Location) :
    follow here p.components = follow here base.components ++ l := by
  rw [components, h.start_eq, bodyComponents_of_continues h, named_names hnames,
    ← List.append_assoc, follow_append, follow_names]
  rfl

end BinaryCoverage.Path
