import BinaryCoverage.Proofs.Branch.Selection
import BinaryCoverage.Proofs.Source.Word
import Mathlib.Data.List.DropRight

/-!
# Labels of a `switch`

A label of a `switch` stands in its body outside of all nested blocks, anywhere on a line.  This file
defines:

* `BeginsLabel` — a `case` or `default` label begins at a position;
* `labels` — the labels of a body, in order;
* `LeadsLine` — only blanks stand before a label on its line, and its colon is on that line too;

and shows that a `switch` has an arm for each label that leads its line, and for no other
(`selectionArms_labels`).
-/

namespace BinaryCoverage

namespace Source

open Text (isBlank isBlankText trimStart dropPrefix? dropPrefix?_eq_some_iff)

variable {cs blanks rest : List Char}

/-! ## The text of a label -/

instance (word text : List Char) : Decidable (StartsWithWord word text) :=
  decidable_of_iff
    ((dropPrefix? word text).any fun rest => !rest.head?.any isWordChar) <| by
      rw [startsWithWord_iff, Option.any_eq_true]
      simp

instance (word line : List Char) (i : Nat) : Decidable (IsWordAt word line i) :=
  inferInstanceAs (Decidable (_ ∧ _))

theorem isWordChar_of_isBlank {c : Char} (h : isBlank c = true) : isWordChar c = false := by
  have hne : c ≠ '_' := by
    rintro rfl
    revert h
    decide
  simp only [isBlank, Bool.or_eq_true, Bool.and_eq_true, decide_eq_true_eq, beq_iff_eq] at h
  unfold isWordChar
  delta Char.isAlphanum Char.isAlpha Char.isUpper Char.isLower Char.isDigit
  simp [UInt32.le_iff_toNat_le, hne]
  omega

theorem trimStart_append_of_blank (h : isBlankText blanks = true) :
    trimStart (blanks ++ cs) = trimStart cs :=
  List.dropWhile_append_of_pos (List.all_eq_true.1 h)

theorem labelTail?_append_of_blank (h : isBlankText blanks = true) :
    labelTail? (blanks ++ cs) = labelTail? cs := by
  rw [labelTail?, labelTail?, trimStart_append_of_blank h]

theorem head?_trimStart_append {c : Char} (h : (trimStart cs).head? = some c) :
    (trimStart (cs ++ rest)).head? = some c := by
  rcases List.head?_eq_some_iff.1 h with ⟨after, hafter⟩
  rw [trimStart] at hafter
  rw [trimStart, List.dropWhile_append, hafter]
  rfl

theorem caseTail?_isSome (h : (caseTail? cs).isSome) :
    ∃ rest, cs = "case".toList ++ rest ∧ rest.head?.any isWordChar = false ∧ ':' ∈ rest := by
  rcases Option.isSome_iff_exists.1 h with ⟨tail, htail⟩
  simp only [caseTail?, Option.bind_eq_bind, Option.bind_eq_some_iff, dropPrefix?_eq_some_iff] at htail
  rcases htail with ⟨rest, hcs, _, hend, hcolon⟩
  have hmem : ':' ∈ rest.dropWhile (· != ':') := by
    rw [hcolon]
    exact List.mem_cons_self ..
  exact ⟨rest, hcs, by simpa [guard] using hend, (List.dropWhile_sublist _).subset hmem⟩

theorem defaultTail?_isSome (h : (defaultTail? cs).isSome) :
    ∃ rest, cs = "default".toList ++ rest ∧ (trimStart rest).head? = some ':' := by
  rcases Option.isSome_iff_exists.1 h with ⟨tail, htail⟩
  simp only [defaultTail?, Option.bind_eq_bind, Option.bind_eq_some_iff,
    dropPrefix?_eq_some_iff] at htail
  rcases htail with ⟨rest, hcs, hcolon⟩
  exact ⟨rest, hcs, by rw [hcolon]; rfl⟩

theorem not_isWordChar_of_trimStart (h : (trimStart rest).head? = some ':') :
    rest.head?.any isWordChar = false := by
  cases rest with
  | nil =>
      rfl
  | cons c cs =>
      rw [List.head?_cons, Option.any_some]
      by_cases hblank : isBlank c = true
      · exact isWordChar_of_isBlank hblank
      · have hc : trimStart (c :: cs) = c :: cs := List.dropWhile_cons_of_neg hblank
        rw [hc] at h
        cases h
        decide

end Source

namespace MaskedSource

open Source (IsWordAt StartsWithWord isWordChar labelTail? caseTail? defaultTail?)
open Text (isBlank isBlankText trimStart)

/-- A `case` or `default` label begins at `q`. -/
def BeginsLabel (s : MaskedSource) (q : Position) : Prop :=
  (IsWordAt "case".toList (s.rest ⟨q.line, 0⟩) q.column ∧
    ∃ cell ∈ s.cellsFrom ⟨q.line, q.column + 4⟩, cell.2 = ':') ∨
  (IsWordAt "default".toList (s.rest ⟨q.line, 0⟩) q.column ∧
    (s.nextToken? ⟨q.line, q.column + 7⟩).map (·.2) = some ':')

instance (s : MaskedSource) : DecidablePred s.BeginsLabel :=
  fun _ => inferInstanceAs (Decidable (_ ∨ _))

/-- The labels between the braces of a body and outside of the blocks in it. -/
def labels (s : MaskedSource) (start close : Position) : List Position :=
  ((s.cellsFrom start).map (·.1)).filter fun q =>
    q.Before close ∧ s.depthAt start q = 1 ∧ s.BeginsLabel q

/-- Nothing but blanks stands before `q` on its line of the body, and a label on the same line is
what follows. -/
def LeadsLine (s : MaskedSource) (start q : Position) : Prop :=
  isBlankText (s.upTo (bodyStart start q.line) q) = true ∧ (labelTail? (s.rest q)).isSome

instance (s : MaskedSource) (start : Position) : DecidablePred (s.LeadsLine start) :=
  fun _ => inferInstanceAs (Decidable (_ ∧ _))

variable {s : MaskedSource} {covered : Nat → Bool} {start close p q r : Position} {m n : Nat}
  {arms : List Bool}

/-! ## Places on a line -/

theorem rest_add (s : MaskedSource) (p : Position) (k : Nat) :
    s.rest ⟨p.line, p.column + k⟩ = (s.rest p).drop k := by
  simp [rest, List.drop_drop]

/-- A line from `p` on is its text up to `q` and then that from `q` on. -/
theorem rest_eq_upTo_append (hp : 0 < p.line) (hpq : ¬ q.Before p) (hline : q.line = p.line) :
    s.rest p = s.upTo p q ++ s.rest q := by
  have hnext : ¬ Position.Before ⟨p.line + 1, 0⟩ q := by
    unfold Position.Before
    simp only
    omega
  rw [← upTo_nextLine s p, upTo_append hp hpq hnext, ← upTo_nextLine s q, hline]

theorem nextToken?_map_snd (s : MaskedSource) (p : Position) :
    (s.nextToken? p).map (·.2) = (trimStart ((s.cellsFrom p).map (·.2))).head? := by
  rw [nextToken?, scan_eq]
  induction s.cellsFrom p with
  | nil =>
      rfl
  | cons cell cells ih =>
      rw [stop?, List.map_cons, trimStart]
      cases hblank : isBlank cell.2 with
      | false =>
          simp [hblank]
      | true =>
          rw [List.dropWhile_cons_of_pos hblank]
          exact ih

theorem exists_mem_cellsFrom {c : Char} (hp : 0 < p.line) (hc : c ∈ s.rest p) :
    ∃ cell ∈ s.cellsFrom p, cell.2 = c := by
  refine List.mem_map.1 ?_
  rw [map_snd_cellsFrom hp]
  exact List.mem_append_left _ hc

/-- The first character from `p` on, on the same line, that is no blank. -/
def firstText (s : MaskedSource) (p : Position) : Position :=
  ⟨p.line, p.column + ((s.rest p).takeWhile isBlank).length⟩

theorem not_firstText_before (s : MaskedSource) (p : Position) : ¬ (s.firstText p).Before p := by
  unfold firstText Position.Before
  simp only
  omega

theorem rest_firstText (s : MaskedSource) (p : Position) :
    s.rest (s.firstText p) = trimStart (s.rest p) := by
  have hsplit : s.rest p = (s.rest p).takeWhile isBlank ++ trimStart (s.rest p) :=
    List.takeWhile_append_dropWhile.symm
  rw [firstText, rest_add]
  exact (congrArg (List.drop _) hsplit).trans List.drop_left

theorem upTo_firstText (hp : 0 < p.line) :
    s.upTo p (s.firstText p) = (s.rest p).takeWhile isBlank := by
  have htext := rest_eq_upTo_append (s := s) hp (not_firstText_before s p) rfl
  rw [rest_firstText] at htext
  refine List.append_cancel_right (htext.symm.trans ?_)
  exact List.takeWhile_append_dropWhile.symm

theorem isBlankText_upTo_firstText (hp : 0 < p.line) :
    isBlankText (s.upTo p (s.firstText p)) = true := by
  rw [upTo_firstText hp]
  exact List.all_takeWhile

/-- Blanks separate words. -/
theorem not_isWordChar_before_firstText
    (h : ((s.rest ⟨p.line, 0⟩).take p.column).getLast?.any isWordChar = false) :
    ((s.rest ⟨p.line, 0⟩).take (s.firstText p).column).getLast?.any isWordChar = false := by
  have hrest : (s.rest ⟨p.line, 0⟩).drop p.column = s.rest p := by
    rw [← rest_add s ⟨p.line, 0⟩ p.column, Nat.zero_add]
  have hblanks : (s.rest p).take ((s.rest p).takeWhile isBlank).length =
      (s.rest p).takeWhile isBlank :=
    (List.prefix_iff_eq_take.1 (List.takeWhile_prefix isBlank)).symm
  rw [firstText, List.take_add, hrest, hblanks, List.getLast?_append]
  cases hlast : ((s.rest p).takeWhile isBlank).getLast? with
  | none =>
      exact h
  | some c =>
      have hc : isBlank c = true :=
        List.all_eq_true.1 List.all_takeWhile c (List.mem_of_getLast? hlast)
      exact Source.isWordChar_of_isBlank hc

/-! ## Labels that lead their lines -/

theorem beginsLabel_of_labelTail? (hq : 0 < q.line)
    (hbefore : ((s.rest ⟨q.line, 0⟩).take q.column).getLast?.any isWordChar = false)
    (htrim : trimStart (s.rest q) = s.rest q) (h : (labelTail? (s.rest q)).isSome) :
    s.BeginsLabel q := by
  have hword : ∀ word rest, s.rest q = word ++ rest → rest.head?.any isWordChar = false →
      IsWordAt word (s.rest ⟨q.line, 0⟩) q.column := by
    intro word rest hrest hend
    refine ⟨hbefore, rest, ?_, hend⟩
    rw [← hrest, ← rest_add s ⟨q.line, 0⟩ q.column, Nat.zero_add]
  rw [labelTail?, htrim, Option.isSome_or, Bool.or_eq_true] at h
  rcases h with hcase | hdefault
  · rcases Source.caseTail?_isSome hcase with ⟨rest, hrest, hend, hcolon⟩
    refine Or.inl ⟨hword _ _ hrest hend, exists_mem_cellsFrom hq ?_⟩
    rw [rest_add s q 4, hrest]
    exact hcolon
  · rcases Source.defaultTail?_isSome hdefault with ⟨rest, hrest, hcolon⟩
    refine Or.inr ⟨hword _ _ hrest (Source.not_isWordChar_of_trimStart hcolon), ?_⟩
    have hafter : s.rest ⟨q.line, q.column + 7⟩ = rest := by
      rw [rest_add s q 7, hrest]
      rfl
    rw [nextToken?_map_snd, map_snd_cellsFrom (p := ⟨q.line, q.column + 7⟩) hq, hafter]
    exact Source.head?_trimStart_append hcolon

/-- A label begins with a letter. -/
theorem BeginsLabel.head? (h : s.BeginsLabel q) :
    ∃ c, (s.rest q).head? = some c ∧ isBlank c = false ∧ c ≠ '}' := by
  have hrest : s.rest q = (s.rest ⟨q.line, 0⟩).drop q.column := by
    rw [← rest_add s ⟨q.line, 0⟩ q.column, Nat.zero_add]
  rw [hrest]
  rcases h with ⟨⟨-, rest, hword, -⟩, -⟩ | ⟨⟨-, rest, hword, -⟩, -⟩
  · exact ⟨'c', by rw [hword]; rfl, by decide, by decide⟩
  · exact ⟨'d', by rw [hword]; rfl, by decide, by decide⟩

theorem head?_of_blockEnd? (hclose : s.blockEnd? start = some close) :
    (s.rest close).head? = some '}' := by
  rcases Option.map_eq_some_iff.1 hclose with ⟨⟨q, c⟩, hscan, rfl⟩
  rw [scan_eq] at hscan
  have hmem := mem_cellsFrom_of_stop? hscan
  rcases stop?_eq_some_iff.1 hscan with ⟨-, -, depth, -, -, hstop⟩
  have hc := (blockStep_eq_none_iff.1 hstop).1
  subst hc
  exact (mem_cellsFrom_iff.1 hmem).2.2

theorem mem_labels_iff (hstart : 0 < start.line) :
    q ∈ s.labels start close ↔
      ¬ q.Before start ∧ q.Before close ∧ s.depthAt start q = 1 ∧ s.BeginsLabel q := by
  simp only [labels, List.mem_filter, List.mem_map, Prod.exists, exists_and_right, exists_eq_right,
    mem_cellsFrom_iff, decide_eq_true_eq]
  constructor
  · rintro ⟨⟨c, -, hq, -⟩, hlabel⟩
    exact ⟨hq, hlabel⟩
  · rintro ⟨hq, hlabel⟩
    rcases hlabel.2.2.head? with ⟨c, hc, -⟩
    exact ⟨⟨c, hstart, hq, hc⟩, hlabel⟩

/-- Blanks do not change the depth. -/
theorem depthAt_of_blank (hstart : 0 < start.line) (hp : ¬ p.Before start) (hq : ¬ q.Before p)
    (hblank : isBlankText (s.upTo p q) = true) : s.depthAt start q = s.depthAt start p := by
  have hnone : ∀ c, isBlank c = false → (s.upTo p q).count c = 0 := by
    intro c hc
    refine List.count_eq_zero.2 fun hmem => ?_
    rw [List.all_eq_true.1 hblank c hmem] at hc
    cases hc
  rw [depthAt, upTo_append hstart hp hq, List.count_append, List.count_append,
    hnone '{' (by decide), hnone '}' (by decide)]
  rfl

/-- Where only blanks stand there is no character of any other kind. -/
theorem not_before_of_blank {c : Char} (hp : 0 < p.line)
    (hblank : isBlankText (s.upTo p q) = true) (hr : ¬ r.Before p)
    (hc : (s.rest r).head? = some c) (hcode : isBlank c = false) : ¬ r.Before q := by
  intro hrq
  have hmem : c ∈ s.upTo p q :=
    List.mem_map.2 ⟨(r, c), List.mem_filter.2
      ⟨mem_cellsFrom_iff.2 ⟨hp, hr, hc⟩, decide_eq_true hrq⟩, rfl⟩
  rw [List.all_eq_true.1 hblank c hmem] at hcode
  cases hcode

/-- No word reaches into the text of a line of a body. -/
theorem not_isWordChar_before_bodyText (hstart : (s.rest start).head? = some '{') (m : Nat) :
    ((s.rest ⟨m, 0⟩).take (bodyStart start m).column).getLast?.any isWordChar = false := by
  unfold bodyStart
  split
  · rename_i hm
    subst hm
    have hbrace : (s.rest ⟨start.line, 0⟩)[start.column]? = some '{' := by
      rw [← List.head?_drop, ← rest_add s ⟨start.line, 0⟩ start.column, Nat.zero_add]
      exact hstart
    rw [List.take_add_one, hbrace, Option.toList_some, List.getLast?_concat]
    decide
  · rfl

theorem not_before_bodyStart (hq : start.Before q) : ¬ q.Before (bodyStart start q.line) := by
  unfold bodyStart Position.Before at *
  split <;> simp only <;> omega

section Closed

variable (hstart : (s.rest start).head? = some '{') (hclose : s.blockEnd? start = some close)

include hstart

theorem start_before_of_mem_labels (hq : q ∈ s.labels start close) : start.Before q := by
  rcases (mem_labels_iff (line_pos_of_head? hstart)).1 hq with ⟨hsq, -, hdepth, -⟩
  by_contra hnot
  have hsame := Position.eq_of_not_before hnot hsq
  subst hsame
  rw [depthAt, upTo_self] at hdepth
  cases hdepth

theorem mem_labelLines_of_leadsLine (hq : q ∈ s.labels start close) (hlead : s.LeadsLine start q) :
    q.line ∈ s.labelLines start (close.line + 1) := by
  have hpos := line_pos_of_head? hstart
  have hsq := start_before_of_mem_labels hstart hq
  rcases (mem_labels_iff hpos).1 hq with ⟨-, hqc, hdepth, -⟩
  have hline : start.line ≤ q.line := by
    unfold Position.Before at hsq
    omega
  have hfirst := before_bodyStart hline
  have hbegin := not_before_bodyStart hsq
  refine mem_labelLines_iff.2 ⟨hline, ?_, ?_, ?_⟩
  · unfold Position.Before at hqc
    omega
  · rw [← depthAt_of_blank hpos hfirst.not_before hbegin hlead.1]
    exact hdepth
  · have htext := rest_eq_upTo_append (s := s) (p := bodyStart start q.line)
      (by rw [line_bodyStart]; omega) hbegin (line_bodyStart ..).symm
    rw [bodyText, htext, Source.labelTail?_append_of_blank hlead.1]
    exact hlead.2

/-- Only one label leads a line. -/
theorem line_lt_of_leadsLine (hq : q ∈ s.labels start close) (hqr : q.Before r)
    (hlead : s.LeadsLine start r) : q.line < r.line := by
  rcases (mem_labels_iff (line_pos_of_head? hstart)).1 hq with ⟨-, -, -, hlabel⟩
  rcases hlabel.head? with ⟨c, hc, hcblank, -⟩
  have hsq := start_before_of_mem_labels hstart hq
  by_contra hnot
  have hline : q.line = r.line := by
    unfold Position.Before at hqr
    omega
  -- The first of two labels would be in front of the second one, where only blanks are.
  have hpos : 0 < (bodyStart start r.line).line := by
    rw [line_bodyStart, ← hline]
    exact line_pos_of_head? hc
  have hbegin : ¬ q.Before (bodyStart start r.line) := by
    rw [← hline]
    exact not_before_bodyStart hsq
  exact not_before_of_blank hpos hlead.1 hbegin hc hcblank hqr

include hclose

theorem exists_label_of_isLabelLine (hm : start.line ≤ m) (hmc : m ≤ close.line)
    (hlabel : s.IsLabelLine start m) :
    ∃ q ∈ s.labels start close, s.LeadsLine start q ∧ q.line = m := by
  have hpos := line_pos_of_head? hstart
  have hfirst := before_bodyStart hm
  have hmpos : 0 < (bodyStart start m).line := by
    rw [line_bodyStart]
    omega
  have hline : (s.firstText (bodyStart start m)).line = m := line_bodyStart start m
  have hbegin := not_firstText_before s (bodyStart start m)
  have hblank := isBlankText_upTo_firstText (s := s) hmpos
  have htext := rest_firstText s (bodyStart start m)
  have hsome : (labelTail? (s.rest (s.firstText (bodyStart start m)))).isSome := by
    rw [← Source.labelTail?_append_of_blank hblank, ← rest_eq_upTo_append hmpos hbegin rfl]
    exact hlabel.2
  have hlabels : s.BeginsLabel (s.firstText (bodyStart start m)) := by
    refine beginsLabel_of_labelTail? hmpos (not_isWordChar_before_firstText ?_) ?_ hsome
    · rw [line_bodyStart]
      exact not_isWordChar_before_bodyText hstart m
    · rw [htext]
      exact List.dropWhile_idempotent ..
  rcases hlabels.head? with ⟨c, hc, -, hcode⟩
  have hafter : ¬ (s.firstText (bodyStart start m)).Before start :=
    fun h => hbegin (Position.before_of_before_of_not_before h hfirst.not_before)
  have hclosed := head?_of_blockEnd? hclose
  have hbefore : (s.firstText (bodyStart start m)).Before close := by
    by_contra hnot
    have hsame := Position.eq_of_not_before hnot (not_before_of_blank hmpos hblank
      (not_close_before_bodyStart hstart hclose hmc) hclosed (by decide))
    rw [hsame, hclosed, Option.some.injEq] at hc
    exact hcode hc.symm
  refine ⟨_, (mem_labels_iff hpos).2 ⟨hafter, hbefore, ?_, hlabels⟩, ⟨?_, hsome⟩, hline⟩
  · rw [depthAt_of_blank hpos hfirst.not_before hbegin hblank]
    exact hlabel.1
  · rw [hline]
    exact hblank

/-- The label lines are those that a label leads. -/
theorem map_line_labels :
    ((s.labels start close).filter (s.LeadsLine start)).map (·.line) =
      s.labelLines start (close.line + 1) := by
  have hsorted : (s.labels start close).Pairwise Position.Before :=
    List.Pairwise.filter _ (List.pairwise_map.2 (pairwise_cellsFrom s start))
  refine List.Pairwise.eq_of_mem_iff (r := (· < ·)) ?_ (pairwise_labelLines ..) ?_
  · rw [List.pairwise_map]
    refine (hsorted.filter _).imp_of_mem ?_
    intro q r hq hr hqr
    have hlead := (List.mem_filter.1 hr).2
    exact line_lt_of_leadsLine hstart (List.mem_filter.1 hq).1 hqr (of_decide_eq_true hlead)
  · intro m
    simp only [List.mem_map, List.mem_filter, decide_eq_true_eq]
    constructor
    · rintro ⟨q, ⟨hq, hlead⟩, rfl⟩
      exact mem_labelLines_of_leadsLine hstart hq hlead
    · intro hm
      rcases mem_labelLines_iff.1 hm with ⟨hfirst, hlast, hlabel⟩
      rcases exists_label_of_isLabelLine hstart hclose hfirst (by omega) hlabel with
        ⟨q, hq, hlead, hline⟩
      exact ⟨q, ⟨hq, hlead⟩, hline⟩

end Closed

/-! ## Arms and labels -/

/-- A `switch` has an arm for each label that leads its line, in order.  So there is one for every
label exactly if each of them leads its line. -/
theorem selectionArms_labels (h : s.selectionArms covered n = .ok arms) :
    ∃ start close, s.IsBody n start close ∧
      List.Forall₂
        (fun q flag => flag = true ↔ s.ArmCovered covered start (close.line + 1) q.line)
        ((s.labels start close).filter (s.LeadsLine start)) arms ∧
      (arms.length = (s.labels start close).length ↔
        ∀ q ∈ s.labels start close, s.LeadsLine start q) := by
  rcases exists_isBody_of_selectionArms h with ⟨start, close, hbody⟩
  refine ⟨start, close, hbody, ?_⟩
  rcases selectionArms_of_isBody covered hbody with ⟨arms', harms', hcovered⟩
  rw [h, Except.ok.injEq] at harms'
  subst harms'
  rcases hbody with ⟨p, -, htoken, hclose⟩
  have hstart := (mem_cellsFrom_iff.1 htoken.mem).2.2
  rw [← map_line_labels hstart hclose, List.forall₂_map_left_iff] at hcovered
  refine ⟨hcovered, ?_⟩
  rw [← hcovered.length_eq, List.length_filter_eq_length_iff]
  simp only [decide_eq_true_eq]

theorem isBody_of_scans (hend : s.conditionEnd? ⟨n, 0⟩ = some p)
    (htoken : s.nextToken? p = some (start, '{')) (hclose : s.blockEnd? start = some close) :
    s.IsBody n start close := by
  rcases conditionEnd?_eq_some_iff.1 hend with ⟨q, hcondition, rfl⟩
  exact ⟨q, hcondition, nextToken?_eq_some_iff.1 htoken, hclose⟩

/-- A `switch` with two labels on one line. -/
def twoLabels : String :=
  "    switch (a) \x7b\n    case 1: case 2:\n        x();\n    \x7d\n"

theorem selectionArms_labels_two :
    let s := ofText twoLabels
    s.selectionArms (· == 3) 1 = .ok [true] ∧
      ∃ start close, s.IsBody 1 start close ∧
        List.Forall₂ (fun q flag => flag = true ↔ s.ArmCovered (· == 3) start (close.line + 1) q.line)
          ((s.labels start close).filter (s.LeadsLine start)) [true] ∧
        ([true].length = (s.labels start close).length ↔
          ∀ q ∈ s.labels start close, s.LeadsLine start q) :=
  have h : (ofText twoLabels).selectionArms (· == 3) 1 = .ok [true] := by
    decide +kernel
  ⟨h, selectionArms_labels h⟩

/-- Not every label has an arm: the second of two labels on one line has none. -/
theorem selectionArms_two_labels_one_arm :
    ¬ ∀ (s : MaskedSource) (covered : Nat → Bool) (n : Nat) (arms : List Bool)
      (start close : Position), s.selectionArms covered n = .ok arms → s.IsBody n start close →
        arms.length = (s.labels start close).length := by
  intro hall
  have hbody : (ofText twoLabels).IsBody 1 ⟨1, 15⟩ ⟨4, 4⟩ :=
    isBody_of_scans (p := ⟨1, 14⟩) (by decide +kernel) (by decide +kernel) (by decide +kernel)
  have harms : (ofText twoLabels).selectionArms (fun _ => false) 1 = .ok [false] := by
    decide +kernel
  have hlabels : (ofText twoLabels).labels ⟨1, 15⟩ ⟨4, 4⟩ = [⟨2, 4⟩, ⟨2, 12⟩] := by
    decide +kernel
  have hlength := hall _ _ _ _ _ _ harms hbody
  rw [hlabels] at hlength
  cases hlength

end MaskedSource

end BinaryCoverage
