import BinaryCoverage.Source.Scan
import Mathlib.Data.List.Sort

/-!
# Characters in reading order

A source is read from left to right and from line to line.  This file defines:

* `Position.Before` — the order in which positions are read;
* `MaskedSource.cellsFrom` — the characters from a position on, each with where it stands;
* `MaskedSource.upTo` — the text from one position up to another;
* `MaskedSource.IsFirst` — the first character from a position on at which some condition holds, which
  may depend on the text in between;

and shows that a scan stops at the first character of some kind (`scan_eq_some_iff_isFirst`).
-/

namespace BinaryCoverage

namespace Position

def Before (p q : Position) : Prop :=
  p.line < q.line ∨ p.line = q.line ∧ p.column < q.column

instance (p q : Position) : Decidable (p.Before q) :=
  inferInstanceAs (Decidable (_ ∨ _))

variable {p q r : Position}

theorem not_before_self (p : Position) : ¬ p.Before p := by
  unfold Before
  omega

theorem Before.not_before (h : p.Before q) : ¬ q.Before p := by
  unfold Before at *
  omega

theorem before_of_before_of_not_before (h : p.Before q) (h' : ¬ r.Before q) : p.Before r := by
  unfold Before at *
  omega

theorem eq_of_not_before (h : ¬ p.Before q) (h' : ¬ q.Before p) : p = q := by
  cases p
  cases q
  unfold Before at *
  simp only [Position.mk.injEq]
  simp only at h h'
  omega

end Position

namespace MaskedSource

variable {s : MaskedSource} {p q r : Position} {c d : Char}

/-! ## Characters and where they stand -/

/-- The characters of a line, the first of which stands in a given column. -/
def lineCells (n : Nat) : Nat → List Char → List (Position × Char)
  | _, [] => []
  | column, c :: cs => (⟨n, column⟩, c) :: lineCells n (column + 1) cs

/-- The characters of lines, the first of which has a given number. -/
def linesCells : Nat → List (List Char) → List (Position × Char)
  | _, [] => []
  | n, line :: rest => lineCells n 0 line ++ linesCells (n + 1) rest

def CellBefore (a b : Position × Char) : Prop := a.1.Before b.1

instance : Std.Irrefl CellBefore := ⟨fun a => Position.not_before_self a.1⟩

instance : Std.Antisymm CellBefore := ⟨fun _ _ h h' => absurd h' h.not_before⟩

/-- The characters from a position on. -/
def cellsFrom (s : MaskedSource) (p : Position) : List (Position × Char) :=
  match s.linesFrom p.line with
  | [] => []
  | line :: rest => lineCells p.line p.column (line.drop p.column) ++ linesCells (p.line + 1) rest

/-- The text from `p` up to `q`, without the character at `q`. -/
def upTo (s : MaskedSource) (p q : Position) : List Char :=
  ((s.cellsFrom p).filter (·.1.Before q)).map (·.2)

theorem map_snd_lineCells (n column : Nat) (cs : List Char) :
    (lineCells n column cs).map (·.2) = cs := by
  induction cs generalizing column with
  | nil =>
      rfl
  | cons c cs ih =>
      simp [lineCells, ih]

theorem map_snd_linesCells (n : Nat) (lines : List (List Char)) :
    (linesCells n lines).map (·.2) = lines.flatten := by
  induction lines generalizing n with
  | nil =>
      rfl
  | cons line rest ih =>
      simp [linesCells, map_snd_lineCells, ih]

theorem mem_lineCells_iff {n column : Nat} {cs : List Char} :
    (q, c) ∈ lineCells n column cs ↔
      q.line = n ∧ column ≤ q.column ∧ cs[q.column - column]? = some c := by
  induction cs generalizing column with
  | nil =>
      simp [lineCells]
  | cons d cs ih =>
      rw [lineCells, List.mem_cons, ih]
      rcases q with ⟨line, k⟩
      simp only [Prod.mk.injEq, Position.mk.injEq]
      constructor
      · rintro (⟨⟨rfl, rfl⟩, rfl⟩ | ⟨hline, hk, hc⟩)
        · simp
        · refine ⟨hline, by omega, ?_⟩
          have hplace : k - column = (k - (column + 1)) + 1 := by
            omega
          rw [hplace, List.getElem?_cons_succ, hc]
      · rintro ⟨hline, hk, hc⟩
        by_cases hfirst : k = column
        · subst hfirst
          rw [Nat.sub_self, List.getElem?_cons_zero, Option.some.injEq] at hc
          exact Or.inl ⟨⟨hline, rfl⟩, hc.symm⟩
        · have hplace : k - column = (k - (column + 1)) + 1 := by
            omega
          rw [hplace, List.getElem?_cons_succ] at hc
          exact Or.inr ⟨hline, by omega, hc⟩

theorem mem_linesCells_iff {n : Nat} {lines : List (List Char)} :
    (q, c) ∈ linesCells n lines ↔
      n ≤ q.line ∧ ∃ text, lines[q.line - n]? = some text ∧ text[q.column]? = some c := by
  induction lines generalizing n with
  | nil =>
      simp [linesCells]
  | cons line rest ih =>
      rw [linesCells, List.mem_append, mem_lineCells_iff, ih]
      constructor
      · rintro (⟨rfl, -, hc⟩ | ⟨hn, line', hline', hc⟩)
        · exact ⟨Nat.le_refl _, line, by simp, by simpa using hc⟩
        · refine ⟨by omega, line', ?_, hc⟩
          have hplace : q.line - n = (q.line - (n + 1)) + 1 := by
            omega
          rw [hplace, List.getElem?_cons_succ, hline']
      · rintro ⟨hn, line', hline', hc⟩
        by_cases hfirst : q.line = n
        · rw [hfirst, Nat.sub_self, List.getElem?_cons_zero, Option.some.injEq] at hline'
          subst hline'
          exact Or.inl ⟨hfirst, Nat.zero_le _, by simpa using hc⟩
        · have hplace : q.line - n = (q.line - (n + 1)) + 1 := by
            omega
          rw [hplace, List.getElem?_cons_succ] at hline'
          exact Or.inr ⟨by omega, line', hline', hc⟩

theorem linesFrom_eq_cons {n : Nat} {line : List Char} {rest : List (List Char)} :
    s.linesFrom n = line :: rest ↔ s.line? n = some line ∧ s.linesFrom (n + 1) = rest := by
  cases n with
  | zero =>
      simp [linesFrom, line?]
  | succ n =>
      simp only [linesFrom, line?]
      constructor
      · intro h
        have hn : n < s.lines.length := by
          by_contra hlong
          rw [List.drop_eq_nil_of_le (by omega)] at h
          cases h
        rw [List.drop_eq_getElem_cons hn, List.cons.injEq] at h
        exact ⟨by rw [List.getElem?_eq_getElem hn, h.1], h.2⟩
      · rintro ⟨hline, rfl⟩
        rcases List.getElem?_eq_some_iff.1 hline with ⟨hn, rfl⟩
        exact List.drop_eq_getElem_cons hn

theorem linesFrom_eq_nil {n : Nat} : s.linesFrom n = [] ↔ s.line? n = none := by
  cases n with
  | zero =>
      simp [linesFrom, line?]
  | succ n =>
      simp [linesFrom, line?]

theorem getElem?_linesFrom {n k : Nat} (hn : 0 < n) : (s.linesFrom n)[k]? = s.line? (n + k) := by
  cases n with
  | zero =>
      cases hn
  | succ n =>
      have hplace : n + 1 + k = n + k + 1 := by
        omega
      rw [hplace]
      simp [linesFrom, line?]

theorem line?_of_le {k n : Nat} {line : List Char} (h : s.line? n = some line) (hk : 0 < k)
    (hkn : k ≤ n) : ∃ earlier, s.line? k = some earlier := by
  rcases k with _ | k
  · cases hk
  · rcases n with _ | n
    · cases h
    · have hn := (List.getElem?_eq_some_iff.1 h).1
      exact ⟨s.lines[k], List.getElem?_eq_getElem (by omega)⟩

theorem map_snd_cellsFrom (hp : 0 < p.line) :
    (s.cellsFrom p).map (·.2) = s.rest p ++ (s.linesFrom (p.line + 1)).flatten := by
  unfold cellsFrom rest
  cases hlines : s.linesFrom p.line with
  | nil =>
      have hlater : s.linesFrom (p.line + 1) = [] := by
        refine List.eq_nil_iff_forall_not_mem.2 ?_
        intro line hline
        rcases List.mem_iff_getElem?.1 hline with ⟨k, hk⟩
        rw [getElem?_linesFrom (Nat.succ_pos _)] at hk
        rcases line?_of_le hk hp (by omega) with ⟨earlier, hearlier⟩
        rw [linesFrom_eq_nil.1 hlines] at hearlier
        cases hearlier
      simp [linesFrom_eq_nil.1 hlines, hlater]
  | cons line rest =>
      rcases linesFrom_eq_cons.1 hlines with ⟨hline, rfl⟩
      simp [hline, map_snd_lineCells, map_snd_linesCells]

/-- The characters from a position on are those that do not stand before it. -/
theorem mem_cellsFrom_iff :
    (q, c) ∈ s.cellsFrom p ↔ 0 < p.line ∧ ¬ q.Before p ∧ (s.rest q).head? = some c := by
  have hchar : (s.rest q).head? = some c ↔
      ∃ text, s.line? q.line = some text ∧ text[q.column]? = some c := by
    unfold rest
    rw [List.head?_drop]
    cases s.line? q.line <;> simp
  rw [hchar]
  unfold cellsFrom
  cases hlines : s.linesFrom p.line with
  | nil =>
      have hnone := linesFrom_eq_nil.1 hlines
      simp only [List.not_mem_nil, false_iff]
      rintro ⟨hp, hnot, line, hline, -⟩
      -- Past the last line there are no more lines.
      have hlater : (s.linesFrom p.line)[q.line - p.line]? = some line := by
        rw [getElem?_linesFrom hp, ← hline]
        congr 1
        unfold Position.Before at hnot
        omega
      rw [hlines] at hlater
      cases hlater
  | cons line rest =>
      rcases linesFrom_eq_cons.1 hlines with ⟨hline, rfl⟩
      have hp : 0 < p.line := by
        by_contra hzero
        rw [Nat.eq_zero_of_not_pos hzero] at hline
        cases hline
      rw [List.mem_append, mem_lineCells_iff, mem_linesCells_iff]
      constructor
      · rintro (⟨hsame, hcolumn, hc⟩ | ⟨hlater, line', hline', hc⟩)
        · refine ⟨hp, ?_, line, by rw [hsame, hline], ?_⟩
          · unfold Position.Before
            omega
          · rw [List.getElem?_drop] at hc
            rw [← hc]
            congr 1
            omega
        · refine ⟨hp, ?_, line', ?_, hc⟩
          · unfold Position.Before
            omega
          · rw [getElem?_linesFrom (by omega)] at hline'
            rw [← hline']
            congr 1
            omega
      · rintro ⟨-, hnot, line', hline', hc⟩
        unfold Position.Before at hnot
        by_cases hsame : q.line = p.line
        · rw [hsame, hline, Option.some.injEq] at hline'
          subst hline'
          refine Or.inl ⟨hsame, by omega, ?_⟩
          rw [List.getElem?_drop, ← hc]
          congr 1
          omega
        · refine Or.inr ⟨by omega, line', ?_, hc⟩
          rw [getElem?_linesFrom (by omega), ← hline']
          congr 1
          omega

theorem pairwise_lineCells (n column : Nat) (cs : List Char) :
    (lineCells n column cs).Pairwise CellBefore := by
  induction cs generalizing column with
  | nil =>
      exact List.Pairwise.nil
  | cons c cs ih =>
      refine List.Pairwise.cons ?_ (ih (column + 1))
      rintro ⟨q, d⟩ hq
      rcases mem_lineCells_iff.1 hq with ⟨hline, hcolumn, -⟩
      exact Or.inr ⟨hline.symm, hcolumn⟩

theorem pairwise_linesCells (n : Nat) (lines : List (List Char)) :
    (linesCells n lines).Pairwise CellBefore := by
  induction lines generalizing n with
  | nil =>
      exact List.Pairwise.nil
  | cons line rest ih =>
      refine List.pairwise_append.2 ⟨pairwise_lineCells n 0 line, ih (n + 1), ?_⟩
      rintro ⟨q, c⟩ hq ⟨r, d⟩ hr
      rcases mem_lineCells_iff.1 hq with ⟨hq, -, -⟩
      rcases mem_linesCells_iff.1 hr with ⟨hr, -⟩
      exact Or.inl (by simp only; omega)

/-- No position comes twice, and each comes in its place. -/
theorem pairwise_cellsFrom (s : MaskedSource) (p : Position) :
    (s.cellsFrom p).Pairwise CellBefore := by
  unfold cellsFrom
  cases s.linesFrom p.line with
  | nil =>
      exact List.Pairwise.nil
  | cons line rest =>
      refine List.pairwise_append.2 ⟨pairwise_lineCells _ _ _, pairwise_linesCells _ _, ?_⟩
      rintro ⟨q, c⟩ hq ⟨r, d⟩ hr
      rcases mem_lineCells_iff.1 hq with ⟨hq, -, -⟩
      rcases mem_linesCells_iff.1 hr with ⟨hr, -⟩
      exact Or.inl (by simp only; omega)

theorem char_unique (h : (q, c) ∈ s.cellsFrom p) (h' : (q, d) ∈ s.cellsFrom r) : c = d := by
  have hc := (mem_cellsFrom_iff.1 h).2.2
  have hd := (mem_cellsFrom_iff.1 h').2.2
  rw [hc] at hd
  exact Option.some.inj hd

/-! ## Texts between positions -/

/-- Reading from `p` on comes to `q` and goes on from there. -/
theorem cellsFrom_eq_append (hp : 0 < p.line) (hpq : ¬ q.Before p) :
    s.cellsFrom p = (s.cellsFrom p).filter (·.1.Before q) ++ s.cellsFrom q := by
  have hq : 0 < q.line := by
    unfold Position.Before at hpq
    omega
  refine List.Pairwise.eq_of_mem_iff (pairwise_cellsFrom s p) ?_ ?_
  · refine List.pairwise_append.2
      ⟨(pairwise_cellsFrom s p).filter _, pairwise_cellsFrom s q, ?_⟩
    rintro ⟨a, c⟩ ha ⟨b, d⟩ hb
    have haq : a.Before q := by
      simpa using (List.mem_filter.1 ha).2
    exact Position.before_of_before_of_not_before haq (mem_cellsFrom_iff.1 hb).2.1
  · rintro ⟨a, c⟩
    rw [List.mem_append, List.mem_filter, mem_cellsFrom_iff, mem_cellsFrom_iff, decide_eq_true_iff]
    by_cases haq : a.Before q
    · simp [haq, hp]
    · have hap : ¬ a.Before p :=
        fun h => haq (Position.before_of_before_of_not_before h hpq)
      simp [haq, hap, hp, hq]

theorem upTo_append (hp : 0 < p.line) (hpq : ¬ q.Before p) (hqr : ¬ r.Before q) :
    s.upTo p r = s.upTo p q ++ s.upTo q r := by
  have hfirst : ((s.cellsFrom p).filter (·.1.Before q)).filter (·.1.Before r) =
      (s.cellsFrom p).filter (·.1.Before q) := by
    refine List.filter_eq_self.2 ?_
    intro a ha
    have haq : a.1.Before q := by
      simpa using (List.mem_filter.1 ha).2
    simpa using Position.before_of_before_of_not_before haq hqr
  unfold upTo
  conv_lhs => rw [cellsFrom_eq_append hp hpq]
  rw [List.filter_append, hfirst, List.map_append]

theorem cellsFrom_cons (h : (s.rest p).head? = some c) :
    s.cellsFrom p = (p, c) :: s.cellsFrom ⟨p.line, p.column + 1⟩ := by
  unfold rest at h
  unfold cellsFrom
  cases hlines : s.linesFrom p.line with
  | nil =>
      rw [linesFrom_eq_nil.1 hlines] at h
      simp at h
  | cons line rest =>
      rw [(linesFrom_eq_cons.1 hlines).1, Option.getD_some] at h
      rcases List.head?_eq_some_iff.1 h with ⟨after, hafter⟩
      have hnext : line.drop (p.column + 1) = after := by
        rw [← List.drop_drop, hafter, List.drop_one, List.tail_cons]
      simp only [hafter, hnext, lineCells, List.cons_append]

theorem upTo_self (s : MaskedSource) (p : Position) : s.upTo p p = [] := by
  have hnone : (s.cellsFrom p).filter (·.1.Before p) = [] := by
    refine List.filter_eq_nil_iff.2 ?_
    rintro ⟨a, c⟩ ha
    simpa using (mem_cellsFrom_iff.1 ha).2.1
  simp [upTo, hnone]

theorem upTo_cons (h : (s.rest p).head? = some c) (hpq : p.Before q) :
    s.upTo p q = c :: s.upTo ⟨p.line, p.column + 1⟩ q := by
  unfold upTo
  rw [cellsFrom_cons h, List.filter_cons_of_pos (by simpa using hpq), List.map_cons]

/-- The text up to the line after `p` is the rest of the line. -/
theorem upTo_nextLine (s : MaskedSource) (p : Position) : s.upTo p ⟨p.line + 1, 0⟩ = s.rest p := by
  unfold upTo cellsFrom rest
  cases hlines : s.linesFrom p.line with
  | nil =>
      simp [linesFrom_eq_nil.1 hlines]
  | cons line rest =>
      have hline : ∀ a ∈ lineCells p.line p.column (line.drop p.column),
          a.1.Before ⟨p.line + 1, 0⟩ := by
        rintro ⟨a, c⟩ ha
        rcases mem_lineCells_iff.1 ha with ⟨ha, -, -⟩
        exact Or.inl (by simp only; omega)
      have hlater : ∀ a ∈ linesCells (p.line + 1) rest, ¬ a.1.Before ⟨p.line + 1, 0⟩ := by
        rintro ⟨a, c⟩ ha
        rcases mem_linesCells_iff.1 ha with ⟨ha, -⟩
        unfold Position.Before
        simp only
        omega
      rw [(linesFrom_eq_cons.1 hlines).1, Option.getD_some, List.filter_append,
        List.filter_eq_self.2 (by simpa using hline),
        List.filter_eq_nil_iff.2 (by simpa using hlater), List.append_nil, map_snd_lineCells]

/-- The text up to a character is what is read before it. -/
theorem upTo_of_eq_append {before after : List (Position × Char)}
    (h : s.cellsFrom p = before ++ (q, c) :: after) : s.upTo p q = before.map (·.2) := by
  have hsorted := pairwise_cellsFrom s p
  rw [h, List.pairwise_append, List.pairwise_cons] at hsorted
  rcases hsorted with ⟨-, ⟨hafter, -⟩, hbefore⟩
  have hkept : before.filter (·.1.Before q) = before := by
    refine List.filter_eq_self.2 ?_
    intro a ha
    exact decide_eq_true (hbefore a ha (q, c) (List.mem_cons_self ..))
  have hdropped : ((q, c) :: after).filter (·.1.Before q) = [] := by
    refine List.filter_eq_nil_iff.2 ?_
    intro a ha
    rcases List.mem_cons.1 ha with rfl | ha
    · simpa using Position.not_before_self q
    · simpa using (hafter a ha).not_before
  rw [upTo, h, List.filter_append, hkept, hdropped, List.append_nil]

/-! ## Where a scan stops -/

section Scan

variable {σ : Type} {step : σ → Char → Option σ} {start state : σ}

/-- The first character that a scan does not get past. -/
def stop? (step : σ → Char → Option σ) : σ → List (Position × Char) → Option (Position × Char)
  | _, [] => none
  | state, cell :: rest =>
      match step state cell.2 with
      | none => some cell
      | some state => stop? step state rest

theorem stop?_append (cells rest : List (Position × Char)) :
    stop? step start (cells ++ rest) =
      match (cells.map (·.2)).foldlM step start with
      | none => stop? step start cells
      | some state => stop? step state rest := by
  induction cells generalizing start with
  | nil =>
      rfl
  | cons cell cells ih =>
      simp only [List.cons_append, stop?, List.map_cons, List.foldlM_cons]
      cases step start cell.2 with
      | none =>
          rfl
      | some state =>
          exact ih

theorem stop?_eq_some_iff {cells : List (Position × Char)} {cell : Position × Char} :
    stop? step start cells = some cell ↔
      ∃ before after state, cells = before ++ cell :: after ∧
        (before.map (·.2)).foldlM step start = some state ∧ step state cell.2 = none := by
  induction cells generalizing start with
  | nil =>
      simp [stop?]
  | cons first cells ih =>
      rw [stop?]
      cases hfirst : step start first.2 with
      | none =>
          constructor
          · intro h
            cases h
            exact ⟨[], cells, start, rfl, rfl, hfirst⟩
          · rintro ⟨before, after, state, hcells, hrun, -⟩
            cases before with
            | nil =>
                cases hcells
                rfl
            | cons b before =>
                cases hcells
                simp [hfirst] at hrun
      | some next =>
          simp only [ih]
          constructor
          · rintro ⟨before, after, state, rfl, hrun, hstop⟩
            exact ⟨first :: before, after, state, rfl, by simp [hfirst, hrun], hstop⟩
          · rintro ⟨before, after, state, hcells, hrun, hstop⟩
            cases before with
            | nil =>
                cases hcells
                cases hrun
                rw [hfirst] at hstop
                cases hstop
            | cons b before =>
                cases hcells
                exact ⟨before, after, state, rfl, by simpa [hfirst] using hrun, hstop⟩

theorem stop?_eq_none_iff {cells : List (Position × Char)} :
    stop? step start cells = none ↔ ∃ state, (cells.map (·.2)).foldlM step start = some state := by
  induction cells generalizing start with
  | nil =>
      simp [stop?]
  | cons cell cells ih =>
      cases hcell : step start cell.2 <;> simp [stop?, hcell, ih]

theorem stop?_lineCells (n column : Nat) (cs : List Char) :
    stop? step start (lineCells n column cs) =
      match scanLine step start column cs with
      | .inl _ => none
      | .inr (k, c) => some (⟨n, k⟩, c) := by
  induction cs generalizing start column with
  | nil =>
      rfl
  | cons c cs ih =>
      rw [lineCells, stop?, scanLine]
      cases step start c with
      | none =>
          rfl
      | some state =>
          exact ih (column + 1)

theorem foldlM_eq_scanLine (column : Nat) (cs : List Char) :
    cs.foldlM step start =
      match scanLine step start column cs with
      | .inl state => some state
      | .inr _ => none := by
  induction cs generalizing start column with
  | nil =>
      rfl
  | cons c cs ih =>
      rw [scanLine, List.foldlM_cons]
      cases step start c with
      | none =>
          rfl
      | some state =>
          exact ih (column + 1)

/-- A line is scanned to its end, and then what follows it, unless the scan stops on the line. -/
theorem stop?_lineCells_append (n column : Nat) (cs : List Char) (rest : List (Position × Char)) :
    stop? step start (lineCells n column cs ++ rest) =
      match scanLine step start column cs with
      | .inl state => stop? step state rest
      | .inr (k, c) => some (⟨n, k⟩, c) := by
  rw [stop?_append, map_snd_lineCells, foldlM_eq_scanLine column, stop?_lineCells]
  cases scanLine step start column cs <;> rfl

theorem scanLines_eq (n : Nat) (lines : List (List Char)) :
    scanLines step start n lines = stop? step start (linesCells n lines) := by
  induction lines generalizing start n with
  | nil =>
      rfl
  | cons line rest ih =>
      rw [scanLines, linesCells, stop?_lineCells_append]
      cases scanLine step start 0 line with
      | inl state =>
          exact ih (n + 1)
      | inr cell =>
          rfl

/-- Line ends do not matter to a scan. -/
theorem scan_eq (s : MaskedSource) (p : Position) :
    s.scan step start p = stop? step start (s.cellsFrom p) := by
  unfold scan cellsFrom
  cases s.linesFrom p.line with
  | nil =>
      rfl
  | cons line rest =>
      simp only [stop?_lineCells_append]
      cases scanLine step start p.column (line.drop p.column) with
      | inl state =>
          exact scanLines_eq (p.line + 1) rest
      | inr cell =>
          rfl

/-- Short of where a scan stops it gets past each character. -/
theorem exists_passed {before after : List (Position × Char)}
    (hcells : s.cellsFrom p = before ++ after)
    (hrun : (before.map (·.2)).foldlM step start = some state) (hr : (r, d) ∈ before) :
    ∃ state' next, (s.upTo p r).foldlM step start = some state' ∧ step state' d = some next := by
  rcases List.mem_iff_append.1 hr with ⟨earlier, later, rfl⟩
  rw [List.append_assoc, List.cons_append] at hcells
  rw [upTo_of_eq_append hcells]
  simp only [List.map_append, List.map_cons, List.foldlM_append, List.foldlM_cons] at hrun
  cases hearlier : (earlier.map (·.2)).foldlM step start with
  | none =>
      simp [hearlier] at hrun
  | some state' =>
      cases hnext : step state' d with
      | none =>
          simp [hearlier, hnext] at hrun
      | some next =>
          exact ⟨state', next, rfl, hnext⟩

theorem mem_cellsFrom_of_stop? {cells : List (Position × Char)} {cell : Position × Char}
    (h : stop? step start cells = some cell) : cell ∈ cells := by
  rcases stop?_eq_some_iff.1 h with ⟨before, after, -, rfl, -, -⟩
  simp

/-- The text up to a position is scanned to its end unless the scan stops before that position. -/
theorem foldlM_upTo_eq_none_iff (hp : 0 < p.line) (hpr : ¬ r.Before p) :
    (s.upTo p r).foldlM step start = none ↔
      ∃ q c, s.scan step start p = some (q, c) ∧ q.Before r := by
  rw [scan_eq, cellsFrom_eq_append hp hpr, stop?_append]
  cases hrun : (s.upTo p r).foldlM step start with
  | none =>
      rw [upTo] at hrun
      simp only [hrun, true_iff]
      cases hstop : stop? step start ((s.cellsFrom p).filter (·.1.Before r)) with
      | none =>
          rcases stop?_eq_none_iff.1 hstop with ⟨state, hstate⟩
          rw [hrun] at hstate
          cases hstate
      | some cell =>
          have hcell := List.mem_filter.1 (mem_cellsFrom_of_stop? hstop)
          exact ⟨cell.1, cell.2, rfl, by simpa using hcell.2⟩
  | some state =>
      rw [upTo] at hrun
      simp only [hrun, reduceCtorEq, false_iff]
      rintro ⟨q, c, hstop, hqr⟩
      exact (mem_cellsFrom_iff.1 (mem_cellsFrom_of_stop? hstop)).2.1 hqr

/-- The first character from `p` on at which a condition on it and on the text before it holds. -/
structure IsFirst (s : MaskedSource) (p : Position) (stops : List Char → Char → Prop)
    (q : Position) (c : Char) : Prop where
  mem : (q, c) ∈ s.cellsFrom p
  holds : stops (s.upTo p q) c
  first : ∀ r d, (r, d) ∈ s.cellsFrom p → r.Before q → ¬ stops (s.upTo p r) d

variable {stops : List Char → Char → Prop}

theorem IsFirst.unique (h : s.IsFirst p stops q c) (h' : s.IsFirst p stops r d) :
    q = r ∧ c = d := by
  have hqr : q = r :=
    Position.eq_of_not_before (fun hbefore => h'.first q c h.mem hbefore h.holds)
      (fun hbefore => h.first r d h'.mem hbefore h'.holds)
  subst hqr
  exact ⟨rfl, char_unique h.mem h'.mem⟩

section First

variable (hstops : ∀ q c, (q, c) ∈ s.cellsFrom p → ∀ state,
  (s.upTo p q).foldlM step start = some state → (step state c = none ↔ stops (s.upTo p q) c))

include hstops

theorem not_stops_of_scan_eq_none (h : s.scan step start p = none) (hq : (q, c) ∈ s.cellsFrom p) :
    ¬ stops (s.upTo p q) c := by
  rw [scan_eq, stop?_eq_none_iff] at h
  rcases h with ⟨state, hrun⟩
  rcases exists_passed (List.append_nil _).symm hrun hq with ⟨state', next, hrun', hnext⟩
  rw [← hstops q c hq state' hrun', hnext]
  exact Option.some_ne_none next

theorem isFirst_of_scan_eq_some (h : s.scan step start p = some (q, c)) :
    s.IsFirst p stops q c := by
  rw [scan_eq, stop?_eq_some_iff] at h
  rcases h with ⟨before, after, state, hcells, hrun, hstop⟩
  have hq : (q, c) ∈ s.cellsFrom p := by
    simp [hcells]
  refine ⟨hq, ?_, ?_⟩
  · rw [← hstops q c hq state (by rw [upTo_of_eq_append hcells, hrun])]
    exact hstop
  · intro r d hr hrq
    -- What stands before the stop has been passed.
    have hbefore : (r, d) ∈ before := by
      have hsorted := pairwise_cellsFrom s p
      rw [hcells, List.pairwise_append, List.pairwise_cons] at hsorted
      rw [hcells, List.mem_append, List.mem_cons] at hr
      rcases hr with hr | hr | hr
      · exact hr
      · cases hr
        exact absurd hrq (Position.not_before_self q)
      · exact absurd hrq (hsorted.2.1.1 (r, d) hr).not_before
    rcases exists_passed hcells hrun hbefore with ⟨state', next, hrun', hnext⟩
    rw [← hstops r d hr state' hrun', hnext]
    exact Option.some_ne_none next

/-- A scan stops at the first character at which the condition holds that its step stands for. -/
theorem scan_eq_some_iff_isFirst :
    s.scan step start p = some (q, c) ↔ s.IsFirst p stops q c := by
  constructor
  · exact isFirst_of_scan_eq_some hstops
  · intro h
    cases hscan : s.scan step start p with
    | none =>
        exact absurd h.holds (not_stops_of_scan_eq_none hstops hscan h.mem)
    | some cell =>
        rcases (isFirst_of_scan_eq_some hstops hscan).unique h with ⟨hq, hc⟩
        exact congrArg some (Prod.ext hq hc)

end First

end Scan

end MaskedSource

end BinaryCoverage
