import BinaryCoverage.Proofs.Source.Bracket

/-!
# Line ends do not matter to the scanners

A source is a text that is broken into lines, and a position stands after so many characters of it.
This file defines:

* `MaskedSource.text` — the characters of a source, without its line ends;
* `MaskedSource.offset` — how many of them stand before a position;
* `MaskedSource.Rebreaks` — a text in other lines, with a position before the same character;
* `stopIndex?` — the place in a text at which a scan stops;

and shows that the scanners find the brackets and semicolons that they are meant to find, and the same
ones however the text is broken into lines (`scanners_find`).
-/

namespace BinaryCoverage.MaskedSource

variable {s s' : MaskedSource} {p p' q : Position} {c : Char}

/-! ## Offsets -/

def text (s : MaskedSource) : List Char := s.lines.flatten

/-- Where a source starts. -/
def origin : Position := ⟨1, 0⟩

/-- How many characters stand before a position. -/
def offset (s : MaskedSource) (p : Position) : Nat := (s.upTo origin p).length

/-- The other source has the same text, perhaps in other lines, and the same part of it stands before
`p'` as before `p`. -/
structure Rebreaks (s : MaskedSource) (p : Position) (s' : MaskedSource) (p' : Position) :
    Prop where
  text : s'.text = s.text
  offset : s'.offset p' = s.offset p
  -- Lines are numbered from one.
  line : 0 < p.line
  line' : 0 < p'.line

theorem not_before_origin (hp : 0 < p.line) : ¬ p.Before origin := by
  unfold Position.Before origin
  simp only
  omega

theorem map_snd_cellsFrom_origin (s : MaskedSource) : (s.cellsFrom origin).map (·.2) = s.text := by
  have hcells : s.cellsFrom origin = linesCells 1 s.lines := by
    unfold cellsFrom origin linesFrom
    cases s.lines <;> rfl
  rw [hcells, map_snd_linesCells, text]

/-- What is read from a position on is the text without what stands before it. -/
theorem map_snd_cellsFrom_eq_drop (hp : 0 < p.line) :
    (s.cellsFrom p).map (·.2) = s.text.drop (s.offset p) := by
  have hsplit : s.text = s.upTo origin p ++ (s.cellsFrom p).map (·.2) := by
    rw [← map_snd_cellsFrom_origin, cellsFrom_eq_append (p := origin) Nat.one_pos
      (not_before_origin hp), List.map_append, upTo]
  rw [hsplit, offset, List.drop_left]

/-- Offsets count on with the characters that are read. -/
theorem offset_of_getElem? {k : Nat} (h : (s.cellsFrom p)[k]? = some (q, c)) :
    s.offset q = s.offset p + k := by
  obtain ⟨hk, hcell⟩ := List.getElem?_eq_some_iff.1 h
  have hsplit : s.cellsFrom p = (s.cellsFrom p).take k ++ (q, c) :: (s.cellsFrom p).drop (k + 1) := by
    rw [← hcell, ← List.drop_eq_getElem_cons, List.take_append_drop]
  -- The cells in front of the one at `q` are what stands between the two positions.
  have hmem : (q, c) ∈ s.cellsFrom p := List.mem_of_getElem? h
  obtain ⟨hp, hnot, -⟩ := mem_cellsFrom_iff.1 hmem
  calc
    s.offset q
        = (s.upTo origin p ++ s.upTo p q).length := by
          rw [offset, upTo_append Nat.one_pos (not_before_origin hp) hnot]
    _ = s.offset p + ((s.cellsFrom p).take k).length := by
          rw [List.length_append, upTo_of_eq_append hsplit, List.length_map, offset]
    _ = s.offset p + k := by
          rw [List.length_take_of_le (Nat.le_of_lt hk)]

/-- An offset is the place of a character in the text. -/
theorem getElem?_text_offset (hq : (q, c) ∈ s.cellsFrom p) : s.text[s.offset q]? = some c := by
  obtain ⟨k, hk⟩ := List.mem_iff_getElem?.1 hq
  have hp : 0 < p.line := (mem_cellsFrom_iff.1 hq).1
  have hchar : ((s.cellsFrom p).map (·.2))[k]? = some c := by
    rw [List.getElem?_map, hk, Option.map_some]
  rw [map_snd_cellsFrom_eq_drop hp, List.getElem?_drop] at hchar
  rw [offset_of_getElem? hk, hchar]

theorem offset_next (hq : (q, c) ∈ s.cellsFrom p) :
    s.offset ⟨q.line, q.column + 1⟩ = s.offset q + 1 := by
  obtain ⟨hp, hnot, hhead⟩ := mem_cellsFrom_iff.1 hq
  have hline : 0 < q.line := by
    unfold Position.Before at hnot
    omega
  have hnext : ¬ (Position.mk q.line (q.column + 1)).Before q := by
    unfold Position.Before
    simp
  have hbefore : q.Before ⟨q.line, q.column + 1⟩ := by
    exact Or.inr ⟨rfl, Nat.lt_succ_self q.column⟩
  have hone : s.upTo q ⟨q.line, q.column + 1⟩ = [c] := by
    rw [upTo_cons hhead hbefore, upTo_self]
  rw [offset, upTo_append Nat.one_pos (not_before_origin hline) hnext, hone, List.length_append,
    offset, List.length_singleton]

/-! ## Scans of a text -/

section Scan

variable {σ : Type} {step : σ → Char → Option σ} {start : σ}

def stopIndex? (step : σ → Char → Option σ) : σ → List Char → Option Nat
  | _, [] => none
  | state, c :: cs =>
      match step state c with
      | none => some 0
      | some state => (stopIndex? step state cs).map (· + 1)

theorem stop?_eq_bind (cells : List (Position × Char)) :
    stop? step start cells = (stopIndex? step start (cells.map (·.2))).bind (cells[·]?) := by
  induction cells generalizing start with
  | nil =>
      rfl
  | cons cell rest ih =>
      rw [stop?, List.map_cons, stopIndex?]
      cases step start cell.2 with
      | none =>
          rfl
      | some state =>
          dsimp only
          rw [ih, Option.bind_map]
          rfl

theorem stopIndex?_lt {cs : List Char} {k : Nat} (h : stopIndex? step start cs = some k) :
    k < cs.length := by
  induction cs generalizing start k with
  | nil =>
      cases h
  | cons c cs ih =>
      rw [stopIndex?] at h
      cases hstep : step start c with
      | none =>
          rw [hstep] at h
          cases h
          exact Nat.succ_pos _
      | some state =>
          rw [hstep] at h
          obtain ⟨j, hj, rfl⟩ := Option.map_eq_some_iff.1 h
          exact Nat.succ_lt_succ (ih hj)

/-- A scan from a position on is a scan of the text that follows it. -/
theorem offset_scan (hp : 0 < p.line) :
    (s.scan step start p).map (s.offset ·.1) =
      (stopIndex? step start (s.text.drop (s.offset p))).map (s.offset p + ·) := by
  rw [scan_eq, stop?_eq_bind, map_snd_cellsFrom_eq_drop hp]
  cases hindex : stopIndex? step start (s.text.drop (s.offset p)) with
  | none =>
      rfl
  | some k =>
      have hk : k < (s.cellsFrom p).length := by
        rw [← List.length_map (·.2), map_snd_cellsFrom_eq_drop hp]
        exact stopIndex?_lt hindex
      have hoffset : s.offset (s.cellsFrom p)[k].1 = s.offset p + k :=
        offset_of_getElem? (List.getElem?_eq_getElem hk)
      rw [Option.bind_some, List.getElem?_eq_getElem hk, Option.map_some, Option.map_some, hoffset]

/-- However the text is broken into lines, a scan stops at the same character of it. -/
theorem Rebreaks.scan (h : s.Rebreaks p s' p') :
    (s'.scan step start p').map (s'.offset ·.1) = (s.scan step start p).map (s.offset ·.1) := by
  rw [offset_scan h.line, offset_scan h.line', h.text, h.offset]

theorem mem_cellsFrom_of_scan (h : s.scan step start p = some (q, c)) : (q, c) ∈ s.cellsFrom p := by
  rw [scan_eq] at h
  exact mem_cellsFrom_of_stop? h

end Scan

/-! ## The scanners -/

theorem Rebreaks.blockEnd? (h : s.Rebreaks p s' p') :
    (s'.blockEnd? p').map s'.offset = (s.blockEnd? p).map s.offset := by
  simp only [MaskedSource.blockEnd?, Option.map_map]
  exact h.scan

theorem Rebreaks.statementEnd? (h : s.Rebreaks p s' p') :
    (s'.statementEnd? p').map s'.offset = (s.statementEnd? p).map s.offset := by
  simp only [MaskedSource.statementEnd?, Option.map_map]
  exact h.scan

/-- The end of a condition comes right after the parenthesis at which the scan stops. -/
theorem offset_conditionEnd? (s : MaskedSource) (p : Position) :
    (s.conditionEnd? p).map s.offset =
      ((s.scan conditionStep 0 p).map (s.offset ·.1)).map (· + 1) := by
  unfold MaskedSource.conditionEnd?
  cases hscan : s.scan conditionStep 0 p with
  | none =>
      rfl
  | some cell =>
      exact congrArg some (offset_next (mem_cellsFrom_of_scan hscan))

theorem Rebreaks.conditionEnd? (h : s.Rebreaks p s' p') :
    (s'.conditionEnd? p').map s'.offset = (s.conditionEnd? p).map s.offset := by
  rw [offset_conditionEnd?, offset_conditionEnd?, h.scan]

/-- The scanners find the brackets that match and the semicolons outside of parentheses, they fail
only where there are none, and line ends between characters do not change what they find. -/
theorem scanners_find (s : MaskedSource) (p : Position) :
    (∀ stop, s.conditionEnd? p = some stop ↔
      ∃ q, s.ClosesCondition p q ∧ stop = ⟨q.line, q.column + 1⟩) ∧
    (s.conditionEnd? p = none ↔ ∀ q, ¬ s.ClosesCondition p q) ∧
    ((s.rest p).head? = some '{' →
      (∀ close, s.blockEnd? p = some close ↔ s.ClosesBlock p close) ∧
      (s.blockEnd? p = none ↔ ∀ close, ¬ s.ClosesBlock p close)) ∧
    (∀ stop, s.statementEnd? p = some stop ↔ s.EndsStatement p stop) ∧
    (s.statementEnd? p = none ↔ ∀ stop, ¬ s.EndsStatement p stop) ∧
    (∀ q c, (q, c) ∈ s.cellsFrom p → s.text[s.offset q]? = some c) ∧
    ∀ s' p', s.Rebreaks p s' p' →
      (s'.conditionEnd? p').map s'.offset = (s.conditionEnd? p).map s.offset ∧
      (s'.blockEnd? p').map s'.offset = (s.blockEnd? p).map s.offset ∧
      (s'.statementEnd? p').map s'.offset = (s.statementEnd? p).map s.offset := by
  refine ⟨?_, conditionEnd?_eq_none_iff, ?_, ?_, statementEnd?_eq_none_iff, ?_, ?_⟩
  · intro stop
    exact conditionEnd?_eq_some_iff
  · intro hstart
    exact ⟨fun close => blockEnd?_eq_some_iff hstart, blockEnd?_eq_none_iff hstart⟩
  · intro stop
    exact statementEnd?_eq_some_iff
  · intro q c hq
    exact getElem?_text_offset hq
  · intro s' p' h
    exact ⟨h.conditionEnd?, h.blockEnd?, h.statementEnd?⟩

/-- A block with a condition over two lines and a surplus parenthesis at its start. -/
def overLines : MaskedSource := .ofText "\x7b) if (a\n) \x7b f(;); \x7d\n\x7d ;"

theorem scanners_find_overLines :
    let joined : MaskedSource := .ofText "\x7b) if (a) \x7b f(;\n); \x7d\x7d ;"
    (overLines.rest origin).head? = some '{' ∧ overLines.Rebreaks origin joined origin ∧
      overLines.ClosesCondition origin ⟨2, 0⟩ ∧ overLines.ClosesBlock origin ⟨3, 0⟩ ∧
      overLines.EndsStatement origin ⟨2, 8⟩ ∧ (joined.blockEnd? origin).map joined.offset = some 19 := by
  intro joined
  have hstart : (overLines.rest origin).head? = some '{' := by
    decide +kernel
  have hrebreaks : overLines.Rebreaks origin joined origin := by
    refine ⟨?_, ?_, Nat.one_pos, Nat.one_pos⟩ <;> decide +kernel
  obtain ⟨hcondition, -, hblock, hstatement, -, -, hsame⟩ := scanners_find overLines origin
  have hclose : overLines.ClosesBlock origin ⟨3, 0⟩ := by
    apply ((hblock hstart).1 ⟨3, 0⟩).1
    decide +kernel
  have hend : overLines.EndsStatement origin ⟨2, 8⟩ := by
    apply (hstatement ⟨2, 8⟩).1
    decide +kernel
  obtain ⟨q, hq, hafter⟩ := (hcondition ⟨2, 1⟩).1 (by decide +kernel)
  have hplace : q = ⟨2, 0⟩ := by
    rcases q with ⟨line, column⟩
    simpa [eq_comm] using hafter
  have hoffset : (overLines.blockEnd? origin).map overLines.offset = some 19 := by
    decide +kernel
  exact ⟨hstart, hrebreaks, hplace ▸ hq, hclose, hend, (hsame joined origin hrebreaks).2.1.trans hoffset⟩

end BinaryCoverage.MaskedSource
