import BinaryCoverage.Proofs.Source.Order
import BinaryCoverage.Proofs.Text.Lines

/-!
# A source inside a larger one

Lines may stand above and below those of a source.  Its positions are then further down.  This file
defines:

* `Text.terminated` — the text of some lines, each with its line end;
* `Position.down` — a position with so many more lines above it;
* `MaskedSource.within` — a source with lines above and below;

and shows that a scan which stops within a source stops at the same character of the larger one
(`scan_within`).
-/

namespace BinaryCoverage

/-! ## Terminated lines -/

namespace Text

def terminated (lines : List (List Char)) : List Char := lines.flatMap (· ++ ['\n'])

theorem lines_terminated {ls : List (List Char)} (h : ∀ line ∈ ls, '\n' ∉ line) :
    lines (terminated ls) = ls.map dropReturn := by
  have hnone : linesOfPieces [[]] = [] := rfl
  rw [lines, terminated, pieces_flatMap_newline h, linesOfPieces_append _ (List.cons_ne_nil _ _),
    hnone, List.append_nil]

end Text

namespace Position

def down (p : Position) (k : Nat) : Position := ⟨p.line + k, p.column⟩

@[simp] theorem line_down (p : Position) (k : Nat) : (p.down k).line = p.line + k := rfl

@[simp] theorem column_down (p : Position) (k : Nat) : (p.down k).column = p.column := rfl

end Position

namespace MaskedSource

/-- The source with other lines above and below its own. -/
def within (above below : List (List Char)) (s : MaskedSource) : MaskedSource :=
  ⟨above ++ (s.lines ++ below)⟩

/-- The source of terminated lines is their source inside that of the lines around them. -/
theorem ofChars_terminated {above inner below : List (List Char)}
    (h : ∀ line ∈ above ++ inner ++ below, '\n' ∉ line) :
    ∃ front back, front.length = above.length ∧
      ofChars (Text.terminated (above ++ inner ++ below)) =
        (ofChars (Text.terminated inner)).within front back := by
  have hinner : ∀ line ∈ inner, '\n' ∉ line := by
    intro line hline
    exact h line (List.mem_append_left _ (List.mem_append_right _ hline))
  refine ⟨above.map (Source.maskLine ∘ Text.dropReturn), below.map (Source.maskLine ∘ Text.dropReturn),
    List.length_map _, ?_⟩
  rw [ofChars, Text.lines_terminated h, ofChars, Text.lines_terminated hinner]
  simp only [within, List.map_append, List.map_map, List.append_assoc]

theorem size_ofChars_terminated {inner : List (List Char)} (h : ∀ line ∈ inner, '\n' ∉ line) :
    (ofChars (Text.terminated inner)).size = inner.length := by
  simp [ofChars, size, Text.lines_terminated h]

variable {s : MaskedSource} {above below : List (List Char)} {line : List Char} {p q : Position}
  {c : Char} {n : Nat}

/-! ## Lines -/

theorem line?_bounds (h : s.line? n = some line) : 0 < n ∧ n ≤ s.size := by
  cases n with
  | zero =>
      cases h
  | succ n =>
      have hn := (List.getElem?_eq_some_iff.1 h).1
      exact ⟨Nat.succ_pos n, hn⟩

theorem exists_line_of_head? (h : (s.rest p).head? = some c) : ∃ line, s.line? p.line = some line := by
  cases hline : s.line? p.line with
  | none =>
      simp [rest, hline] at h
  | some line =>
      exact ⟨line, rfl⟩

theorem exists_line_of_le (hn : 0 < n) (hsize : n ≤ s.size) : ∃ line, s.line? n = some line := by
  cases n with
  | zero =>
      exact absurd hn (Nat.lt_irrefl 0)
  | succ n =>
      exact ⟨s.lines[n], List.getElem?_eq_getElem hsize⟩

theorem linesFrom_within (hn : 0 < n) (hsize : n ≤ s.size + 1) :
    (s.within above below).linesFrom (n + above.length) = s.linesFrom n ++ below := by
  cases n with
  | zero =>
      exact absurd hn (Nat.lt_irrefl 0)
  | succ n =>
      have hplace : n + 1 + above.length = n + above.length + 1 := by
        omega
      have hinner : n - s.lines.length = 0 := by
        unfold size at hsize
        omega
      rw [hplace, linesFrom, linesFrom, within, List.drop_append, List.drop_append,
        List.drop_eq_nil_of_le (Nat.le_add_left _ _), Nat.add_sub_cancel, hinner, List.drop_zero,
        List.nil_append]

theorem line?_within (h : s.line? n = some line) :
    (s.within above below).line? (n + above.length) = some line := by
  obtain ⟨hn, hsize⟩ := line?_bounds h
  have hlines : s.linesFrom n = line :: s.linesFrom (n + 1) := linesFrom_eq_cons.2 ⟨h, rfl⟩
  have houter : (s.within above below).linesFrom (n + above.length) = s.linesFrom n ++ below :=
    linesFrom_within hn (Nat.le_succ_of_le hsize)
  rw [hlines, List.cons_append] at houter
  exact (linesFrom_eq_cons.1 houter).1

theorem rest_within (h : s.line? p.line = some line) :
    (s.within above below).rest (p.down above.length) = s.rest p := by
  simp only [rest, Position.down, line?_within h, h]

/-! ## Scans -/

section Scan

variable {σ : Type} {step : σ → Char → Option σ} {start : σ}

/-- The numbers of the lines do not matter to a scan, nor do the lines below its end. -/
theorem scanLines_append {lines : List (List Char)}
    (h : scanLines step start n lines = some (q, c)) (k : Nat) :
    scanLines step start (n + k) (lines ++ below) = some (q.down k, c) := by
  induction lines generalizing start n with
  | nil =>
      cases h
  | cons line rest ih =>
      rw [scanLines] at h
      rw [List.cons_append, scanLines]
      cases hline : scanLine step start 0 line with
      | inr cell =>
          rw [hline] at h
          cases h
          rfl
      | inl state =>
          rw [hline] at h
          have hrest := ih h
          rw [Nat.add_right_comm] at hrest
          exact hrest

theorem scan_within (h : s.scan step start p = some (q, c)) :
    (s.within above below).scan step start (p.down above.length) =
      some (q.down above.length, c) := by
  unfold scan at h
  cases hlines : s.linesFrom p.line with
  | nil =>
      rw [hlines] at h
      cases h
  | cons line rest =>
      obtain ⟨hpos, hsize⟩ := line?_bounds (linesFrom_eq_cons.1 hlines).1
      have houter : (s.within above below).linesFrom (p.down above.length).line =
          line :: (rest ++ below) := by
        rw [Position.line_down, linesFrom_within hpos (Nat.le_succ_of_le hsize), hlines,
          List.cons_append]
      rw [hlines] at h
      unfold scan
      rw [houter]
      dsimp only [Position.down] at h ⊢
      -- The scan stops on the first line, or goes on through the lines after it.
      cases hline : scanLine step start p.column (line.drop p.column) with
      | inr cell =>
          rw [hline] at h
          cases h
          rfl
      | inl state =>
          rw [hline] at h
          simp only [Nat.add_right_comm p.line above.length 1]
          exact scanLines_append h above.length

/-- A scan stops on a line of the source. -/
theorem exists_line_of_scan (h : s.scan step start p = some (q, c)) :
    ∃ line, s.line? q.line = some line := by
  rw [scan_eq] at h
  exact exists_line_of_head? (mem_cellsFrom_iff.1 (mem_cellsFrom_of_stop? h)).2.2

end Scan

theorem exists_line_of_blockEnd? (h : s.blockEnd? p = some q) : ∃ line, s.line? q.line = some line := by
  obtain ⟨⟨r, c⟩, hscan, rfl⟩ := Option.map_eq_some_iff.1 h
  exact exists_line_of_scan hscan

theorem exists_line_of_statementEnd? (h : s.statementEnd? p = some q) :
    ∃ line, s.line? q.line = some line := by
  obtain ⟨⟨r, c⟩, hscan, rfl⟩ := Option.map_eq_some_iff.1 h
  exact exists_line_of_scan hscan

theorem nextToken?_within (h : s.nextToken? p = some (q, c)) :
    (s.within above below).nextToken? (p.down above.length) = some (q.down above.length, c) :=
  scan_within h

theorem conditionEnd?_within (h : s.conditionEnd? p = some q) :
    (s.within above below).conditionEnd? (p.down above.length) = some (q.down above.length) := by
  obtain ⟨⟨r, c⟩, hscan, rfl⟩ := Option.map_eq_some_iff.1 h
  rw [conditionEnd?, scan_within hscan]
  rfl

theorem blockEnd?_within (h : s.blockEnd? p = some q) :
    (s.within above below).blockEnd? (p.down above.length) = some (q.down above.length) := by
  obtain ⟨⟨r, c⟩, hscan, rfl⟩ := Option.map_eq_some_iff.1 h
  rw [blockEnd?, scan_within hscan]
  rfl

theorem statementEnd?_within (h : s.statementEnd? p = some q) :
    (s.within above below).statementEnd? (p.down above.length) = some (q.down above.length) := by
  obtain ⟨⟨r, c⟩, hscan, rfl⟩ := Option.map_eq_some_iff.1 h
  rw [statementEnd?, scan_within hscan]
  rfl

end MaskedSource

end BinaryCoverage
