import BinaryCoverage.Text.Lines
import Mathlib.Data.List.Basic

/-!
# Laws of lines

A text is a row of terminated lines and what follows them, and is taken apart line by line.  This
file shows:

* `Text.pieces_append_cons` — a separator splits the pieces;
* `Text.splitOnce?_append_cons` — a text is split at the first of its separators;
* `Text.pieces_flatMap_newline` — the pieces of terminated lines are these lines;
* `Text.lines_append` — after a terminated text, the lines of what follows are added to its own;
* `Text.map_dropReturns_lines_withReturns` — carriage returns at the line ends change no line.
-/

namespace BinaryCoverage.Text

/-! ## Pieces -/

section Pieces

variable {sep : Char → Bool}

theorem pieces_ne_nil (cs : List Char) : pieces sep cs ≠ [] := by
  cases cs with
  | nil =>
      simp [pieces]
  | cons c cs =>
      rw [pieces]
      split
      · simp
      · split <;> simp

theorem pieces_cons_of_not {c : Char} (h : sep c = false) {cs w : List Char} {ws : List (List Char)}
    (hcs : pieces sep cs = w :: ws) : pieces sep (c :: cs) = (c :: w) :: ws := by
  simp [pieces, h, hcs]

theorem pieces_of_forall_not {cs : List Char} (h : ∀ c ∈ cs, sep c = false) :
    pieces sep cs = [cs] := by
  induction cs with
  | nil =>
      rfl
  | cons c cs ih =>
      exact pieces_cons_of_not (h c (by simp)) (ih fun d hd => h d (by simp [hd]))

theorem pieces_append_cons {c : Char} (h : sep c = true) (cs ds : List Char) :
    pieces sep (cs ++ c :: ds) = pieces sep cs ++ pieces sep ds := by
  induction cs with
  | nil =>
      simp [pieces, h]
  | cons b cs ih =>
      cases hb : sep b with
      | true =>
          simp [pieces, hb, ih]
      | false =>
          -- The first piece of `cs` is there, so that `b` goes into it on both sides.
          have hsome : pieces sep cs ≠ [] := pieces_ne_nil cs
          obtain ⟨w, ws, hcs⟩ := List.exists_cons_of_ne_nil hsome
          have hall : pieces sep (cs ++ c :: ds) = w :: (ws ++ pieces sep ds) := by
            rw [ih, hcs, List.cons_append]
          rw [List.cons_append, pieces_cons_of_not hb hall, pieces_cons_of_not hb hcs,
            List.cons_append]

theorem splitOnce?_append_cons {c : Char} {cs : List Char} (h : c ∉ cs) (ds : List Char) :
    splitOnce? [c] (cs ++ c :: ds) = some (cs, ds) := by
  induction cs with
  | nil =>
      simp [splitOnce?, dropPrefix?]
  | cons b cs ih =>
      simp only [List.mem_cons, not_or] at h
      have hrest := ih h.2
      simp [splitOnce?, dropPrefix?, h.1, hrest]

end Pieces

/-! ## Terminated texts -/

/-- Every line of the text has its line end. -/
def isTerminated (cs : List Char) : Bool := cs.getLast?.all (· == '\n')

theorem linesOfPieces_append (ps : List (List Char)) {qs : List (List Char)} (hqs : qs ≠ []) :
    linesOfPieces (ps ++ qs) = ps.map dropReturn ++ linesOfPieces qs := by
  induction ps with
  | nil =>
      rfl
  | cons p ps ih =>
      obtain ⟨r, rs, hrest⟩ := List.exists_cons_of_ne_nil (List.append_ne_nil_of_right_ne_nil ps hqs)
      have hcons : linesOfPieces (p :: r :: rs) = dropReturn p :: linesOfPieces (r :: rs) := rfl
      rw [List.cons_append, hrest, hcons, ← hrest, ih, List.map_cons, List.cons_append]

theorem lines_append {cs : List Char} (h : isTerminated cs) (ds : List Char) :
    lines (cs ++ ds) = lines cs ++ lines ds := by
  rcases List.eq_nil_or_concat cs with rfl | ⟨es, c, rfl⟩
  · rfl
  · have hc : c = '\n' := by
      simpa [isTerminated] using h
    subst hc
    have hlines : ∀ xs, lines (es ++ '\n' :: xs) =
        (pieces (· == '\n') es).map dropReturn ++ lines xs := by
      intro xs
      unfold lines
      rw [pieces_append_cons (by decide), linesOfPieces_append _ (pieces_ne_nil xs)]
    have hnone : lines [] = [] := rfl
    rw [List.concat_eq_append, List.append_assoc, List.singleton_append, hlines ds, hlines [],
      hnone, List.append_nil]

/-- Induction over a text by its lines. -/
theorem byLines {motive : List Char → Prop} (last : ∀ a, '\n' ∉ a → motive a)
    (more : ∀ a rest, '\n' ∉ a → motive rest → motive (a ++ '\n' :: rest)) (cs : List Char) :
    motive cs := by
  -- The line that is being read is carried along as `a`.
  suffices hgeneral : ∀ a, '\n' ∉ a → motive (a ++ cs) from hgeneral [] (by simp)
  induction cs with
  | nil =>
      intro a ha
      simpa using last a ha
  | cons c cs ih =>
      intro a ha
      by_cases hc : c = '\n'
      · subst hc
        exact more a cs ha (ih [] (by simp))
      · have hlonger := ih (a ++ [c]) (by simp [ha, Ne.symm hc])
        simpa using hlonger

theorem pieces_newline {a : List Char} (ha : '\n' ∉ a) : pieces (· == '\n') a = [a] :=
  pieces_of_forall_not fun c hc => by
    have hne : c ≠ '\n' := fun h => ha (h ▸ hc)
    simpa using hne

theorem pieces_flatMap_newline {ls : List (List Char)} (h : ∀ l ∈ ls, '\n' ∉ l) :
    pieces (· == '\n') (ls.flatMap (· ++ ['\n'])) = ls ++ [[]] := by
  induction ls with
  | nil =>
      rfl
  | cons l ls ih =>
      have hfirst := pieces_newline (h l (by simp))
      have hrest := ih fun m hm => h m (by simp [hm])
      rw [List.flatMap_cons, List.append_assoc, List.singleton_append,
        pieces_append_cons (by decide), hfirst, hrest]
      rfl

theorem lines_cons {a : List Char} (ha : '\n' ∉ a) (rest : List Char) :
    lines (a ++ '\n' :: rest) = dropReturn a :: lines rest := by
  unfold lines
  rw [pieces_append_cons (by decide), linesOfPieces_append _ (pieces_ne_nil rest),
    pieces_newline ha]
  rfl

/-! ## Carriage returns -/

/-- The text with a carriage return before each line feed. -/
def withReturns (cs : List Char) : List Char :=
  cs.flatMap fun c => if c = '\n' then ['\r', '\n'] else [c]

theorem withReturns_of_notMem {a : List Char} (ha : '\n' ∉ a) : withReturns a = a := by
  induction a with
  | nil =>
      rfl
  | cons c a ih =>
      simp only [List.mem_cons, not_or] at ha
      have hrest := ih ha.2
      unfold withReturns at hrest ⊢
      rw [List.flatMap_cons, if_neg (Ne.symm ha.1), hrest, List.singleton_append]

theorem withReturns_cons {a : List Char} (ha : '\n' ∉ a) (rest : List Char) :
    withReturns (a ++ '\n' :: rest) = (a ++ ['\r']) ++ '\n' :: withReturns rest := by
  have hline := withReturns_of_notMem ha
  unfold withReturns at hline ⊢
  rw [List.flatMap_append, hline, List.flatMap_cons, if_pos rfl]
  simp

theorem dropReturn_append_return (a : List Char) : dropReturn (a ++ ['\r']) = a := by
  simp [dropReturn, dropSuffix?, dropPrefix?]

/-- The one carriage return of a line end is among all those at the end of the line. -/
theorem dropReturns_dropReturn (a : List Char) : dropReturns (dropReturn a) = dropReturns a := by
  rcases List.eq_nil_or_concat a with rfl | ⟨b, c, rfl⟩
  · rfl
  · by_cases hc : c = '\r'
    · subst hc
      rw [List.concat_eq_append, dropReturn_append_return]
      simp [dropReturns]
    · have hsame : dropReturn (b ++ [c]) = b ++ [c] := by
        simp [dropReturn, dropSuffix?, dropPrefix?, Ne.symm hc]
      rw [List.concat_eq_append, hsame]

theorem map_dropReturns_lines_withReturns (cs : List Char) :
    (lines (withReturns cs)).map dropReturns = (lines cs).map dropReturns := by
  induction cs using byLines with
  | last a ha =>
      rw [withReturns_of_notMem ha]
  | more a rest ha ih =>
      have ha' : '\n' ∉ a ++ ['\r'] := by
        simp [ha]
      rw [withReturns_cons ha, lines_cons ha', lines_cons ha, List.map_cons, List.map_cons, ih,
        dropReturn_append_return, dropReturns_dropReturn]

end BinaryCoverage.Text
