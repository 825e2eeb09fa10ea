import BinaryCoverage.Branch.Arms
import BinaryCoverage.Proofs.Branch.Label

/-!
# The heading of a branch line

A branch line begins with blanks and its keyword; in front of an `if` a closing brace and an `else`
may stand.  This file defines:

* `IsSpace` — one blank or more;
* `BracePart`, `ElsePart` — what may stand in front of an `if`;
* `Heading` — a branch line up to its parenthesis;

and shows that the branch lines are those with a heading (`mem_branchLines_iff`), and that the
condition of a branch begins at the parenthesis after its keyword (`conditionEnd?_of_heading`).
-/

namespace BinaryCoverage

namespace Source

open Text (isBlank isBlankText trimStart dropPrefix? dropPrefix?_eq_some_iff)

def IsSpace (cs : List Char) : Prop := cs ≠ [] ∧ isBlankText cs = true

/-- Nothing, or a closing brace and blanks. -/
def BracePart (cs : List Char) : Prop :=
  cs = [] ∨ ∃ gap, isBlankText gap = true ∧ cs = '}' :: gap

/-- Nothing, or an `else` and blanks. -/
def ElsePart (cs : List Char) : Prop :=
  cs = [] ∨ ∃ gap, IsSpace gap ∧ cs = "else".toList ++ gap

/-- A branch line up to its parenthesis. -/
inductive Heading : BranchKind → List Char → Prop where
  | conditional {blanks brace other gap : List Char} :
      IsSpace blanks → BracePart brace → ElsePart other → isBlankText gap = true →
      Heading .conditional (blanks ++ (brace ++ (other ++ ("if".toList ++ gap))))
  | selection {blanks gap : List Char} :
      IsSpace blanks → isBlankText gap = true →
      Heading .selection (blanks ++ ("switch".toList ++ gap))

variable {cs blanks brace other gap head tail line : List Char} {c : Char} {kind : BranchKind}

/-! ## Reading a heading -/

/-- A text is its blanks and what is left without them. -/
theorem exists_blanks_trimStart (cs : List Char) :
    ∃ blanks, isBlankText blanks = true ∧ cs = blanks ++ trimStart cs :=
  ⟨cs.takeWhile isBlank, List.all_takeWhile, List.takeWhile_append_dropWhile.symm⟩

theorem trimStart_cons (h : isBlank c = false) : trimStart (c :: cs) = c :: cs := by
  simp [trimStart, h]

theorem afterBlanks?_append (h : IsSpace blanks) : afterBlanks? (blanks ++ cs) = some (trimStart cs) := by
  rcases h with ⟨hne, hblank⟩
  cases blanks with
  | nil =>
      exact absurd rfl hne
  | cons b rest =>
      rw [isBlankText, List.all_cons, Bool.and_eq_true] at hblank
      rw [List.cons_append, afterBlanks?, if_pos hblank.1, trimStart_append_of_blank hblank.2]

theorem exists_space_of_afterBlanks? (h : afterBlanks? line = some cs) :
    ∃ blanks, IsSpace blanks ∧ line = blanks ++ cs := by
  cases line with
  | nil =>
      cases h
  | cons c rest =>
      rw [afterBlanks?] at h
      split at h
      · rename_i hc
        cases h
        obtain ⟨blanks, hblanks, hrest⟩ := exists_blanks_trimStart rest
        refine ⟨c :: blanks, ⟨List.cons_ne_nil c blanks, ?_⟩, ?_⟩
        · simpa [isBlankText, hc] using hblanks
        · rw [List.cons_append, ← hrest]
      · cases h

theorem keywordTail?_eq_some_iff {keyword : String} :
    keywordTail? keyword cs = some tail ↔
      ∃ gap, isBlankText gap = true ∧ cs = keyword.toList ++ (gap ++ '(' :: tail) := by
  have hparenthesis : isBlank '(' = false := by
    decide
  simp only [keywordTail?, Option.bind_eq_bind, Option.bind_eq_some_iff, dropPrefix?_eq_some_iff,
    List.singleton_append]
  constructor
  · rintro ⟨rest, rfl, hrest⟩
    obtain ⟨gap, hgap, hsplit⟩ := exists_blanks_trimStart rest
    rw [hrest] at hsplit
    exact ⟨gap, hgap, by rw [hsplit]⟩
  · rintro ⟨gap, hgap, rfl⟩
    refine ⟨_, rfl, ?_⟩
    rw [trimStart_append_of_blank hgap, trimStart_cons hparenthesis]

theorem exists_bracePart (cs : List Char) : ∃ brace, BracePart brace ∧ cs = brace ++ skipBrace cs := by
  unfold skipBrace
  split
  · rename_i rest
    obtain ⟨gap, hgap, hrest⟩ := exists_blanks_trimStart rest
    exact ⟨'}' :: gap, Or.inr ⟨gap, hgap, rfl⟩, by rw [List.cons_append, ← hrest]⟩
  · exact ⟨[], Or.inl rfl, rfl⟩

theorem exists_elsePart (cs : List Char) : ∃ other, ElsePart other ∧ cs = other ++ skipElse cs := by
  unfold skipElse
  cases hrest : (dropPrefix? "else".toList cs).bind afterBlanks? with
  | none =>
      exact ⟨[], Or.inl rfl, rfl⟩
  | some rest =>
      obtain ⟨after, hafter, hblanks⟩ := Option.bind_eq_some_iff.1 hrest
      obtain ⟨gap, hgap, rfl⟩ := exists_space_of_afterBlanks? hblanks
      rw [dropPrefix?_eq_some_iff] at hafter
      refine ⟨"else".toList ++ gap, Or.inr ⟨gap, hgap, rfl⟩, ?_⟩
      rw [Option.getD_some, List.append_assoc, hafter]

/-! ## Writing a heading -/

theorem skipElse_append (hother : ElsePart other) (rest : List Char) :
    skipElse (other ++ ("if".toList ++ rest)) = "if".toList ++ rest := by
  have hkeyword : trimStart ("if".toList ++ rest) = "if".toList ++ rest :=
    trimStart_cons (by decide)
  rcases hother with rfl | ⟨gap, hgap, rfl⟩
  · -- No `else` begins where the keyword does.
    rfl
  · have hdrop : dropPrefix? "else".toList ("else".toList ++ (gap ++ ("if".toList ++ rest))) =
        some (gap ++ ("if".toList ++ rest)) :=
      dropPrefix?_eq_some_iff.2 rfl
    rw [skipElse, List.append_assoc, hdrop, Option.bind_some, afterBlanks?_append hgap, hkeyword,
      Option.getD_some]

theorem skipBrace_append (hbrace : BracePart brace) (hfirst : cs.head? ≠ some '}')
    (hcs : trimStart cs = cs) : skipBrace (brace ++ cs) = cs := by
  rcases hbrace with rfl | ⟨gap, hgap, rfl⟩
  · unfold skipBrace
    split
    · rename_i rest hbrace
      rw [List.nil_append] at hbrace
      rw [hbrace] at hfirst
      exact absurd rfl hfirst
    · rfl
  · exact (trimStart_append_of_blank hgap).trans hcs

theorem conditionalTail?_heading (hblanks : IsSpace blanks) (hbrace : BracePart brace)
    (hother : ElsePart other) (hgap : isBlankText gap = true) (tail : List Char) :
    conditionalTail? (blanks ++ (brace ++ (other ++ ("if".toList ++ (gap ++ '(' :: tail))))) =
      some tail := by
  -- Neither part begins with a blank, so each is found right where the one before it ends.
  have hafter : trimStart (other ++ ("if".toList ++ (gap ++ '(' :: tail))) =
        other ++ ("if".toList ++ (gap ++ '(' :: tail)) ∧
      (other ++ ("if".toList ++ (gap ++ '(' :: tail))).head? ≠ some '}' := by
    rcases hother with rfl | ⟨space, -, rfl⟩
    · exact ⟨trimStart_cons (by decide), by simp⟩
    · exact ⟨trimStart_cons (by decide), by simp⟩
  have hfirst : trimStart (brace ++ (other ++ ("if".toList ++ (gap ++ '(' :: tail)))) =
      brace ++ (other ++ ("if".toList ++ (gap ++ '(' :: tail))) := by
    rcases hbrace with rfl | ⟨space, -, rfl⟩
    · exact hafter.1
    · exact trimStart_cons (by decide)
  rw [conditionalTail?, afterBlanks?_append hblanks, hfirst, Option.bind_eq_bind, Option.bind_some,
    skipBrace_append hbrace hafter.2 hafter.1, skipElse_append hother]
  exact keywordTail?_eq_some_iff.2 ⟨gap, hgap, rfl⟩

theorem selectionTail?_heading (hblanks : IsSpace blanks) (hgap : isBlankText gap = true)
    (tail : List Char) :
    conditionalTail? (blanks ++ ("switch".toList ++ (gap ++ '(' :: tail))) = none ∧
      selectionTail? (blanks ++ ("switch".toList ++ (gap ++ '(' :: tail))) = some tail := by
  have hfirst : trimStart ("switch".toList ++ (gap ++ '(' :: tail)) =
      "switch".toList ++ (gap ++ '(' :: tail) :=
    trimStart_cons (by decide)
  constructor
  · rw [conditionalTail?, afterBlanks?_append hblanks, hfirst]
    rfl
  · rw [selectionTail?, afterBlanks?_append hblanks, hfirst, Option.bind_eq_bind, Option.bind_some]
    exact keywordTail?_eq_some_iff.2 ⟨gap, hgap, rfl⟩

/-- A line begins a branch exactly when it has a heading. -/
theorem branchKind?_eq_some_iff :
    branchKind? line = some kind ↔ ∃ head tail, Heading kind head ∧ line = head ++ '(' :: tail := by
  constructor
  · intro h
    unfold branchKind? at h
    split at h
    · rename_i hconditional
      cases h
      obtain ⟨tail, htail⟩ := Option.isSome_iff_exists.1 hconditional
      obtain ⟨cs, hcs, hkeyword⟩ := Option.bind_eq_some_iff.1 htail
      obtain ⟨blanks, hblanks, rfl⟩ := exists_space_of_afterBlanks? hcs
      obtain ⟨brace, hbrace, hrest⟩ := exists_bracePart cs
      obtain ⟨other, hother, hrest'⟩ := exists_elsePart (skipBrace cs)
      obtain ⟨gap, hgap, hend⟩ := keywordTail?_eq_some_iff.1 hkeyword
      refine ⟨_, tail, .conditional hblanks hbrace hother hgap, ?_⟩
      rw [hrest, hrest', hend]
      simp only [List.append_assoc]
    · split at h
      · rename_i hselection
        cases h
        obtain ⟨tail, htail⟩ := Option.isSome_iff_exists.1 hselection
        obtain ⟨cs, hcs, hkeyword⟩ := Option.bind_eq_some_iff.1 htail
        obtain ⟨blanks, hblanks, rfl⟩ := exists_space_of_afterBlanks? hcs
        obtain ⟨gap, hgap, rfl⟩ := keywordTail?_eq_some_iff.1 hkeyword
        refine ⟨_, tail, .selection hblanks hgap, ?_⟩
        simp only [List.append_assoc]
      · cases h
  · rintro ⟨head, tail, hheading, rfl⟩
    cases hheading with
    | conditional hblanks hbrace hother hgap =>
        have htail := conditionalTail?_heading hblanks hbrace hother hgap tail
        simp only [List.append_assoc]
        rw [branchKind?, htail]
        rfl
    | selection hblanks hgap =>
        obtain ⟨hnone, htail⟩ := selectionTail?_heading hblanks hgap tail
        simp only [List.append_assoc]
        rw [branchKind?, hnone, htail]
        rfl

/-! ## The parenthesis -/

theorem notMem_of_isBlankText (h : isBlankText cs = true) (hc : isBlank c = false) : c ∉ cs := by
  intro hmem
  rw [List.all_eq_true.1 h c hmem] at hc
  cases hc

theorem BracePart.notMem (h : BracePart brace) : '(' ∉ brace := by
  rcases h with rfl | ⟨space, hspace, rfl⟩
  · exact List.not_mem_nil
  · simp [notMem_of_isBlankText hspace (c := '(') (by decide)]

theorem ElsePart.notMem (h : ElsePart other) : '(' ∉ other := by
  rcases h with rfl | ⟨space, hspace, rfl⟩
  · exact List.not_mem_nil
  · simp [notMem_of_isBlankText hspace.2 (c := '(') (by decide)]

/-- The parenthesis after the heading is the first one of its line. -/
theorem Heading.notMem (h : Heading kind head) : '(' ∉ head := by
  have hparenthesis : isBlank '(' = false := by
    decide
  cases h with
  | conditional hblanks hbrace hother hgap =>
      simp [notMem_of_isBlankText hblanks.2 hparenthesis, hbrace.notMem, hother.notMem,
        notMem_of_isBlankText hgap hparenthesis]
  | selection hblanks hgap =>
      simp [notMem_of_isBlankText hblanks.2 hparenthesis, notMem_of_isBlankText hgap hparenthesis]

/-! ## Branch lines of a source -/

theorem mem_branchLinesFrom_iff {first n : Nat} {lines : List (List Char)} :
    (n, kind) ∈ branchLinesFrom first lines ↔
      first ≤ n ∧ ∃ line, lines[n - first]? = some line ∧ branchKind? line = some kind := by
  induction lines generalizing first with
  | nil =>
      simp [branchLinesFrom]
  | cons line rest ih =>
      -- The first line is judged on its own; the others are those of the rest.
      have hsplit : (n, kind) ∈ branchLinesFrom first (line :: rest) ↔
          (n = first ∧ branchKind? line = some kind) ∨ (n, kind) ∈ branchLinesFrom (first + 1) rest := by
        rw [branchLinesFrom]
        cases branchKind? line with
        | none =>
            simp
        | some found =>
            simp [eq_comm]
      rw [hsplit, ih]
      constructor
      · rintro (⟨rfl, hkind⟩ | ⟨hn, line', hline', hkind⟩)
        · exact ⟨Nat.le_refl n, line, by simp, hkind⟩
        · have hplace : n - first = (n - (first + 1)) + 1 := by
            omega
          exact ⟨by omega, line', by rw [hplace, List.getElem?_cons_succ, hline'], hkind⟩
      · rintro ⟨hn, line', hline', hkind⟩
        rcases Nat.eq_or_lt_of_le hn with rfl | hlater
        · rw [Nat.sub_self, List.getElem?_cons_zero, Option.some.injEq] at hline'
          subst hline'
          exact Or.inl ⟨rfl, hkind⟩
        · have hplace : n - first = (n - (first + 1)) + 1 := by
            omega
          rw [hplace, List.getElem?_cons_succ] at hline'
          exact Or.inr ⟨hlater, line', hline', hkind⟩

theorem pairwise_branchLinesFrom (first : Nat) (lines : List (List Char)) :
    (branchLinesFrom first lines).Pairwise (·.1 < ·.1) := by
  induction lines generalizing first with
  | nil =>
      exact List.Pairwise.nil
  | cons line rest ih =>
      rw [branchLinesFrom]
      split
      · refine List.Pairwise.cons ?_ (ih (first + 1))
        rintro ⟨n, kind⟩ hn
        exact (mem_branchLinesFrom_iff.1 hn).1
      · exact ih (first + 1)

end Source

namespace MaskedSource

open Source (Heading branchKind?_eq_some_iff)

variable {s : MaskedSource} {n : Nat} {kind : BranchKind} {head tail : List Char}

/-- The branch lines of a source are the lines with a heading. -/
theorem mem_branchLines_iff :
    (n, kind) ∈ s.branchLines ↔
      ∃ head tail, Heading kind head ∧ s.line? n = some (head ++ '(' :: tail) := by
  have hline : (1 ≤ n ∧ ∃ line, s.lines[n - 1]? = some line ∧ Source.branchKind? line = some kind) ↔
      ∃ line, s.line? n = some line ∧ Source.branchKind? line = some kind := by
    cases n with
    | zero =>
        simp [line?]
    | succ n =>
        simp [line?]
  rw [branchLines, Source.mem_branchLinesFrom_iff, hline]
  simp only [branchKind?_eq_some_iff]
  constructor
  · rintro ⟨line, hline, head, tail, hheading, rfl⟩
    exact ⟨head, tail, hheading, hline⟩
  · rintro ⟨head, tail, hheading, hline⟩
    exact ⟨_, hline, head, tail, hheading, rfl⟩

/-- A scan that gets past a stretch of text goes on from there. -/
theorem scan_eq_scan {σ : Type} {step : σ → Char → Option σ} {start state : σ} {p q : Position}
    (hp : 0 < p.line) (hpq : ¬ q.Before p) (hrun : (s.upTo p q).foldlM step start = some state) :
    s.scan step start p = s.scan step state q := by
  rw [upTo] at hrun
  rw [scan_eq, scan_eq, cellsFrom_eq_append hp hpq, stop?_append, hrun]

theorem foldlM_conditionStep_of_notMem {text : List Char} (h : '(' ∉ text) :
    text.foldlM conditionStep 0 = some 0 := by
  induction text with
  | nil =>
      rfl
  | cons c text ih =>
      simp only [List.mem_cons, not_or] at h
      have hskip : conditionStep 0 c = some 0 := by
        unfold conditionStep
        split
        · exact absurd rfl h.1
        · rfl
        · rfl
      rw [List.foldlM_cons, hskip]
      exact ih h.2

/-- The condition of a branch begins at the parenthesis after its heading: that is the first one from
the start of the line on, and looking for the end of the condition comes to the same from there. -/
theorem conditionEnd?_of_heading (hheading : Heading kind head)
    (hline : s.line? n = some (head ++ '(' :: tail)) :
    s.IsFirst ⟨n, 0⟩ (fun _ c => c = '(') ⟨n, head.length⟩ '(' ∧
      s.conditionEnd? ⟨n, 0⟩ = s.conditionEnd? ⟨n, head.length⟩ := by
  have hpos : 0 < n := by
    cases n with
    | zero =>
        cases hline
    | succ n =>
        exact Nat.succ_pos n
  have hafter : ¬ Position.Before ⟨n, head.length⟩ ⟨n, 0⟩ := by
    unfold Position.Before
    simp only
    omega
  have hrest : s.rest ⟨n, head.length⟩ = '(' :: tail := by
    simp [rest, hline]
  have htext : s.upTo ⟨n, 0⟩ ⟨n, head.length⟩ = head := by
    have hsplit := rest_eq_upTo_append (s := s) (p := ⟨n, 0⟩) hpos hafter rfl
    rw [hrest] at hsplit
    refine List.append_cancel_right (hsplit.symm.trans ?_)
    simp [rest, hline]
  refine ⟨⟨?_, rfl, ?_⟩, ?_⟩
  · exact mem_cellsFrom_iff.2 ⟨hpos, hafter, by rw [hrest]; rfl⟩
  · -- What is read before the parenthesis is part of the heading.
    rintro r d hr hbefore rfl
    refine hheading.notMem ?_
    rw [← htext]
    exact List.mem_map.2 ⟨(r, '('), List.mem_filter.2 ⟨hr, decide_eq_true hbefore⟩, rfl⟩
  · have hrun := foldlM_conditionStep_of_notMem hheading.notMem
    rw [← htext] at hrun
    rw [conditionEnd?, conditionEnd?, scan_eq_scan hpos hafter hrun]

end MaskedSource

end BinaryCoverage
