import BinaryCoverage.Configuration.Basic
import BinaryCoverage.Pattern.Match
import BinaryCoverage.Proofs.Pattern.Parts
import Mathlib.Data.List.Forall2

/-!
# Exclusions as patterns

The text of an exclusion is put between `^(?:` and a parenthesis, and the whole is read as a
pattern.  This file says what that makes of it, for every text:

* `isMatch_atStart` — the larger pattern matches where the smaller one does at the start of a name;
* `parse?_anchored` — which texts that are patterns stay patterns between the two;
* `isPattern_iff_of_anchored` — which texts between the two are patterns without them;
* `BinaryConfig.exclusionPatterns_closes` — what becomes of the exclusions of a binary.
-/

namespace BinaryCoverage

open Pattern Pattern.Reader

namespace Pattern

/-! ## Patterns at the start of a text -/

/-- A match of the pattern at the start of a text. -/
def atStart (p : Pattern) : Pattern := .sequence [.look .textStart, .group p]

theorem height_atStart (p : Pattern) : p.atStart.height = p.height + 2 := by
  simp [atStart, height, heights]

theorem size_atStart (p : Pattern) : p.atStart.size = p.size + 3 * stateSize := by
  simp only [atStart, size, sizes]
  omega

theorem mergePositions_nil (is : List Nat) : mergePositions is [] = is := by
  cases is <;> simp [mergePositions]

theorem through_singleton (next : Nat → List Nat) (i : Nat) : through next [i] = next i := by
  rw [through, through, mergePositions_nil]

/-- A pattern at the start matches nowhere else. -/
theorem matchesAt_atStart (p : Pattern) (text : Array Char) {i : Nat} (hi : i ≤ text.size) :
    p.atStart.matchesAt text i = (decide (i = 0) && p.matchesAt text 0) := by
  unfold matchesAt
  rw [atStart, ends, sequenceEnds, sequenceEnds, sequenceEnds, through_singleton, ends]
  by_cases hzero : i = 0
  · subst hzero
    simp [Look.holds, charBefore, through_singleton, ends]
  · have hlt : i - 1 < text.size := by omega
    simp [Look.holds, charBefore, hzero, hlt, through]

theorem isMatch_atStart (p : Pattern) (text : String) :
    p.atStart.isMatch text = p.matchesAt text.toList.toArray 0 := by
  unfold isMatch
  dsimp only
  rw [Bool.eq_iff_iff, List.any_eq_true]
  constructor
  · rintro ⟨i, hi, hmatch⟩
    rw [matchesAt_atStart p _ (Nat.le_of_lt_succ (List.mem_range.1 hi)), Bool.and_eq_true] at hmatch
    exact hmatch.2
  · intro hmatch
    refine ⟨0, List.mem_range.2 (Nat.succ_pos _), ?_⟩
    rw [matchesAt_atStart p _ (Nat.zero_le _), hmatch]
    rfl

/-! ## The text of a pattern within a larger one -/

/-- What follows the text of a group that began at the start. -/
theorem parts_anchored (n : Nat) (u : List Char) :
    parts (n + 2) { flags := {} } ('^' :: '(' :: '?' :: ':' :: u) =
      ((parts n { flags := {} }).andThen fun x => onHead fun c =>
        if c == ')' then
          parts n { flags := {}, parts := [.group x.1, .look .textStart], names := x.2 }
        else fails) u := by
  have hgroup : readGroupStart? {} ('?' :: ':' :: u) = some (.group {} none, u) := by
    rw [readGroupStart?, Flags.skip_of_keeps rfl]
    rfl
  have hopen : parts (n + 1) { flags := {}, parts := [.look .textStart] } ('(' :: '?' :: ':' :: u) =
      grouped n { flags := {}, parts := [.look .textStart] } (.group {} none) u := by
    rw [parts_succ, skipped, Flags.skip_of_keeps rfl]
    change andThen (readGroupStart? {}) (grouped n { flags := {}, parts := [.look .textStart] })
      ('?' :: ':' :: u) = _
    rw [andThen, hgroup, Option.bind_some]
  rw [parts_succ, skipped, Flags.skip_of_keeps rfl]
  change parts (n + 1) { flags := {}, parts := [.look .textStart] } ('(' :: '?' :: ':' :: u) = _
  rw [hopen]
  rfl

/-- A text and a parenthesis after it, read as the parts of a group. -/
theorem parse?_anchored_eq_some_iff {text : String} {q : Pattern} :
    parse? (BinaryConfig.anchored text) = some q ↔
      ∃ p names rest names', groupParts { flags := {} } (text.toList ++ [')']) =
          some ((p, names), ')' :: rest) ∧
        groupParts { flags := {}, parts := [.group p, .look .textStart], names := names } rest =
          some ((q, names'), []) := by
  have htext : (BinaryConfig.anchored text).toList =
      '^' :: '(' :: '?' :: ':' :: (text.toList ++ [')']) := by
    simp [BinaryConfig.anchored]
  have hlength : (text.toList ++ [')']).length = text.toList.length + 1 := by simp
  have hinner : parts (text.toList.length + 4) { flags := {} } (text.toList ++ [')']) =
      groupParts { flags := {} } (text.toList ++ [')']) := fueled_parts _ (by rw [hlength]; omega)
  rw [parse?_eq_some_iff, htext, groupParts, unfueled]
  dsimp only [List.length_cons]
  rw [hlength, parts_anchored, andThen, hinner]
  constructor
  · rintro ⟨names', hread⟩
    obtain ⟨⟨⟨p, names⟩, left⟩, hfirst, hsecond⟩ := Option.bind_eq_some_iff.1 hread
    -- The group ends with a parenthesis, and the fuel is enough for what comes after it.
    rcases left with _ | ⟨c, rest⟩
    · cases hsecond
    · have hrest : rest.length < text.toList.length + 4 := by
        have hle := ((bounded_groupParts _).leaves hfirst).length_le
        rw [hlength, List.length_cons] at hle
        omega
      rw [onHead] at hsecond
      split at hsecond
      · next hc =>
        obtain rfl := eq_of_beq hc
        exact ⟨p, names, rest, names', hfirst, (fueled_parts _ hrest).symm.trans hsecond⟩
      · cases hsecond
  · rintro ⟨p, names, rest, names', hfirst, hsecond⟩
    have hrest : rest.length < text.toList.length + 4 := by
      have hle := ((bounded_groupParts _).leaves hfirst).length_le
      rw [hlength, List.length_cons] at hle
      omega
    exact ⟨names', Option.bind_eq_some_iff.2 ⟨((p, names), ')' :: rest), hfirst,
      (fueled_parts _ hrest).trans hsecond⟩⟩

/-- A pattern that a parenthesis after it is no part of. -/
def Closes (text : String) : Prop := IsPattern text ∧ ¬ IsPattern (text ++ ")")

theorem toList_append_closing (text : String) : (text ++ ")").toList = text.toList ++ [')'] := by
  simp

/-- After a pattern the parenthesis is left, or it is taken and the pattern stays the same. -/
theorem groupParts_closing {text : String} {p : Pattern} {names : List String}
    (h : groupParts { flags := {} } text.toList = some ((p, names), [])) :
    (∀ t, groupParts { flags := {} } (text.toList ++ ')' :: t) = some ((p, names), ')' :: t)) ∨
      groupParts { flags := {} } (text.toList ++ [')']) = some ((p, names), []) := by
  rcases (bounded_groupParts { flags := {} }).ends text.toList with
    ⟨x, rest, hread, hmore⟩ | hoverruns
  · rw [h] at hread
    cases hread
    exact Or.inl hmore
  · exact Or.inr (hoverruns.whole h).2

theorem closes_iff {text : String} {p : Pattern} {names : List String}
    (h : groupParts { flags := {} } text.toList = some ((p, names), [])) :
    Closes text ↔
      ∀ t, groupParts { flags := {} } (text.toList ++ ')' :: t) = some ((p, names), ')' :: t) := by
  constructor
  · rintro ⟨-, hclosing⟩
    refine (groupParts_closing h).resolve_right fun hwhole => hclosing ⟨p, ?_⟩
    exact parse?_eq_some_iff.2 ⟨names, by rw [toList_append_closing, hwhole]⟩
  · intro hmore
    refine ⟨⟨p, parse?_eq_some_iff.2 ⟨names, h⟩⟩, ?_⟩
    rintro ⟨q, hq⟩
    obtain ⟨names', hread⟩ := parse?_eq_some_iff.1 hq
    rw [toList_append_closing, hmore []] at hread
    cases hread

/-- What comes before the parenthesis at which the parts of a group stop. -/
theorem closes_of_groupParts {u t : List Char} {x : Pattern × List String}
    (h : groupParts { flags := {} } (u ++ ')' :: t) = some (x, ')' :: t)) :
    Closes (String.ofList u) := by
  rcases (bounded_groupParts { flags := {} }).ends u with
    ⟨⟨p, names⟩, left, hread, hmore⟩ | hoverruns
  · -- Both stop at the same parenthesis, so that nothing of `u` is left.
    have hleft := (hmore t).symm.trans h
    simp only [Option.some.injEq, Prod.mk.injEq, List.append_left_eq_self] at hleft
    obtain ⟨-, rfl⟩ := hleft
    have hu : groupParts { flags := {} } (String.ofList u).toList = some ((p, names), []) := by
      rw [String.toList_ofList, hread]
    exact (closes_iff hu).2 (by simpa using hmore)
  · rcases hoverruns.takes h with hrest | ⟨_, hnever, -⟩
    · exact absurd hrest.length_le (by simp)
    · exact hnever.elim

/-- Of the texts that are patterns just those that close are patterns when anchored. -/
theorem parse?_anchored {text : String} {p q : Pattern} (h : parse? text = some p) :
    parse? (BinaryConfig.anchored text) = some q ↔ Closes text ∧ q = p.atStart := by
  obtain ⟨names, hread⟩ := parse?_eq_some_iff.1 h
  rw [parse?_anchored_eq_some_iff]
  constructor
  · rintro ⟨p', names₁, rest, names₂, hfirst, hsecond⟩
    rcases groupParts_closing hread with hmore | hwhole
    · -- The group is what the text is by itself, and nothing comes after it.
      rw [hmore []] at hfirst
      cases hfirst
      cases hsecond
      exact ⟨(closes_iff hread).2 hmore, rfl⟩
    · -- The text takes the parenthesis, and the group has no end.
      rw [hwhole] at hfirst
      cases hfirst
  · rintro ⟨hcloses, rfl⟩
    exact ⟨p, names, [], names, (closes_iff hread).1 hcloses [], rfl⟩

/-- An anchored text that is a pattern is one without its anchor, unless a pattern at its start
closes the group before its end. -/
theorem isPattern_iff_of_anchored {text : String} (h : IsPattern (BinaryConfig.anchored text)) :
    IsPattern text ↔ ¬ ∃ u v, text = u ++ ")" ++ v ∧ Closes u := by
  obtain ⟨q, hq⟩ := h
  obtain ⟨p, names, rest, names', hfirst, -⟩ := parse?_anchored_eq_some_iff.1 hq
  constructor
  · rintro ⟨p', hp'⟩ ⟨u, v, rfl, hcloses⟩
    obtain ⟨pu, hpu⟩ := hcloses.1
    obtain ⟨names₁, hu⟩ := parse?_eq_some_iff.1 hpu
    obtain ⟨names₂, hread⟩ := parse?_eq_some_iff.1 hp'
    have htext : (u ++ ")" ++ v).toList = u.toList ++ ')' :: v.toList := by simp
    -- Reading the text stops at the parenthesis after `u`.
    rw [htext, (closes_iff hu).1 hcloses] at hread
    cases hread
  · intro hnone
    rcases (bounded_groupParts { flags := {} }).ends text.toList with
      ⟨⟨p', names₁⟩, left, hread, hmore⟩ | hoverruns
    · rcases stops_parts _ _ hread with rfl | ⟨t, rfl⟩
      · exact ⟨p', parse?_eq_some_iff.2 ⟨names₁, hread⟩⟩
      · -- The reader stops at a parenthesis of the text, which closes the group early.
        obtain ⟨u, hu⟩ := (bounded_groupParts { flags := {} }).leaves hread
        refine absurd ⟨String.ofList u, String.ofList t, ?_, ?_⟩ hnone
        · rw [← String.toList_inj]
          simp [← hu]
        · rw [← hu] at hread
          exact closes_of_groupParts hread
    · -- With the parenthesis taken nothing is left to end the group.
      rcases hoverruns.takes hfirst with hrest | ⟨_, hnever, -⟩
      · exact absurd hrest.length_le (by simp)
      · exact hnever.elim

end Pattern

/-! ## Exclusions of a binary -/

namespace BinaryConfig

variable {b : BinaryConfig} {text : String} {p q : Pattern}

theorem exclusionPattern_eq_ok_iff :
    b.exclusionPattern text = .ok q ↔
      parse? (anchored text) = some q ∧ q.height ≤ heightLimit ∧ q.size ≤ sizeLimit := by
  rw [exclusionPattern, read_eq]
  cases parse? (anchored text) with
  | none =>
      simp
  | some p =>
      by_cases hheight : heightLimit < p.height
      · simp only [hheight, if_true, reduceCtorEq, Option.some.injEq, false_iff]
        rintro ⟨rfl, hle, -⟩
        omega
      · by_cases hsize : sizeLimit < p.size
        · simp only [hheight, hsize, if_true, if_false, reduceCtorEq, Option.some.injEq, false_iff]
          rintro ⟨rfl, -, hle⟩
          omega
        · simp only [hheight, hsize, if_false, Except.ok.injEq, Option.some.injEq]
          constructor
          · rintro rfl
            exact ⟨rfl, Nat.le_of_not_lt hheight, Nat.le_of_not_lt hsize⟩
          · exact fun h => h.1

theorem exclusionPatternsOf_eq_ok_iff {texts : List String} {ps : List Pattern} :
    b.exclusionPatternsOf texts = .ok ps ↔
      List.Forall₂ (fun text q => b.exclusionPattern text = .ok q) texts ps := by
  induction texts generalizing ps with
  | nil =>
      rw [exclusionPatternsOf, Except.ok.injEq, List.forall₂_nil_left_iff, eq_comm]
  | cons text rest ih =>
      rw [exclusionPatternsOf, List.forall₂_cons_left_iff]
      cases hhead : b.exclusionPattern text with
      | error e =>
          simp
      | ok p =>
          cases htail : b.exclusionPatternsOf rest with
          | error e =>
              simp only [htail, reduceCtorEq, false_iff] at ih
              simp [ih, Except.map]
          | ok qs =>
              simp only [htail, Except.ok.injEq] at ih
              simp only [Except.map, Except.ok.injEq]
              constructor
              · rintro rfl
                exact ⟨p, qs, rfl, ih.1 rfl, rfl⟩
              · rintro ⟨q, us, rfl, hus, rfl⟩
                rw [ih.2 hus]

theorem exclusionPatterns_of_check (h : b.check = .ok ()) : ∃ ps, b.exclusionPatterns = .ok ps := by
  unfold check at h
  split_ifs at h
  cases hpatterns : b.exclusionPatterns with
  | error e =>
      rw [hpatterns] at h
      cases h
  | ok ps =>
      exact ⟨ps, rfl⟩

/-- What becomes of the exclusions of a binary.  One that is a pattern is taken if and only if it
closes, limits aside, and then matches the names that begin with a match of it.  One that is taken
is no pattern just when a pattern at its start closes the group that was put around it. -/
theorem exclusionPatterns_closes (b : BinaryConfig) :
    (b.check = .ok () → ∃ ps, b.exclusionPatterns = .ok ps) ∧
      (∀ ps, b.exclusionPatterns = .ok ps ↔
        List.Forall₂ (fun text q => b.exclusionPattern text = .ok q) b.exclusions ps) ∧
      ∀ text,
        (∀ p, parse? text = some p →
          ((∃ q, b.exclusionPattern text = .ok q) ↔
            Closes text ∧ p.height + 2 ≤ heightLimit ∧ p.size + 3 * stateSize ≤ sizeLimit) ∧
          ∀ q, b.exclusionPattern text = .ok q →
            ∀ name, q.isMatch name = p.matchesAt name.toList.toArray 0) ∧
        ∀ q, b.exclusionPattern text = .ok q →
          (IsPattern text ↔ ¬ ∃ u v, text = u ++ ")" ++ v ∧ Closes u) := by
  refine ⟨exclusionPatterns_of_check, fun ps => exclusionPatternsOf_eq_ok_iff, fun text =>
    ⟨fun p hp => ⟨⟨?_, ?_⟩, ?_⟩, ?_⟩⟩
  · rintro ⟨q, hq⟩
    obtain ⟨hread, hheight, hsize⟩ := exclusionPattern_eq_ok_iff.1 hq
    obtain ⟨hcloses, rfl⟩ := (parse?_anchored hp).1 hread
    rw [height_atStart] at hheight
    rw [size_atStart] at hsize
    exact ⟨hcloses, hheight, hsize⟩
  · rintro ⟨hcloses, hheight, hsize⟩
    refine ⟨p.atStart, exclusionPattern_eq_ok_iff.2 ⟨(parse?_anchored hp).2 ⟨hcloses, rfl⟩, ?_, ?_⟩⟩
    · rwa [height_atStart]
    · rwa [size_atStart]
  · intro q hq name
    obtain ⟨-, rfl⟩ := (parse?_anchored hp).1 (exclusionPattern_eq_ok_iff.1 hq).1
    exact isMatch_atStart p name
  · intro q hq
    exact isPattern_iff_of_anchored ⟨q, (exclusionPattern_eq_ok_iff.1 hq).1⟩

theorem exclusionPatterns_closes_choice :
    ∃ p q, parse? "a|b" = some p ∧
      ({ image := "bin.elf" } : BinaryConfig).exclusionPattern "a|b" = .ok q ∧
      ∀ name, q.isMatch name = p.matchesAt name.toList.toArray 0 := by
  have hparse : parse? "a|b" = some (.choice [.set (.single 'a') 0, .set (.single 'b') 0]) := rfl
  have hcloses : Closes "a|b" := by
    refine ⟨⟨_, hparse⟩, ?_⟩
    rintro ⟨p, hp⟩
    exact absurd ((show parse? ("a|b" ++ ")") = none from rfl).symm.trans hp) (by simp)
  obtain ⟨htaken, hmatch⟩ :=
    ((exclusionPatterns_closes { image := "bin.elf" }).2.2 "a|b").1 _ hparse
  obtain ⟨q, hq⟩ := htaken.2 ⟨hcloses, by decide, by decide⟩
  exact ⟨_, q, hparse, hq, hmatch q hq⟩

/-- An exclusion that is no pattern may be taken, and then matches within names; one that is a
pattern may be refused, since its comment takes the parenthesis. -/
theorem exclusionPattern_not_isPattern :
    (∃ q, ({ image := "bin.elf" } : BinaryConfig).exclusionPattern "a)|(?:b" = .ok q ∧
        ¬ IsPattern "a)|(?:b" ∧ q.isMatch "xb" = true) ∧
      IsPattern "(?x)a # c" ∧
      ¬ ∃ q, ({ image := "bin.elf" } : BinaryConfig).exclusionPattern "(?x)a # c" = .ok q := by
  have htaken : (({ image := "bin.elf" } : BinaryConfig).exclusionPattern
      "a)|(?:b").toOption.any (·.isMatch "xb") = true := by decide +kernel
  have hrefused : (({ image := "bin.elf" } : BinaryConfig).exclusionPattern
      "(?x)a # c").toOption.isNone = true := by decide +kernel
  have hnone : (parse? "a)|(?:b").isNone = true := by decide +kernel
  have hsome : (parse? "(?x)a # c").isSome = true := by decide +kernel
  refine ⟨?_, Option.isSome_iff_exists.1 hsome, ?_⟩
  · cases hread : ({ image := "bin.elf" } : BinaryConfig).exclusionPattern "a)|(?:b" with
    | error e =>
        rw [hread] at htaken
        cases htaken
    | ok q =>
        rw [hread] at htaken
        refine ⟨q, rfl, ?_, htaken⟩
        rintro ⟨p, hp⟩
        rw [hp] at hnone
        cases hnone
  · rintro ⟨q, hq⟩
    rw [hq] at hrefused
    cases hrefused

end BinaryConfig

end BinaryCoverage
