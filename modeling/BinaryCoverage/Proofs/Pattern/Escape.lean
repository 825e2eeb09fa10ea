import BinaryCoverage.Pattern.Escape
import BinaryCoverage.Proofs.Pattern.Extent

/-!
# How far escapes reach

A text that ends within an escape is no pattern, and what follows may complete the escape.  One case
is of its own: after `\b` and a brace that only blanks follow the parenthesis decides that there is no
name, and the brace is given back with all that is after it (`HangsAfter`).
-/

namespace BinaryCoverage.Pattern

open Reader
open Text (isHexDigit)

variable {f : Flags} {n : Nat}

/-! ## Digits and names -/

theorem readHex?_succ (f : Flags) (n : Nat) :
    readHex? f (n + 1) = onHead fun c =>
      if isHexDigit c then
        andThen (if n = 0 then readHex? f n else skipped f (readHex? f n)) fun digits =>
          value (some (c :: digits))
      else fails := by
  funext cs
  cases cs with
  | nil =>
      rfl
  | cons c rest =>
      rw [readHex?, onHead]
      split
      · rw [andThen_value_some]
        split <;> rfl
      · rfl

theorem bounded_readHex? (f : Flags) (n : Nat) : Bounded never (readHex? f n) := by
  induction n with
  | zero =>
      exact bounded_value (some [])
  | succ n ih =>
      rw [readHex?_succ]
      refine bounded_onHead fun c => ?_
      split
      · refine Bounded.andThen ?_ fun digits => bounded_value _
        split
        · exact ih
        · exact bounded_skipped f ih
      · exact bounded_fails

/-- Characters of one kind up to a closing brace. -/
def readBraced (p : Char → Bool) (f : Flags) : Nat → Reader (List Char)
  | 0 => fails
  | n + 1 => onHead fun c =>
      if c == '\x7d' then value (some [])
      else if p c then
        ((readBraced p f n).skipped f).andThen fun cs => value (some (c :: cs))
      else fails

theorem readBracedHex?_eq (f : Flags) (n : Nat) :
    readBracedHex? f n = readBraced isHexDigit f n := by
  induction n with
  | zero =>
      rfl
  | succ n ih =>
      funext cs
      cases cs with
      | nil =>
          rfl
      | cons c rest =>
          rw [readBracedHex?, readBraced, onHead, ih]
          split
          · rfl
          · split
            · rw [andThen_value_some, skipped]
            · rfl

theorem readName?_eq (f : Flags) (n : Nat) :
    readName? f n = readBraced (fun _ => true) f n := by
  induction n with
  | zero =>
      rfl
  | succ n ih =>
      funext cs
      cases cs with
      | nil =>
          rfl
      | cons c rest =>
          rw [readName?, readBraced, onHead, ih]
          split
          · rfl
          · rw [if_pos rfl, andThen_value_some, skipped]

theorem bounded_readBraced (p : Char → Bool) (f : Flags) (n : Nat) :
    Bounded never (readBraced p f n) := by
  induction n with
  | zero =>
      exact bounded_fails
  | succ n ih =>
      refine bounded_onHead fun c => ?_
      split
      · exact bounded_value _
      · split
        · exact (bounded_skipped f ih).andThen fun cs => bounded_value _
        · exact bounded_fails

theorem agree_readBraced (p : Char → Bool) (f : Flags) (n : Nat) :
    AgreeBelow n (readBraced p f n) (readBraced p f (n + 1)) := by
  induction n with
  | zero =>
      exact agreeBelow_zero
  | succ n ih =>
      refine AgreeBelow.onHead le_rfl fun c => ?_
      split
      · exact AgreeBelow.refl n _
      · split
        · exact (ih.skipped f).andThen (leaves_skipped f (bounded_readBraced p f (n + 1)).leaves)
            fun cs => AgreeBelow.refl n _
        · exact AgreeBelow.refl n _

/-- The text between braces, after the opening one. -/
def braced (p : Char → Bool) (f : Flags) : Reader (List Char) :=
  (unfueled (readBraced p f)).skipped f

theorem bounded_braced (p : Char → Bool) (f : Flags) : Bounded never (braced p f) :=
  bounded_skipped f (bounded_unfueled (bounded_readBraced p f)
    (fueled_of_agreeBelow (agree_readBraced p f)))

theorem readBraced_length_succ (p : Char → Bool) (f : Flags) (cs : List Char) :
    readBraced p f (cs.length + 1) (f.skip cs) = braced p f cs :=
  fueled_of_agreeBelow (agree_readBraced p f) (Nat.lt_succ_of_le (f.skip_suffix cs).length_le)

/-! ## Characters by number -/

theorem readScalar?_eq (f : Flags) (letter : Char) :
    readScalar? f letter = (ifHead (· == '\x7b')
      (fun _ => (braced isHexDigit f).andThen fun digits =>
        value ((scalar? digits).map (Primitive.char · false)))
      (andThen (readHex? f (if letter == 'x' then 2 else if letter == 'u' then 4 else 8))
        fun digits =>
          value ((scalar? digits).map (Primitive.char · (letter == 'x'))))).skipped f := by
  funext cs
  unfold readScalar? skipped
  split
  · next rest heq =>
    rw [heq, readBracedHex?_eq, readBraced_length_succ]
    simp [ifHead, andThen, value, Option.map_eq_bind, Option.bind_assoc, bind]
  · next hne =>
    generalize f.skip cs = u at hne
    cases u with
    | nil =>
        simp [ifHead, andThen, value, Option.map_eq_bind, Option.bind_assoc, bind]
    | cons c rest =>
        have hc : (c == '\x7b') = false := by
          simpa using fun hc => hne rest (by rw [hc])
        simp [ifHead, hc, andThen, value, Option.map_eq_bind, Option.bind_assoc, bind]

theorem bounded_readScalar? (f : Flags) (letter : Char) :
    Bounded never (readScalar? f letter) := by
  rw [readScalar?_eq]
  refine bounded_skipped f (bounded_ifHead (by decide) (fun _ => ?_) ?_)
  · exact (bounded_braced isHexDigit f).andThen fun digits => bounded_value _
  · exact (bounded_readHex? f _).andThen fun digits => bounded_value _

/-! ## Properties -/

theorem readProperty?_eq (f : Flags) (negated : Bool) :
    readProperty? f negated =
      if f.unicode then
        skipped f (onHead fun c =>
          if c == '\x7b' then
            (braced (fun _ => true) f).andThen fun name =>
              value ((namedSet? name).map fun x => .set (f.complementIf (negated != x.2) x.1))
          else if c == '\\' then fails
          else value ((propertySet? [c]).map fun s => .set (f.complementIf negated s)))
      else fails := by
  funext cs
  unfold readProperty?
  cases hunicode : f.unicode with
  | false =>
      rfl
  | true =>
      unfold guard skipped
      rw [if_pos rfl]
      simp only [bind, Option.bind_some, pure, if_true]
      split
      · next heq =>
        rw [heq, onHead]
      · next rest heq =>
        rw [heq, readName?_eq, readBraced_length_succ]
        simp [onHead, andThen, value, Option.map_eq_bind, Option.bind_assoc]
      · next heq =>
        rw [heq]
        rfl
      · next c rest hbrace hslash heq =>
        have hc : (c == '\x7b') = false := by simpa using hbrace
        have hc' : (c == '\\') = false := by simpa using hslash
        simp [heq, onHead, hc, hc', value, Option.map_eq_bind, Option.bind_assoc]

theorem bounded_readProperty? (f : Flags) (negated : Bool) :
    Bounded never (readProperty? f negated) := by
  rw [readProperty?_eq]
  split
  · refine bounded_skipped f (bounded_onHead fun c => ?_)
    split
    · exact (bounded_braced _ f).andThen fun name => bounded_value _
    · split
      · exact bounded_fails
      · exact bounded_value _
  · exact bounded_fails

/-! ## Boundaries -/

def letters (f : Flags) (n : Nat) : Reader (List Char) := fun cs => some (readLetters f n cs)

theorem letters_succ (f : Flags) (n : Nat) :
    letters f (n + 1) = ifHead isNameChar
      (fun c => ((letters f n).skipped f).andThen fun name => value (some (c :: name)))
      (value (some [])) := by
  funext cs
  cases cs with
  | nil =>
      rfl
  | cons c rest =>
      rw [letters, readLetters, ifHead]
      split <;> rfl

theorem bounded_letters (f : Flags) (n : Nat) : Bounded never (letters f n) := by
  induction n with
  | zero =>
      exact bounded_value (some [])
  | succ n ih =>
      rw [letters_succ]
      exact bounded_ifHead (by decide)
        (fun c => (bounded_skipped f ih).andThen fun name => bounded_value _) (bounded_value _)

theorem agree_letters (f : Flags) (n : Nat) :
    AgreeBelow (n + 1) (letters f n) (letters f (n + 1)) := by
  induction n with
  | zero =>
      exact agreeBelow_one rfl
  | succ n ih =>
      rw [letters_succ, letters_succ]
      refine AgreeBelow.ifHead le_rfl (fun c => ?_) (AgreeBelow.refl _ _)
      exact (ih.skipped f).andThen (leaves_skipped f (bounded_letters f (n + 1)).leaves)
        fun name => AgreeBelow.refl _ _

/-- The name of a boundary and the brace that ends it. -/
def boundaryName (f : Flags) : Reader Primitive :=
  (unfueled (letters f)).andThen fun name => onHead fun c =>
    if c == '\x7d' then value ((boundaryName? (!f.unicode) name).map .look) else fails

theorem bounded_boundaryName (f : Flags) : Bounded never (boundaryName f) := by
  have hfueled := fueled_of_agreeBelow fun n => (agree_letters f n).mono n.le_succ
  refine (bounded_unfueled (bounded_letters f) hfueled).andThen fun name =>
    bounded_onHead fun c => ?_
  split
  · exact bounded_value _
  · exact bounded_fails

theorem readBoundary?_brace (f : Flags) (rest : List Char) :
    readBoundary? f ('\x7b' :: rest) =
      match f.skip rest with
      | [] => none
      | c :: more =>
          if isNameChar c then boundaryName f (c :: more)
          else some (.look (.boundary !f.unicode), '\x7b' :: rest) := by
  rw [readBoundary?]
  cases f.skip rest with
  | nil =>
      rfl
  | cons c more =>
      have hfuel : unfueled (letters f) (c :: more) = letters f (more.length + 1) (c :: more) :=
        unfueled_eq_length (agree_letters f) (c :: more)
      dsimp only
      split
      · rw [boundaryName, andThen, hfuel, letters, Option.bind_some]
        generalize readLetters f (more.length + 1) (c :: more) = read
        obtain ⟨name, rest⟩ := read
        cases rest with
        | nil =>
            rfl
        | cons d rest =>
            dsimp only [onHead]
            split
            · next heq =>
              cases heq
              cases boundaryName? (!f.unicode) name <;> rfl
            · next hne =>
              have hd : (d == '\x7d') = false := by simpa using fun hd => hne rest (by rw [hd])
              simp [hd, fails]
      · rfl

/-- A look that is given back together with a brace and the blanks after it. -/
def HangsAfter (f : Flags) (p : Primitive) (cs : List Char) : Prop :=
  (∃ l, p = .look l) ∧ ∃ bs, cs = '\x7b' :: bs ∧ f.skip bs = []

theorem readBoundary?_of_ne {cs : List Char} (h : ∀ rest, cs ≠ '\x7b' :: rest) :
    readBoundary? f cs = some (.look (.boundary !f.unicode), cs) := by
  unfold readBoundary?
  split
  · next rest => exact absurd rfl (h rest)
  · rfl

theorem leaves_readBoundary? (f : Flags) : Leaves (readBoundary? f) := by
  intro cs p rest hread
  by_cases hbrace : ∃ bs, cs = '\x7b' :: bs
  · obtain ⟨bs, rfl⟩ := hbrace
    rw [readBoundary?_brace] at hread
    split at hread
    · cases hread
    · next c more heq =>
      split at hread
      · have hmore : c :: more <:+ bs := heq ▸ f.skip_suffix bs
        exact ((bounded_boundaryName f).leaves hread).trans
          (hmore.trans (List.suffix_cons _ bs))
      · cases hread
        exact List.suffix_rfl
  · rw [readBoundary?_of_ne (not_exists.1 hbrace)] at hread
    cases hread
    exact List.suffix_rfl

/-- Where only blanks follow the brace, what comes after them decides. -/
theorem readBoundary?_overruns {bs : List Char} (h : f.skip bs = []) :
    Overruns (HangsAfter f) (readBoundary? f) ('\x7b' :: bs) := by
  refine overruns_of_none (by rw [readBoundary?_brace, h]) fun t p rest hread => ?_
  rw [List.cons_append, readBoundary?_brace] at hread
  split at hread
  · cases hread
  · next c more heq =>
    split at hread
    · next hchar =>
      left
      refine ((bounded_boundaryName f).leaves hread).trans ?_
      rw [← heq]
      -- The name that is read begins after the parenthesis, which is no letter of one.
      refine (f.skip_append_of_nil h t).resolve_left fun hpar => ?_
      rw [hpar] at heq
      cases heq
      exact absurd hchar (by decide)
    · cases hread
      exact Or.inr ⟨_, ⟨⟨_, rfl⟩, bs, rfl, h⟩, rfl⟩

theorem bounded_readBoundary? (f : Flags) : Bounded (HangsAfter f) (readBoundary? f) where
  leaves := leaves_readBoundary? f
  ends cs := by
    by_cases hbrace : ∃ bs, cs = '\x7b' :: bs
    · obtain ⟨bs, rfl⟩ := hbrace
      cases hskip : f.skip bs with
      | nil =>
          exact Or.inr (readBoundary?_overruns hskip)
      | cons c more =>
          -- A character after the blanks decides whether there is a name.
          have hover := f.skip_append_of_cons hskip
          cases hchar : isNameChar c with
          | true =>
              refine ((bounded_boundaryName f).mono.ends (c :: more)).congr ?_ fun t => ?_
              · simp [readBoundary?_brace, hskip, hchar]
              · simp [readBoundary?_brace, hover, hchar]
          | false =>
              refine Or.inl ⟨.look (.boundary !f.unicode), '\x7b' :: bs, ?_, fun t => ?_⟩
              · simp [readBoundary?_brace, hskip, hchar]
              · simp [readBoundary?_brace, hover, hchar]
    · -- Without a brace the letter is all of it.
      refine Or.inl ⟨_, cs, readBoundary?_of_ne (not_exists.1 hbrace), fun t => ?_⟩
      refine readBoundary?_of_ne fun rest heq => ?_
      cases cs with
      | nil =>
          cases heq
      | cons c cs =>
          cases heq
          exact hbrace ⟨cs, rfl⟩

/-! ## Escapes -/

/-- What an escape is after its first letter; most are that letter alone. -/
def escapeAt (f : Flags) (c : Char) : Reader Primitive :=
  if c == 'b' then readBoundary? f
  else if c == 'x' || c == 'u' || c == 'U' then readScalar? f c
  else if c == 'p' || c == 'P' then readProperty? f (c == 'P')
  else value ((readEscape? f [c]).map (·.1))

theorem readEscape?_eq (f : Flags) : readEscape? f = onHead (escapeAt f) := by
  funext cs
  cases cs with
  | nil =>
      rfl
  | cons c rest =>
      rw [onHead, escapeAt]
      split
      · next hb =>
        obtain rfl := eq_of_beq hb
        rfl
      · next hb =>
        rw [readEscape?.eq_def, readEscape?.eq_def]
        dsimp only
        split_ifs
        · rfl
        · rfl
        · cases letterSet? f c <;> rfl
        · rfl
        · split
          case h_9 => exact absurd rfl hb
          all_goals rfl

theorem bounded_escapeAt (f : Flags) (c : Char) : Bounded (HangsAfter f) (escapeAt f c) := by
  unfold escapeAt
  split_ifs
  · exact bounded_readBoundary? f
  · exact (bounded_readScalar? f c).mono
  · exact (bounded_readProperty? f _).mono
  · exact bounded_value _

theorem bounded_readEscape? (f : Flags) : Bounded (HangsAfter f) (readEscape? f) := by
  rw [readEscape?_eq]
  exact bounded_onHead (bounded_escapeAt f)

end BinaryCoverage.Pattern
