import BinaryCoverage.Proofs.Pattern.Group
import BinaryCoverage.Proofs.Pattern.Nesting
import BinaryCoverage.Proofs.Pattern.Repetition
import Mathlib.Data.Option.Basic
import Mathlib.Logic.Equiv.Prod

/-!
# How far patterns reach

The parts of a group are read up to the parenthesis that ends it, and they are read alike whether or
not it is there (`bounded_parts`): a parenthesis after a text is the end of the group, or a part of
what the text left open — a comment, an escape, a set, a name, the start of a group.

`parse?` is the pattern of a whole text, however large, and `read_eq` says what the limits make of it.
-/

namespace BinaryCoverage.Pattern

open Reader

variable {f : Flags} {n : Nat}

/-! ## Primitives -/

/-- A brace given back with the blanks after it. -/
def AtBrace (f : Flags) (_ : Pattern) (cs : List Char) : Prop :=
  ∃ bs, cs = '\x7b' :: bs ∧ f.skip bs = []

theorem readPrimitive?_eq (f : Flags) :
    readPrimitive? f = onHead fun c =>
      if c == '\\' then andThen (readEscape? f) fun p => value (p.pattern? f)
      else value ((readPrimitive? f [c]).map (·.1)) := by
  have hplain : ∀ {c} rest, c ≠ '\\' → c ≠ '.' → c ≠ '^' → c ≠ '$' → readPrimitive? f (c :: rest) =
      (Primitive.pattern? f (.char c false)).map fun p => (p, rest) := by
    intro c rest hslash hdot hcaret hdollar
    unfold readPrimitive?
    split <;> simp_all
  funext cs
  rcases cs with _ | ⟨c, rest⟩
  · rfl
  · rw [onHead]
    by_cases hslash : c = '\\'
    · subst hslash
      rw [readPrimitive?, if_pos (by decide), andThen]
      refine Option.bind_congr fun x _ => ?_
      obtain ⟨p, rest⟩ := x
      dsimp only
      cases p.pattern? f <;> rfl
    · rw [if_neg (by simpa using hslash)]
      by_cases hdot : c = '.'
      · subst hdot
        rw [readPrimitive?, readPrimitive?]
        cases f.dot? <;> rfl
      · by_cases hcaret : c = '^'
        · subst hcaret
          rfl
        · by_cases hdollar : c = '$'
          · subst hdollar
            rfl
          · rw [hplain rest hslash hdot hcaret hdollar, hplain [] hslash hdot hcaret hdollar]
            cases Primitive.pattern? f (.char c false) <;> rfl

theorem bounded_readPrimitive? (f : Flags) : Bounded (AtBrace f) (readPrimitive? f) := by
  rw [readPrimitive?_eq]
  refine bounded_onHead fun c => ?_
  split
  · refine bounded_andThen (bounded_readEscape? f) (fun p => bounded_value _) ?_
    rintro p u t q rest ⟨-, hbrace⟩ hread
    obtain ⟨_, _, heq⟩ := Option.map_eq_some_iff.1 hread
    cases heq
    exact Or.inr ⟨u, hbrace, rfl⟩
  · exact bounded_value _

theorem consumes_readPrimitive? (f : Flags) : Consumes (readPrimitive? f) := by
  rw [readPrimitive?_eq]
  refine consumes_onHead fun c => ?_
  split
  · exact leaves_andThen (bounded_readEscape? f).leaves fun p => leaves_value _
  · exact leaves_value _

/-! ## Parts -/

/-- The rest of a group and the names used so far. -/
def parts (n : Nat) (s : Parts) : Reader (Pattern × List String) := fun cs =>
  (readParts? n s cs).map (Equiv.prodAssoc _ _ _).symm

/-- The latest part repeated, and the parts after it. -/
def repeated (n : Nat) (s : Parts) (least : Nat) (most : Option Nat) :
    Reader (Pattern × List String) :=
  (value (repeatLatest? s.parts least most)).andThen fun ps =>
    ifHead (· == '?') (fun _ => parts n { s with parts := ps }) (parts n { s with parts := ps })

/-- A group after its start, and the parts after it. -/
def grouped (n : Nat) (s : Parts) : GroupStart → Reader (Pattern × List String)
  | .flags g => parts n { s.add .flags with flags := g }
  | .group g name =>
      if name.any s.names.contains then fails
      else
        (parts n { flags := g, names := name.toList ++ s.names }).andThen fun x => onHead fun c =>
          if c == ')' then parts n { s.add (.group x.1) with names := x.2 } else fails

/-- The parts that begin with a character. -/
def partsAt (n : Nat) (s : Parts) (c : Char) : Reader (Pattern × List String) :=
  if c == '|' then parts n { s with parts := [], branches := sequenceOf s.parts :: s.branches }
  else if c == '?' then repeated n s 0 (some 1)
  else if c == '*' then repeated n s 0 none
  else if c == '+' then repeated n s 1 none
  else if c == '\x7b' then (bounds s.flags).andThen fun x => repeated n s x.1 x.2
  else if c == '[' then
    (bracketed s.flags).andThen fun m => parts n (s.add (.set m.set m.nesting))
  else if c == '(' then andThen (readGroupStart? s.flags) (grouped n s)
  else (after c (readPrimitive? s.flags)).andThen fun p => parts n (s.add p)

theorem repeated_eq (n : Nat) (s : Parts) (least : Nat) (most : Option Nat) (cs : List Char) :
    repeated n s least most cs =
      ((repeatLatest? s.parts least most).bind fun ps =>
        readParts? n { s with parts := ps } (skipLazy cs)).map (Equiv.prodAssoc _ _ _).symm := by
  rw [repeated, andThen, value]
  cases repeatLatest? s.parts least most with
  | none =>
      rfl
  | some ps =>
      rcases cs with _ | ⟨c, rest⟩
      · rfl
      · by_cases hc : c = '?'
        · subst hc
          rfl
        · simp [ifHead, hc, skipLazy, parts]

theorem grouped_eq (n : Nat) (s : Parts) (g : Flags) (name : Option String) (cs : List Char) :
    grouped n s (.group g name) cs = (do
      guard !(name.any s.names.contains)
      let (p, names, rest) ← readParts? n { flags := g, names := name.toList ++ s.names } cs
      match rest with
      | ')' :: rest => readParts? n { s.add (.group p) with names } rest
      | _ => none).map (Equiv.prodAssoc _ _ _).symm := by
  rw [grouped]
  cases name.any s.names.contains with
  | true =>
      rfl
  | false =>
      rw [if_neg Bool.false_ne_true, andThen, parts]
      change _ = (do
        let (p, names, rest) ← readParts? n { flags := g, names := name.toList ++ s.names } cs
        match rest with
        | ')' :: rest => readParts? n { s.add (.group p) with names } rest
        | _ => none).map _
      cases readParts? n { flags := g, names := name.toList ++ s.names } cs with
      | none =>
          rfl
      | some x =>
          obtain ⟨p, names, rest⟩ := x
          rcases rest with _ | ⟨c, rest⟩
          · rfl
          · by_cases hc : c = ')'
            · subst hc
              rfl
            · simp [onHead, hc, fails]

theorem parts_succ (n : Nat) (s : Parts) :
    parts (n + 1) s = skipped s.flags (ifHead (· != ')') (partsAt n s)
      (value (some (s.pattern, s.names)))) := by
  funext cs
  rw [parts, readParts?, skipped]
  generalize s.flags.skip cs = u
  split
  · rfl
  · rfl
  · rfl
  · next rest => exact (repeated_eq n s _ _ rest).symm
  · next rest => exact (repeated_eq n s _ _ rest).symm
  · next rest => exact (repeated_eq n s _ _ rest).symm
  · next rest =>
    change _ = ((bounds s.flags).andThen fun x => repeated n s x.1 x.2) rest
    rw [readBounds?_eq, andThen]
    cases bounds s.flags rest with
    | none =>
        rfl
    | some x =>
        exact (repeated_eq n s _ _ x.2).symm
  · next rest =>
    change _ = ((bracketed s.flags).andThen fun m => parts n (s.add (.set m.set m.nesting))) rest
    rw [andThen, bracketed, unfueled]
    cases readSet? (rest.length + 1) s.flags rest <;> rfl
  · next rest =>
    change _ = andThen (readGroupStart? s.flags) (grouped n s) rest
    rw [andThen]
    cases readGroupStart? s.flags rest with
    | none =>
        rfl
    | some x =>
        obtain ⟨start, rest⟩ := x
        rw [Option.bind_some]
        cases start with
        | flags g =>
            rfl
        | group g name =>
            exact (grouped_eq n s g name rest).symm
  · -- Whatever else the text begins with is a primitive.
    next hnil hclose hbar hmark hstar hplus hbrace hbracket hopen =>
    rcases u with _ | ⟨c, rest⟩
    · exact (hnil rfl).elim
    · have hat : ifHead (· != ')') (partsAt n s) (value (some (s.pattern, s.names))) (c :: rest) =
          ((after c (readPrimitive? s.flags)).andThen fun p => parts n (s.add p)) rest := by
        have hne : ∀ {d}, (∀ r, c :: rest = d :: r → False) → c ≠ d :=
          fun h hc => h rest (by rw [hc])
        simp [ifHead, partsAt, hne hclose, hne hbar, hne hmark, hne hstar, hne hplus, hne hbrace,
          hne hbracket, hne hopen]
      rw [hat, andThen, after]
      cases readPrimitive? s.flags (c :: rest) <;> rfl

/-- A brace that only blanks follow begins no repetition. -/
theorem parts_brace (n : Nat) (s : Parts) {bs : List Char} (h : s.flags.skip bs = []) :
    parts n s ('\x7b' :: bs) = none := by
  cases n with
  | zero =>
      rfl
  | succ n =>
      have hbounds : bounds s.flags bs = none := by
        rw [bounds, skipped, h, andThen, count?_nil, Option.bind_none]
      rw [parts_succ, skipped, s.flags.skip_visible (by decide) (by decide)]
      simp [ifHead, partsAt, andThen, hbounds]

section Bounded

variable (h : ∀ s, Bounded never (parts n s)) (s : Parts)

include h

theorem bounded_repeated (least : Nat) (most : Option Nat) :
    Bounded never (repeated n s least most) :=
  (bounded_value _).andThen fun ps => bounded_ifHead (by decide) (fun _ => h _) (h _)

theorem bounded_grouped (start : GroupStart) : Bounded never (grouped n s start) := by
  cases start with
  | flags g =>
      exact h _
  | group g name =>
      rw [grouped]
      split
      · exact bounded_fails
      · refine (h _).andThen fun x => bounded_onHead fun c => ?_
        split
        · exact h _
        · exact bounded_fails

theorem bounded_partsAt (c : Char) : Bounded never (partsAt n s c) := by
  unfold partsAt
  split_ifs
  · exact h _
  · exact bounded_repeated h s _ _
  · exact bounded_repeated h s _ _
  · exact bounded_repeated h s _ _
  · exact (bounded_bounds s.flags).andThen fun x => bounded_repeated h s _ _
  · exact (bounded_bracketed s.flags).andThen fun m => h _
  · exact (bounded_readGroupStart? s.flags).andThen (bounded_grouped h s)
  · -- Bounds after the brace would have to begin with a number.
    refine bounded_andThen (bounded_after (bounded_readPrimitive? s.flags)
      (consumes_readPrimitive? s.flags) c) (fun p => h _) ?_
    rintro p u t x rest ⟨bs, rfl, hskip⟩ hread
    exact Or.inl ((h _).suffix_of_eq_none (parts_brace n (s.add p) hskip) hread)

end Bounded

/-- The parts of a group end before a parenthesis, or what the text left open takes it. -/
theorem bounded_parts (n : Nat) (s : Parts) : Bounded never (parts n s) := by
  induction n generalizing s with
  | zero =>
      exact bounded_fails
  | succ n ih =>
      rw [parts_succ]
      exact bounded_skipped s.flags (bounded_ifHead (by decide) (bounded_partsAt ih s)
        (bounded_value _))

/-! ## Enough fuel for the parts of a group -/

section Fuel

variable (h : ∀ s, AgreeBelow n (parts n s) (parts (n + 1) s)) (s : Parts)

include h

theorem agree_repeated (least : Nat) (most : Option Nat) :
    AgreeBelow n (repeated n s least most) (repeated (n + 1) s least most) := by
  refine (AgreeBelow.refl n _).andThen (leaves_value _) fun ps => ?_
  exact AgreeBelow.ifHead n.le_succ (fun _ => h _) (h _)

theorem agree_grouped (start : GroupStart) :
    AgreeBelow n (grouped n s start) (grouped (n + 1) s start) := by
  cases start with
  | flags g =>
      exact h _
  | group g name =>
      rw [grouped, grouped]
      split
      · exact AgreeBelow.refl n _
      · refine (h _).andThen (bounded_parts (n + 1) _).leaves fun x => ?_
        refine AgreeBelow.onHead n.le_succ fun c => ?_
        split
        · exact h _
        · exact AgreeBelow.refl n _

theorem agree_partsAt (c : Char) : AgreeBelow n (partsAt n s c) (partsAt (n + 1) s c) := by
  unfold partsAt
  split_ifs
  · exact h _
  · exact agree_repeated h s _ _
  · exact agree_repeated h s _ _
  · exact agree_repeated h s _ _
  · exact (AgreeBelow.refl n _).andThen (bounded_bounds s.flags).leaves fun x =>
      agree_repeated h s _ _
  · exact (AgreeBelow.refl n _).andThen (bounded_bracketed s.flags).leaves fun m => h _
  · exact (AgreeBelow.refl n _).andThen (bounded_readGroupStart? s.flags).leaves (agree_grouped h s)
  · exact (AgreeBelow.refl n _).andThen (leaves_after (consumes_readPrimitive? s.flags) c)
      fun p => h _

end Fuel

theorem agree_parts (n : Nat) (s : Parts) : AgreeBelow n (parts n s) (parts (n + 1) s) := by
  induction n generalizing s with
  | zero =>
      exact agreeBelow_zero
  | succ n ih =>
      rw [parts_succ, parts_succ]
      exact (AgreeBelow.ifHead le_rfl (agree_partsAt ih s) (AgreeBelow.refl _ _)).skipped s.flags

/-- The rest of a group, with fuel for the text. -/
def groupParts (s : Parts) : Reader (Pattern × List String) := unfueled fun n => parts n s

theorem fueled_parts (s : Parts) : Fueled fun n => parts n s :=
  fueled_of_agreeBelow fun n => agree_parts n s

theorem bounded_groupParts (s : Parts) : Bounded never (groupParts s) :=
  bounded_unfueled (fun n => bounded_parts n s) (fueled_parts s)

/-! ## Where the parts of a group stop -/

/-- Only the end of the text or a parenthesis stops the reader. -/
def Stops {α : Type} (R : Reader α) : Prop :=
  ∀ ⦃cs a rest⦄, R cs = some (a, rest) → rest = [] ∨ ∃ t, rest = ')' :: t

theorem stops_fails {α : Type} : Stops (fails : Reader α) := by
  intro cs a rest hread
  cases hread

theorem stops_andThen {α β : Type} {R : Reader α} {S : α → Reader β} (hS : ∀ a, Stops (S a)) :
    Stops (andThen R S) := by
  intro cs b rest hread
  obtain ⟨⟨a, between⟩, -, hsecond⟩ := Option.bind_eq_some_iff.1 hread
  exact hS a hsecond

theorem stops_ifHead {α : Type} {p : Char → Bool} {C : Char → Reader α} {T : Reader α}
    (hC : ∀ c, Stops (C c)) (hT : Stops T) : Stops (ifHead p C T) := by
  intro cs a rest hread
  rcases cs with _ | ⟨c, more⟩
  · exact hT hread
  · rw [ifHead] at hread
    split at hread
    · exact hC c hread
    · exact hT hread

theorem stops_onHead {α : Type} {C : Char → Reader α} (hC : ∀ c, Stops (C c)) :
    Stops (onHead C) := by
  intro cs a rest hread
  rcases cs with _ | ⟨c, more⟩
  · cases hread
  · exact hC c hread

theorem stops_partsAt (h : ∀ s, Stops (parts n s)) (s : Parts) (c : Char) :
    Stops (partsAt n s c) := by
  have hrepeated : ∀ least most, Stops (repeated n s least most) := fun _ _ =>
    stops_andThen fun ps => stops_ifHead (fun _ => h _) (h _)
  have hgrouped : ∀ start, Stops (grouped n s start) := by
    intro start
    cases start with
    | flags g =>
        exact h _
    | group g name =>
        rw [grouped]
        split
        · exact stops_fails
        · refine stops_andThen fun x => stops_onHead fun c => ?_
          split
          · exact h _
          · exact stops_fails
  unfold partsAt
  split_ifs
  · exact h _
  · exact hrepeated _ _
  · exact hrepeated _ _
  · exact hrepeated _ _
  · exact stops_andThen fun x => hrepeated _ _
  · exact stops_andThen fun m => h _
  · exact stops_andThen hgrouped
  · exact stops_andThen fun p => h _

theorem stops_parts (n : Nat) (s : Parts) : Stops (parts n s) := by
  induction n generalizing s with
  | zero =>
      exact stops_fails
  | succ n ih =>
      intro cs x rest hread
      rw [parts_succ, skipped] at hread
      -- The text ends, or its next character begins a part or is the parenthesis.
      generalize s.flags.skip cs = u at hread
      rcases u with _ | ⟨c, more⟩
      · cases hread
        exact Or.inl rfl
      · rw [ifHead] at hread
        split at hread
        · exact stops_partsAt ih s c hread
        · next hc =>
          obtain rfl : c = ')' := by simpa using hc
          cases hread
          exact Or.inr ⟨more, rfl⟩

/-! ## Whole texts -/

/-- The pattern that a whole text stands for, however large it is. -/
def parse? (text : String) : Option Pattern :=
  match readParts? (text.toList.length + 1) { flags := {} } text.toList with
  | some (p, _, []) => some p
  | _ => none

theorem read_eq (text : String) :
    Pattern.read text =
      match parse? text with
      | none => .error .malformed
      | some p =>
          if heightLimit < p.height then .error .tooDeep
          else if sizeLimit < p.size then .error .tooLarge
          else .ok p := by
  unfold Pattern.read parse?
  dsimp only
  rcases readParts? (text.toList.length + 1) { flags := {} } text.toList with
    _ | ⟨p, names, _ | ⟨c, rest⟩⟩
  · rfl
  · rfl
  · rfl

theorem parse?_eq_some_iff {text : String} {p : Pattern} :
    parse? text = some p ↔
      ∃ names, groupParts { flags := {} } text.toList = some ((p, names), []) := by
  unfold parse? groupParts unfueled parts
  dsimp only
  generalize readParts? (text.toList.length + 1) { flags := {} } text.toList = read
  rcases read with _ | ⟨q, names, _ | ⟨c, rest⟩⟩
  · simp
  · simp
  · simp

/-- A whole text is a pattern, however large it is. -/
def IsPattern (text : String) : Prop := ∃ p, parse? text = some p

end BinaryCoverage.Pattern
