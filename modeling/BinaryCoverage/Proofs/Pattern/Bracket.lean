import BinaryCoverage.Pattern.Bracket
import BinaryCoverage.Proofs.Pattern.Escape

/-!
# How far sets in brackets reach

A set in brackets ends with its bracket, so a parenthesis after a text that ends within one is a
member.  The readers of members may give it back, alone or after a hyphen that only blanks follow
(`HangsWithin`); the set as a whole never does (`bounded_readSet?_readMembers?`).
-/

namespace BinaryCoverage.Pattern

open Reader

variable {f : Flags} {cs rest t : List Char}

/-! ## Readers that a parenthesis does not change -/

theorem asciiClass?_eq_none {name : List Char} (h : ')' ∈ name) :
    asciiClass? (String.ofList name) = none := by
  generalize htext : String.ofList name = text
  have hname : name = text.toList := by rw [← htext, String.toList_ofList]
  subst hname
  unfold asciiClass?
  split
  case h_15 => rfl
  all_goals exact absurd h (by decide)

/-- What follows the end of a class. -/
def afterClass? : List Char → Option (List Char)
  | ':' :: ']' :: rest => some rest
  | _ => none

/-- The name of a class and what ends it. -/
def className (f : Flags) (negated : Bool) : Reader CharSet := fun cs =>
  (afterClass? (cs.dropWhile (· != ':'))).bind fun rest =>
    (asciiClass? (String.ofList (cs.takeWhile (· != ':')))).map fun s =>
      (f.complementIf negated s, rest)

theorem className_eq (f : Flags) (negated : Bool) (cs : List Char) :
    className f negated cs =
      match cs.dropWhile (· != ':') with
      | ':' :: ']' :: after =>
          (asciiClass? (String.ofList (cs.takeWhile (· != ':')))).map fun s =>
            (f.complementIf negated s, after)
      | _ => none := by
  unfold className afterClass?
  split
  · next after heq => simp
  · next hne => rfl

theorem readAsciiClass?_eq (f : Flags) :
    readAsciiClass? f = onHead fun c =>
      if c == ':' then ifHead (· == '^') (fun _ => className f true) (className f false)
      else fails := by
  funext cs
  rcases cs with _ | ⟨c, rest⟩
  · rfl
  · by_cases hc : c = ':'
    · subst hc
      unfold readAsciiClass?
      dsimp only
      refine (className_eq f _ _).symm.trans ?_
      split
      · rfl
      · next hne =>
        rcases rest with _ | ⟨d, rest⟩
        · rfl
        · have hd : (d == '^') = false := by simpa using hne rest
          simp [onHead, ifHead, hd]
    · simp [readAsciiClass?, onHead, hc, fails]

theorem afterClass?_append (cs t : List Char) :
    afterClass? (cs ++ ')' :: t) = (afterClass? cs).map (· ++ ')' :: t) := by
  rcases cs with _ | ⟨c, _ | ⟨d, rest⟩⟩
  · rfl
  · simp [afterClass?]
  · by_cases h : c = ':' ∧ d = ']'
    · obtain ⟨rfl, rfl⟩ := h
      rfl
    · have hnone : ∀ u, afterClass? (c :: d :: u) = none := by
        intro u
        unfold afterClass?
        split
        · next heq =>
          cases heq
          exact absurd ⟨rfl, rfl⟩ h
        · rfl
      simp [hnone]

theorem steady_className (f : Flags) (negated : Bool) : Steady (className f negated) := by
  intro cs t
  unfold className
  rcases takeWhile_closing (d := ':') (by decide) cs t with ⟨hrest, hmem⟩ | ⟨-, htake, hdrop⟩
  · rw [asciiClass?_eq_none hmem, hrest]
    simp [afterClass?]
  · rw [htake, hdrop, afterClass?_append]
    simp [Option.map_bind, Option.bind_map, Function.comp_def]

theorem leaves_className (f : Flags) (negated : Bool) : Leaves (className f negated) := by
  intro cs s rest hread
  obtain ⟨after, hafter, hclass⟩ := Option.bind_eq_some_iff.1 hread
  obtain ⟨_, _, heq⟩ := Option.map_eq_some_iff.1 hclass
  cases heq
  refine List.IsSuffix.trans ?_ (List.dropWhile_suffix (· != ':'))
  unfold afterClass? at hafter
  split at hafter
  · next heq =>
    cases hafter
    rw [heq]
    exact (List.suffix_cons _ _).trans (List.suffix_cons _ _)
  · cases hafter

theorem consumes_readAsciiClass? (f : Flags) : Consumes (readAsciiClass? f) := by
  rw [readAsciiClass?_eq]
  refine consumes_onHead fun c => ?_
  split
  · exact leaves_ifHead (fun _ => leaves_className f true) (leaves_className f false)
  · exact consumes_fails.leaves

theorem steady_readAsciiClass? (f : Flags) : Steady (readAsciiClass? f) := by
  intro cs t
  rw [readAsciiClass?_eq]
  rcases cs with _ | ⟨c, rest⟩
  · rfl
  · rw [List.cons_append, onHead, onHead]
    split
    · rcases rest with _ | ⟨d, rest⟩
      · exact steady_className f false [] t
      · rw [List.cons_append, ifHead, ifHead]
        split
        · exact steady_className f true rest t
        · exact steady_className f false (d :: rest) t
    · rfl

theorem steady_readOperator? : Steady readOperator? := by
  intro cs t
  rcases cs with _ | ⟨c, _ | ⟨d, rest⟩⟩
  · rfl
  · simp [readOperator?]
  · rw [readOperator?.eq_def (c :: d :: rest)]
    split
    · next heq =>
      cases heq
      rfl
    · next heq =>
      cases heq
      rfl
    · next heq =>
      cases heq
      rfl
    · next h₁ h₂ h₃ =>
      rw [List.cons_append, List.cons_append, readOperator?.eq_def]
      split
      · next heq =>
        cases heq
        exact (h₁ rest rfl).elim
      · next heq =>
        cases heq
        exact (h₂ rest rfl).elim
      · next heq =>
        cases heq
        exact (h₃ rest rfl).elim
      · rfl

theorem consumes_readOperator? : Consumes readOperator? := by
  intro cs o rest hread
  unfold readOperator? at hread
  split at hread <;> cases hread <;> exact ⟨_, _, rfl, List.suffix_cons _ _⟩

/-! ## Items and ranges -/

theorem readItem?_eq (f : Flags) :
    readItem? f = onHead fun c =>
      if c == '\\' then readEscape? f else value (some (.char c false)) := by
  funext cs
  rcases cs with _ | ⟨c, rest⟩
  · rfl
  · by_cases hc : c = '\\'
    · subst hc
      rfl
    · simp [readItem?, onHead, hc, value]

theorem bounded_readItem? (f : Flags) : Bounded (HangsAfter f) (readItem? f) := by
  rw [readItem?_eq]
  refine bounded_onHead fun c => ?_
  split
  · exact bounded_readEscape? f
  · exact bounded_value _

theorem consumes_readItem? (f : Flags) : Consumes (readItem? f) := by
  rw [readItem?_eq]
  refine consumes_onHead fun c => ?_
  split
  · exact (bounded_readEscape? f).leaves
  · exact leaves_value _

/-- The last character of a range. -/
def rangeLast (f : Flags) (first : Primitive) : Reader CharSet :=
  andThen (readItem? f) fun last =>
    value ((first.char? f).bind fun low => (last.char? f).bind fun high =>
      if low ≤ high then some (.range low.toNat high.toNat) else none)

/-- After a hyphen: the end of a range, or the hyphen given back. -/
def rangeHyphen (f : Flags) (first : Primitive) (more : List Char) :
    Option (CharSet × List Char) :=
  match f.skip more with
  | [] => none
  | c :: tail =>
      if c == ']' || c == '-' then value (first.set? f) ('-' :: more)
      else rangeLast f first (c :: tail)

/-- What a range is after its first item. -/
def rangeRest (f : Flags) (first : Primitive) : Reader CharSet
  | [] => none
  | c :: more =>
      if c == '-' then rangeHyphen f first more else value (first.set? f) (c :: more)

theorem rangeRest_hyphen (f : Flags) (first : Primitive) (more : List Char) :
    rangeRest f first ('-' :: more) = rangeHyphen f first more := rfl

theorem readRange?_eq (f : Flags) :
    readRange? f = andThen (readItem? f) fun first => skipped f (rangeRest f first) := by
  funext cs
  unfold readRange? andThen skipped
  refine Option.bind_congr fun x _ => ?_
  obtain ⟨first, rest⟩ := x
  dsimp only
  split
  · next heq =>
    rw [heq]
    rfl
  · next more heq =>
    rw [heq, rangeRest_hyphen, rangeHyphen]
    cases f.skip more with
    | nil =>
        rfl
    | cons c tail =>
        dsimp only
        split
        · cases first.set? f <;> rfl
        · unfold rangeLast andThen
          refine Option.bind_congr fun y _ => ?_
          obtain ⟨last, rest⟩ := y
          dsimp only
          cases first.char? f with
          | none =>
              rfl
          | some low =>
              cases last.char? f with
              | none =>
                  rfl
              | some high =>
                  simp only [bind, Option.bind_some]
                  split <;> rfl
  · next hnil hhyphen =>
    generalize f.skip rest = u at hnil hhyphen
    rcases u with _ | ⟨c, more⟩
    · exact (hnil rfl).elim
    · have hc : (c == '-') = false := by simpa using hhyphen more
      rw [rangeRest, hc]
      cases first.set? f <;> rfl

/-- Where a parenthesis may be given back: at once, or after a hyphen and blanks. -/
def HangsWithin (f : Flags) (_ : CharSet) (cs : List Char) : Prop :=
  cs = [] ∨ ∃ bs, cs = '-' :: bs ∧ f.skip bs = []

theorem bounded_rangeLast (f : Flags) (first : Primitive) : Bounded never (rangeLast f first) := by
  refine bounded_andThen (bounded_readItem? f) (fun last => bounded_value _) ?_
  rintro _ u t s rest ⟨⟨l, rfl⟩, -⟩ hread
  -- A look ends no range.
  cases first.char? f <;> simp [value, Primitive.char?] at hread

theorem leaves_rangeHyphen (first : Primitive) {more rest : List Char} {s : CharSet}
    (hread : rangeHyphen f first more = some (s, rest)) : rest <:+ '-' :: more := by
  unfold rangeHyphen at hread
  split at hread
  · cases hread
  · next c tail heq =>
    split at hread
    · exact leaves_value _ hread
    · have htail : c :: tail <:+ more := heq ▸ f.skip_suffix more
      exact ((bounded_rangeLast f first).leaves hread).trans
        (htail.trans (List.suffix_cons '-' more))

theorem leaves_rangeRest (f : Flags) (first : Primitive) : Leaves (rangeRest f first) := by
  intro cs s rest hread
  rcases cs with _ | ⟨c, more⟩
  · cases hread
  · rw [rangeRest] at hread
    split at hread
    · next hc =>
      obtain rfl := eq_of_beq hc
      exact leaves_rangeHyphen first hread
    · exact leaves_value _ hread

theorem rangeRest_overruns (first : Primitive) {bs : List Char} (h : f.skip bs = []) :
    Overruns (HangsWithin f) (rangeRest f first) ('-' :: bs) := by
  refine overruns_of_none (by rw [rangeRest_hyphen, rangeHyphen, h]) fun t s rest hread => ?_
  rw [List.cons_append, rangeRest_hyphen, rangeHyphen] at hread
  split at hread
  · cases hread
  · next c tail heq =>
    split at hread
    · obtain ⟨_, _, hs⟩ := Option.map_eq_some_iff.1 hread
      cases hs
      exact Or.inr ⟨'-' :: bs, Or.inr ⟨bs, rfl, h⟩, rfl⟩
    · -- The parenthesis is the last character of the range, or a comment has taken it.
      left
      rcases f.skip_append_of_nil h t with hpar | hsuffix
      · rw [hpar] at heq
        cases heq
        have hnil : rangeLast f first [] = none := rfl
        exact (bounded_rangeLast f first).suffix_of_eq_none hnil hread
      · exact ((bounded_rangeLast f first).leaves hread).trans (heq ▸ hsuffix)

theorem bounded_rangeRest (f : Flags) (first : Primitive) :
    Bounded (HangsWithin f) (rangeRest f first) where
  leaves := leaves_rangeRest f first
  ends cs := by
    rcases cs with _ | ⟨c, more⟩
    · refine Or.inr (overruns_of_none rfl fun t s rest hread => ?_)
      obtain ⟨_, _, hs⟩ := Option.map_eq_some_iff.1 hread
      cases hs
      exact Or.inr ⟨[], Or.inl rfl, rfl⟩
    · cases hc : c == '-' with
      | false =>
          exact ((bounded_value (first.set? f)).ends (c :: more)).congr
            (by simp only [rangeRest, hc]; rfl)
            fun t => by simp only [List.cons_append, rangeRest, hc]; rfl
      | true =>
          obtain rfl := eq_of_beq hc
          cases hskip : f.skip more with
          | nil =>
              exact Or.inr (rangeRest_overruns first hskip)
          | cons d tail =>
              have hover := f.skip_append_of_cons hskip
              cases hd : d == ']' || d == '-' with
              | true =>
                  exact ((bounded_value (first.set? f)).ends ('-' :: more)).congr
                    (by simp [rangeRest, rangeHyphen, hskip, hd])
                    fun t => by simp [rangeRest, rangeHyphen, hover, hd]
              | false =>
                  exact ((bounded_rangeLast f first).mono.ends (d :: tail)).congr
                    (by simp [rangeRest, rangeHyphen, hskip, hd])
                    fun t => by simp [rangeRest, rangeHyphen, hover, hd]

/-- A look is not a member. -/
theorem rangeRest_look (f : Flags) (l : Look) (cs : List Char) :
    rangeRest f (.look l) cs = none := by
  rcases cs with _ | ⟨c, more⟩
  · rfl
  · rw [rangeRest]
    split
    · rw [rangeHyphen]
      split
      · rfl
      · split
        · rfl
        · simp [rangeLast, andThen, value, Primitive.char?]
    · rfl

theorem bounded_readRange? (f : Flags) : Bounded (HangsWithin f) (readRange? f) := by
  rw [readRange?_eq]
  refine bounded_andThen (bounded_readItem? f)
    (fun first => bounded_skipped f (bounded_rangeRest f first)) ?_
  -- Only a look is given back, and it is no member.
  rintro _ u t s rest ⟨⟨l, rfl⟩, -⟩ hread
  rw [skipped, rangeRest_look] at hread
  cases hread

theorem consumes_readRange? (f : Flags) : Consumes (readRange? f) := by
  rw [readRange?_eq]
  exact consumes_andThen (consumes_readItem? f) fun first =>
    leaves_skipped f (leaves_rangeRest f first)

/-! ## The start of a set -/

def hyphens (f : Flags) (n : Nat) (m : Members) : Reader Members :=
  fun cs => some (readHyphens f n m cs)

theorem hyphens_succ (f : Flags) (n : Nat) (m : Members) :
    hyphens f (n + 1) m = ifHead (· == '-')
      (fun _ => skipped f (hyphens f n (m.add (.single '-') 0))) (value (some m)) := by
  funext cs
  rcases cs with _ | ⟨c, rest⟩
  · rfl
  · by_cases hc : c = '-'
    · subst hc
      rfl
    · simp [hyphens, readHyphens, ifHead, hc, value]

theorem bounded_hyphens (f : Flags) (n : Nat) (m : Members) : Bounded never (hyphens f n m) := by
  induction n generalizing m with
  | zero =>
      exact bounded_value (some m)
  | succ n ih =>
      rw [hyphens_succ]
      exact bounded_ifHead (by decide) (fun _ => bounded_skipped f (ih _)) (bounded_value _)

theorem agree_hyphens (f : Flags) (n : Nat) (m : Members) :
    AgreeBelow (n + 1) (hyphens f n m) (hyphens f (n + 1) m) := by
  induction n generalizing m with
  | zero =>
      exact agreeBelow_one rfl
  | succ n ih =>
      rw [hyphens_succ, hyphens_succ]
      exact AgreeBelow.ifHead le_rfl (fun _ => (ih _).skipped f) (AgreeBelow.refl _ _)

/-- Something has to stand here, which may be the parenthesis after the text. -/
def present {α : Type} (R : Reader α) : Reader α
  | [] => none
  | c :: rest => R (c :: rest)

theorem bounded_present {α : Type} {R : Reader α} (hR : Bounded never R) :
    Bounded atOnce (present R) where
  leaves := by
    intro cs a rest hread
    rcases cs with _ | ⟨c, more⟩
    · cases hread
    · exact hR.leaves hread
  ends cs := by
    rcases cs with _ | ⟨c, more⟩
    · -- The parenthesis is present but need not be taken.
      refine Or.inr (overruns_of_none rfl fun t a rest hread => ?_)
      rcases List.suffix_cons_iff.1 (hR.leaves hread) with rfl | hrest
      · exact Or.inr ⟨[], rfl, rfl⟩
      · exact Or.inl hrest
    · exact (hR.mono.ends (c :: more)).congr rfl fun _ => rfl

/-- The first members of a set that is a complement or not. -/
def firstMembers (f : Flags) (negated : Bool) : Reader (Bool × Members) :=
  (unfueled fun n => hyphens f n {}).andThen fun m => present
    (if m.count = 0 then
      ifHead (· == ']') (fun _ => skipped f (value (some (negated, m.add (.single ']') 0))))
        (value (some (negated, m)))
    else value (some (negated, m)))

def setStart (f : Flags) : Reader (Bool × Members) :=
  skipped f (ifHead (· == '^') (fun _ => skipped f (firstMembers f true)) (firstMembers f false))

theorem firstMembers_eq (f : Flags) (negated : Bool) (cs : List Char) :
    (firstMembers f negated cs).map (fun x => (x.1.1, x.1.2, x.2)) =
      match (readHyphens f cs.length {} cs).2 with
      | [] => none
      | ']' :: more =>
          if (readHyphens f cs.length {} cs).1.count = 0 then
            some (negated, (readHyphens f cs.length {} cs).1.add (.single ']') 0, f.skip more)
          else some (negated, readHyphens f cs.length {} cs)
      | _ => some (negated, readHyphens f cs.length {} cs) := by
  have hfuel : unfueled (fun n => hyphens f n {}) cs = hyphens f cs.length {} cs :=
    unfueled_eq_length (fun n => agree_hyphens f n {}) cs
  rw [firstMembers, andThen, hfuel, hyphens, Option.bind_some]
  generalize readHyphens f cs.length {} cs = read
  obtain ⟨m, rest⟩ := read
  rcases rest with _ | ⟨c, more⟩
  · rfl
  · by_cases hc : c = ']'
    · subst hc
      dsimp only [present]
      split <;> simp [ifHead, skipped, value]
    · dsimp only [present]
      split
      · simp [ifHead, hc, value]
      · simp [hc, value]

theorem readSetStart?_eq (f : Flags) (cs : List Char) :
    readSetStart? f cs = (setStart f cs).map fun x => (x.1.1, x.1.2, x.2) := by
  unfold setStart skipped readSetStart?
  dsimp only
  refine (firstMembers_eq f _ _).symm.trans (congrArg _ ?_)
  split
  · next rest heq =>
    rw [heq]
    rfl
  · next hne =>
    generalize f.skip cs = u at hne
    rcases u with _ | ⟨c, rest⟩
    · rfl
    · have hc : (c == '^') = false := by simpa using hne rest
      simp [ifHead, hc]

theorem bounded_setStart (f : Flags) : Bounded atOnce (setStart f) := by
  have hfueled := fueled_of_agreeBelow fun n => (agree_hyphens f n {}).mono n.le_succ
  have hfirst : ∀ negated, Bounded atOnce (firstMembers f negated) := by
    intro negated
    refine (bounded_unfueled (fun n => bounded_hyphens f n {}) hfueled).andThen fun m =>
      bounded_present ?_
    split
    · exact bounded_ifHead (by decide) (fun _ => bounded_skipped f (bounded_value _))
        (bounded_value _)
    · exact bounded_value _
  exact bounded_skipped f (bounded_ifHead (by decide)
    (fun _ => bounded_skipped f (hfirst true)) (hfirst false))

/-! ## Members -/

section Members

variable {n : Nat} {left : Option (NestedSet × SetOperator)} {m : Members}

/-- An operator, an item or a range, and the members after it. -/
def plainMembers (n : Nat) (f : Flags) (left : Option (NestedSet × SetOperator)) (m : Members) :
    Reader NestedSet :=
  ifReads readOperator? (fun o => readMembers? n f (some (joinLeft f left m.join, o)) {})
    (andThen (readRange? f) fun s => readMembers? n f left (m.add s 0))

/-- A class or a further set, after its bracket, and the members after it. -/
def nestedMembers (n : Nat) (f : Flags) (left : Option (NestedSet × SetOperator)) (m : Members) :
    Reader NestedSet :=
  ifReads (readAsciiClass? f)
    (fun s => (value (f.allow? s)).andThen fun s => readMembers? n f left (m.add s 0))
    (andThen (readSet? n f) fun s => readMembers? n f left (m.add s.set s.nesting))

theorem readMembers?_succ (n : Nat) (f : Flags) (left : Option (NestedSet × SetOperator))
    (m : Members) :
    readMembers? (n + 1) f left m = skipped f (onHead fun c =>
      if c == ']' then value (some (joinLeft f left m.join))
      else if c == '[' then nestedMembers n f left m
      else after c (plainMembers n f left m)) := by
  funext cs
  rw [readMembers?, skipped]
  split
  · next heq =>
    rw [heq]
    rfl
  · next rest heq =>
    rw [heq]
    rfl
  · next rest heq =>
    rw [heq]
    change _ = nestedMembers n f left m rest
    unfold nestedMembers ifReads
    cases readAsciiClass? f rest with
    | none =>
        rfl
    | some x =>
        dsimp only
        cases f.allow? x.1 <;> simp [andThen, value, bind]
  · next hnil hclose hopen =>
    generalize f.skip cs = u at hnil hclose hopen
    rcases u with _ | ⟨c, rest⟩
    · exact (hnil rfl).elim
    · have hc : (c == ']') = false := by simpa using hclose rest
      have hc' : (c == '[') = false := by simpa using hopen rest
      simp only [onHead, hc, hc', Bool.false_eq_true, if_false, after, plainMembers, ifReads]
      cases readOperator? (c :: rest) <;> rfl

theorem readSet?_succ (n : Nat) (f : Flags) :
    readSet? (n + 1) f = (setStart f).andThen fun x =>
      andThen (readMembers? n f none x.2) fun s =>
        value ((f.allow? (f.complementIf x.1 s.set)).map (⟨·, s.nesting + 1⟩)) := by
  funext cs
  rw [readSet?, readSetStart?_eq, andThen]
  cases setStart f cs with
  | none =>
      rfl
  | some x =>
      simp only [Option.map_some, bind, Option.bind_some, andThen]
      refine Option.bind_congr fun y _ => ?_
      cases f.allow? (f.complementIf x.1.1 y.1.set) <;> rfl

theorem readMembers?_nil (n : Nat) (f : Flags) (left : Option (NestedSet × SetOperator))
    (m : Members) : readMembers? n f left m [] = none := by
  cases n <;> rfl

/-- A hyphen that only blanks follow is no member yet. -/
theorem readMembers?_hyphen (n : Nat) {f : Flags} (left : Option (NestedSet × SetOperator))
    (m : Members) {bs : List Char} (h : f.skip bs = []) :
    readMembers? n f left m ('-' :: bs) = none := by
  cases n with
  | zero =>
      rfl
  | succ n =>
      have hoperator : readOperator? ('-' :: bs) = none := by
        unfold readOperator?
        split
        · next heq => cases heq
        · next heq =>
          cases heq
          rw [f.skip_visible (by decide) (by decide)] at h
          cases h
        · next heq => cases heq
        · rfl
      have hrange : readRange? f ('-' :: bs) = none := by
        rw [readRange?_eq]
        simp [andThen, readItem?, skipped, h, rangeRest]
      rw [readMembers?_succ, skipped, f.skip_visible (by decide) (by decide)]
      simp [onHead, after, plainMembers, ifReads, hoperator, andThen, hrange]

theorem bounded_plainMembers (h : ∀ f left m, Bounded never (readMembers? n f left m)) (f : Flags)
    (left : Option (NestedSet × SetOperator)) (m : Members) :
    Bounded never (plainMembers n f left m) := by
  refine bounded_ifReads steady_readOperator? consumes_readOperator?.leaves (fun o => h f _ _) ?_
  refine bounded_andThen (bounded_readRange? f) (fun s => h f _ _) ?_
  intro s u t r rest hback hread
  -- What is given back is no set on its own.
  have hnone : readMembers? n f left (m.add s 0) u = none := by
    rcases hback with rfl | ⟨bs, rfl, hskip⟩
    · exact readMembers?_nil n f left _
    · exact readMembers?_hyphen n left _ hskip
  exact Or.inl ((h f left _).suffix_of_eq_none hnone hread)

theorem consumes_plainMembers (h : ∀ f left m, Bounded never (readMembers? n f left m)) (f : Flags)
    (left : Option (NestedSet × SetOperator)) (m : Members) :
    Consumes (plainMembers n f left m) :=
  consumes_ifReads consumes_readOperator? (fun _ => (h f _ _).leaves)
    (consumes_andThen (consumes_readRange? f) fun _ => (h f _ _).leaves)

theorem bounded_nestedMembers (hset : ∀ f, Bounded never (readSet? n f))
    (h : ∀ f left m, Bounded never (readMembers? n f left m)) (f : Flags)
    (left : Option (NestedSet × SetOperator)) (m : Members) :
    Bounded never (nestedMembers n f left m) :=
  bounded_ifReads (steady_readAsciiClass? f) (consumes_readAsciiClass? f).leaves
    (fun _ => (bounded_value _).andThen fun _ => h f _ _) ((hset f).andThen fun _ => h f _ _)

/-- A set in brackets takes the parenthesis after its text, or ends before it. -/
theorem bounded_readSet?_readMembers? (n : Nat) :
    (∀ f, Bounded never (readSet? n f)) ∧
      ∀ f left m, Bounded never (readMembers? n f left m) := by
  induction n with
  | zero =>
      exact ⟨fun f => bounded_fails, fun f left m => bounded_fails⟩
  | succ n ih =>
      obtain ⟨hset, hmembers⟩ := ih
      constructor
      · intro f
        rw [readSet?_succ]
        have hrest : ∀ x : Bool × Members, Bounded never
            (andThen (readMembers? n f none x.2) fun s =>
              value ((f.allow? (f.complementIf x.1 s.set)).map (NestedSet.mk · (s.nesting + 1)))) :=
          fun x => (hmembers f none x.2).andThen fun s => bounded_value _
        refine bounded_andThen (bounded_setStart f) hrest ?_
        -- Where the start gives the parenthesis back there were no members before it.
        rintro x u t s rest rfl hread
        refine Or.inl ((hrest x).suffix_of_eq_none ?_ hread)
        rw [andThen, readMembers?_nil, Option.bind_none]
      · intro f left m
        rw [readMembers?_succ]
        refine bounded_skipped f (bounded_onHead fun c => ?_)
        split
        · exact bounded_value _
        · split
          · exact bounded_nestedMembers hset hmembers f left m
          · exact bounded_after (bounded_plainMembers hmembers f left m)
              (consumes_plainMembers hmembers f left m) c

theorem bounded_readMembers? (n : Nat) (f : Flags) (left : Option (NestedSet × SetOperator))
    (m : Members) : Bounded never (readMembers? n f left m) :=
  (bounded_readSet?_readMembers? n).2 f left m

theorem consumes_readMembers? (n : Nat) (f : Flags) (left : Option (NestedSet × SetOperator))
    (m : Members) : Consumes (readMembers? n f left m) := by
  cases n with
  | zero =>
      exact consumes_fails
  | succ n =>
      obtain ⟨hset, hmembers⟩ := bounded_readSet?_readMembers? n
      rw [readMembers?_succ]
      refine consumes_skipped f (consumes_onHead fun c => ?_)
      split
      · exact leaves_value _
      · split
        · exact (bounded_nestedMembers hset hmembers f left m).leaves
        · exact leaves_after (consumes_plainMembers hmembers f left m) c

end Members

end BinaryCoverage.Pattern
