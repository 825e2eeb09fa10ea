import BinaryCoverage.Proofs.Pattern.Skip

/-!
# How far readers look

A reader takes something from the start of a text and leaves the rest.  This file is about a text
that a closing parenthesis follows and defines:

* `Reader.Leaves`, `Reader.Consumes` — what is left is the end of the text, after a first character;
* `Reader.Settles` — the reader takes the same whether or not a closing parenthesis follows;
* `Reader.Overruns` — the reader takes that parenthesis too, or needs more than the text;
* `Reader.Bounded` — on every text it is one of the two;
* `Reader.AgreeBelow` — two readers are the same on short texts, as a reader with enough fuel is the
  same as one with more;

and shows which ways of putting readers together keep to this.  What is skipped has one of the two
ends (`Flags.skip_append`): a comment is over, or has no end in the text.
-/

namespace BinaryCoverage.Pattern

abbrev Reader (α : Type) : Type := List Char → Option (α × List Char)

namespace Reader

variable {α β : Type}

/-- What is left is the end of the text. -/
def Leaves (R : Reader α) : Prop := ∀ ⦃cs a rest⦄, R cs = some (a, rest) → rest <:+ cs

/-- At least the first character is taken. -/
def Consumes (R : Reader α) : Prop :=
  ∀ ⦃cs a rest⦄, R cs = some (a, rest) → ∃ c more, cs = c :: more ∧ rest <:+ more

def Settles (R : Reader α) (cs : List Char) : Prop :=
  ∃ a rest, R cs = some (a, rest) ∧ ∀ t, R (cs ++ ')' :: t) = some (a, rest ++ ')' :: t)

/-- A parenthesis that follows is taken, or given back after a piece of the text as `G` says.
Without it the text is taken as a whole or not at all. -/
structure Overruns (G : α → List Char → Prop) (R : Reader α) (cs : List Char) : Prop where
  takes : ∀ {t a rest}, R (cs ++ ')' :: t) = some (a, rest) →
    rest <:+ t ∨ ∃ u, G a u ∧ rest = u ++ ')' :: t
  whole : ∀ {a rest}, R cs = some (a, rest) → rest = [] ∧ R (cs ++ [')']) = some (a, [])

def Ends (G : α → List Char → Prop) (R : Reader α) (cs : List Char) : Prop :=
  R.Settles cs ∨ R.Overruns G cs

structure Bounded (G : α → List Char → Prop) (R : Reader α) : Prop where
  leaves : Leaves R
  ends : ∀ cs, Ends G R cs

/-- Nothing is given back. -/
def never (_ : α) (_ : List Char) : Prop := False

/-- Only the parenthesis itself is given back. -/
def atOnce (_ : α) (cs : List Char) : Prop := cs = []

/-- What the reader makes of a text does not change with a parenthesis after it. -/
def Steady (R : Reader α) : Prop :=
  ∀ cs t, R (cs ++ ')' :: t) = (R cs).map fun x => (x.1, x.2 ++ ')' :: t)

def AgreeBelow (n : Nat) (R R' : Reader α) : Prop := ∀ cs, cs.length < n → R cs = R' cs

/-! ## Ways of putting readers together -/

/-- Takes nothing. -/
def value (o : Option α) : Reader α := fun cs => o.map (·, cs)

def fails : Reader α := fun _ => none

def andThen (R : Reader α) (S : α → Reader β) : Reader β :=
  fun cs => (R cs).bind fun x => S x.1 x.2

/-- Reads on by what the first character is. -/
def onHead (S : Char → Reader α) : Reader α
  | [] => none
  | c :: rest => S c rest

/-- Reads on after a first character of one kind; a text without it is left to the other reader. -/
def ifHead (p : Char → Bool) (S : Char → Reader α) (T : Reader α) : Reader α
  | [] => T []
  | c :: rest => if p c then S c rest else T (c :: rest)

/-- Reads as if `c` stood before the text. -/
def after (c : Char) (R : Reader α) : Reader α := fun cs => R (c :: cs)

/-- Reads on after what stands at the start; a text without it is left to the other reader. -/
def ifReads (R : Reader α) (S : α → Reader β) (T : Reader β) : Reader β := fun cs =>
  match R cs with
  | some x => S x.1 x.2
  | none => T cs

def skipped (f : Flags) (R : Reader α) : Reader α := fun cs => R (f.skip cs)

/-- Reads with fuel that is enough for the text. -/
def unfueled (R : Nat → Reader α) : Reader α := fun cs => R (cs.length + 1) cs

/-- Fuel beyond the length of the text changes nothing. -/
def Fueled (R : Nat → Reader α) : Prop := ∀ ⦃n cs⦄, cs.length < n → R n cs = unfueled R cs

variable {R R' T T' : Reader α} {S S' : α → Reader β} {U : Reader β} {C C' : Char → Reader α}
  {G : α → List Char → Prop} {G' : β → List Char → Prop} {p : Char → Bool}
  {cs t rest : List Char} {a : α} {c : Char} {n : Nat} {f : Flags}

theorem andThen_value (R : Reader α) (g : α → Option β) (cs : List Char) :
    R.andThen (fun a => value (g a)) cs = (R cs).bind fun x => (g x.1).map (·, x.2) := rfl

theorem andThen_value_some (R : Reader α) (g : α → β) (cs : List Char) :
    R.andThen (fun a => value (some (g a))) cs = (R cs).map fun x => (g x.1, x.2) := by
  rw [andThen_value]
  cases R cs <;> rfl

/-! ## What they leave -/

theorem Consumes.leaves (h : Consumes R) : Leaves R := by
  intro cs a rest hread
  obtain ⟨c, more, rfl, hrest⟩ := h hread
  exact hrest.trans (List.suffix_cons c more)

theorem leaves_value (o : Option α) : Leaves (value o) := by
  intro cs b rest hread
  obtain ⟨_, _, heq⟩ := Option.map_eq_some_iff.1 hread
  cases heq
  exact List.suffix_rfl

theorem leaves_andThen (hR : Leaves R) (hS : ∀ a, Leaves (S a)) : Leaves (R.andThen S) := by
  intro cs b rest hread
  obtain ⟨⟨a, between⟩, hfirst, hsecond⟩ := Option.bind_eq_some_iff.1 hread
  exact (hS a hsecond).trans (hR hfirst)

theorem leaves_ifHead (hC : ∀ c, Leaves (C c)) (hT : Leaves T) : Leaves (ifHead p C T) := by
  intro cs b rest hread
  cases cs with
  | nil =>
      exact hT hread
  | cons c more =>
      rw [ifHead] at hread
      split at hread
      · exact (hC c hread).trans (List.suffix_cons c more)
      · exact hT hread

theorem leaves_ifReads (hR : Leaves R) (hS : ∀ a, Leaves (S a)) (hU : Leaves U) :
    Leaves (R.ifReads S U) := by
  intro cs b rest hread
  unfold ifReads at hread
  split at hread
  · next x hfirst => exact (hS x.1 hread).trans (hR hfirst)
  · exact hU hread

theorem leaves_after (hR : Consumes R) (c : Char) : Leaves (R.after c) := by
  intro cs a rest hread
  obtain ⟨d, more, hcons, hrest⟩ := hR hread
  cases hcons
  exact hrest

theorem leaves_unfueled {R : Nat → Reader α} (hR : ∀ n, Leaves (R n)) : Leaves (unfueled R) :=
  fun _ _ _ hread => hR _ hread

/-- A first character of the end of a text is not before that of the text. -/
theorem exists_cons_of_suffix {more : List Char} (hcs : c :: more <:+ cs) (hrest : rest <:+ more) :
    ∃ d after, cs = d :: after ∧ rest <:+ after := by
  obtain ⟨taken, rfl⟩ := hcs
  cases taken with
  | nil =>
      exact ⟨c, more, rfl, hrest⟩
  | cons d taken =>
      exact ⟨d, taken ++ c :: more, rfl,
        hrest.trans ((List.suffix_cons c more).trans (List.suffix_append taken _))⟩

theorem consumes_fails : Consumes (fails : Reader α) := by
  intro cs a rest hread
  cases hread

theorem consumes_andThen (hR : Consumes R) (hS : ∀ a, Leaves (S a)) : Consumes (R.andThen S) := by
  intro cs b rest hread
  obtain ⟨⟨a, between⟩, hfirst, hsecond⟩ := Option.bind_eq_some_iff.1 hread
  obtain ⟨c, more, hcs, hbetween⟩ := hR hfirst
  exact ⟨c, more, hcs, (hS a hsecond).trans hbetween⟩

theorem consumes_andThen_right (hR : Leaves R) (hS : ∀ a, Consumes (S a)) :
    Consumes (R.andThen S) := by
  intro cs b rest hread
  obtain ⟨⟨a, between⟩, hfirst, hsecond⟩ := Option.bind_eq_some_iff.1 hread
  obtain ⟨c, more, rfl, hrest⟩ := hS a hsecond
  exact exists_cons_of_suffix (hR hfirst) hrest

theorem consumes_onHead (hC : ∀ c, Leaves (C c)) : Consumes (onHead C) := by
  intro cs b rest hread
  cases cs with
  | nil =>
      cases hread
  | cons c more =>
      exact ⟨c, more, rfl, hC c hread⟩

theorem consumes_ifReads (hR : Consumes R) (hS : ∀ a, Leaves (S a)) (hU : Consumes U) :
    Consumes (R.ifReads S U) := by
  intro cs b rest hread
  unfold ifReads at hread
  split at hread
  · next x hfirst =>
    obtain ⟨c, more, hcs, hbetween⟩ := hR hfirst
    exact ⟨c, more, hcs, (hS x.1 hread).trans hbetween⟩
  · exact hU hread

/-! ## Where they end -/

/-- The same reading, alone and before a parenthesis, has the same end. -/
theorem Ends.congr {us : List Char} (h : Ends G T us) (halone : R cs = T us)
    (hfollowed : ∀ t, R (cs ++ ')' :: t) = T (us ++ ')' :: t)) : Ends G R cs := by
  rcases h with ⟨a, rest, hread, hmore⟩ | hoverruns
  · exact Or.inl ⟨a, rest, halone.trans hread, fun t => (hfollowed t).trans (hmore t)⟩
  · refine Or.inr ⟨fun hread => hoverruns.takes ((hfollowed _).symm.trans hread), fun hread => ?_⟩
    obtain ⟨hnil, hwhole⟩ := hoverruns.whole (halone.symm.trans hread)
    exact ⟨hnil, (hfollowed []).trans hwhole⟩

/-- A reader that takes the same with one parenthesis cannot be one that takes the parenthesis. -/
theorem Settles.not_overruns (hsettles : R.Settles cs) (halone : T cs = R cs)
    (hone : T (cs ++ [')']) = R (cs ++ [')'])) : ¬ T.Overruns G cs := by
  intro hoverruns
  obtain ⟨a, rest, hread, hfollowed⟩ := hsettles
  obtain ⟨rfl, hwhole⟩ := hoverruns.whole (halone.trans hread)
  rw [hone, hfollowed []] at hwhole
  cases hwhole

theorem Bounded.mono (h : Bounded never R) : Bounded G R where
  leaves := h.leaves
  ends cs := by
    rcases h.ends cs with hsettles | hoverruns
    · exact Or.inl hsettles
    · refine Or.inr ⟨fun hread => ?_, hoverruns.whole⟩
      rcases hoverruns.takes hread with hrest | ⟨u, hnever, -⟩
      · exact Or.inl hrest
      · exact hnever.elim

/-- A reader that gets nothing from a text gives nothing of it back. -/
theorem Bounded.suffix_of_eq_none (h : Bounded never R) (hnone : R cs = none)
    (hread : R (cs ++ ')' :: t) = some (a, rest)) : rest <:+ t := by
  rcases h.ends cs with ⟨b, left, halone, -⟩ | hoverruns
  · rw [hnone] at halone
    cases halone
  · rcases hoverruns.takes hread with hrest | ⟨u, hnever, -⟩
    · exact hrest
    · exact hnever.elim

theorem overruns_of_none (halone : R cs = none)
    (htakes : ∀ t a rest, R (cs ++ ')' :: t) = some (a, rest) →
      rest <:+ t ∨ ∃ u, G a u ∧ rest = u ++ ')' :: t) : R.Overruns G cs where
  takes hread := htakes _ _ _ hread
  whole hread := by
    rw [halone] at hread
    cases hread

theorem bounded_fails : Bounded G (fails : Reader α) where
  leaves := consumes_fails.leaves
  ends _ := Or.inr (overruns_of_none rfl fun _ _ _ hread => by cases hread)

theorem bounded_value (o : Option α) : Bounded G (value o) where
  leaves := leaves_value o
  ends cs := by
    cases o with
    | none =>
        exact bounded_fails.ends cs
    | some a =>
        exact Or.inl ⟨a, cs, rfl, fun _ => rfl⟩

/-- Where the first reader ends so does what is read after it. -/
theorem bounded_andThen (hR : Bounded G R) (hS : ∀ a, Bounded G' (S a))
    (hback : ∀ {a u t b rest}, G a u → S a (u ++ ')' :: t) = some (b, rest) →
      rest <:+ t ∨ ∃ v, G' b v ∧ rest = v ++ ')' :: t) : Bounded G' (R.andThen S) where
  leaves := leaves_andThen hR.leaves fun a => (hS a).leaves
  ends cs := by
    unfold andThen
    rcases hR.ends cs with ⟨a, between, hread, hfollowed⟩ | hoverruns
    · -- The second reader goes on with the same text before the parenthesis.
      rcases (hS a).ends between with ⟨b, rest, hread', hfollowed'⟩ | hoverruns'
      · left
        refine ⟨b, rest, ?_, fun t => ?_⟩
        · simp [hread, hread']
        · simp [hfollowed, hfollowed']
      · right
        refine ⟨fun {t b rest} h => ?_, fun {b rest} h => ?_⟩
        · simp only [hfollowed, Option.bind_some] at h
          exact hoverruns'.takes h
        · simp only [hread, Option.bind_some] at h
          simpa [hfollowed] using hoverruns'.whole h
    · -- It gets what comes after the parenthesis, or what the first reader gives back.
      right
      refine ⟨fun {t b rest} h => ?_, fun {b rest} h => ?_⟩
      · obtain ⟨⟨a, between⟩, hfirst, hsecond⟩ := Option.bind_eq_some_iff.1 h
        rcases hoverruns.takes hfirst with hbetween | ⟨u, hu, rfl⟩
        · exact Or.inl (((hS a).leaves hsecond).trans hbetween)
        · exact hback hu hsecond
      · obtain ⟨⟨a, between⟩, hfirst, hsecond⟩ := Option.bind_eq_some_iff.1 h
        obtain ⟨rfl, hwhole⟩ := hoverruns.whole hfirst
        obtain rfl := List.suffix_nil.1 ((hS a).leaves hsecond)
        refine ⟨rfl, ?_⟩
        simp only [hwhole, Option.bind_some]
        exact hsecond

theorem Bounded.andThen (hR : Bounded never R) (hS : ∀ a, Bounded G' (S a)) :
    Bounded G' (R.andThen S) :=
  bounded_andThen hR hS fun hnever => hnever.elim

theorem bounded_onHead (hC : ∀ c, Bounded G (C c)) : Bounded G (onHead C) where
  leaves := (consumes_onHead fun c => (hC c).leaves).leaves
  ends cs := by
    cases cs with
    | nil =>
        -- The parenthesis is taken for the character.
        exact Or.inr (overruns_of_none rfl fun t a rest hread => Or.inl ((hC ')').leaves hread))
    | cons c rest =>
        exact ((hC c).ends rest).congr rfl fun _ => rfl

theorem bounded_ifHead (hp : p ')' = false) (hC : ∀ c, Bounded G (C c)) (hT : Bounded G T) :
    Bounded G (ifHead p C T) where
  leaves := leaves_ifHead (fun c => (hC c).leaves) hT.leaves
  ends cs := by
    cases cs with
    | nil =>
        exact (hT.ends []).congr rfl fun t => by simp [ifHead, hp]
    | cons c rest =>
        cases hc : p c with
        | true =>
            exact ((hC c).ends rest).congr (by simp [ifHead, hc]) fun t => by simp [ifHead, hc]
        | false =>
            exact (hT.ends (c :: rest)).congr (by simp [ifHead, hc]) fun t => by simp [ifHead, hc]

theorem bounded_after (hR : Bounded G R) (hconsumes : Consumes R) (c : Char) :
    Bounded G (R.after c) where
  leaves := leaves_after hconsumes c
  ends cs := (hR.ends (c :: cs)).congr rfl fun _ => rfl

theorem Steady.bounded (hsteady : Steady R) (hleaves : Leaves R) : Bounded G R where
  leaves := hleaves
  ends cs := by
    cases hread : R cs with
    | none =>
        refine Or.inr (overruns_of_none hread fun t a rest hfollowed => ?_)
        rw [hsteady, hread] at hfollowed
        cases hfollowed
    | some x =>
        exact Or.inl ⟨x.1, x.2, hread, fun t => by rw [hsteady, hread, Option.map_some]⟩

theorem bounded_ifReads (hsteady : Steady R) (hleaves : Leaves R) (hS : ∀ a, Bounded G' (S a))
    (hU : Bounded G' U) : Bounded G' (R.ifReads S U) where
  leaves := leaves_ifReads hleaves (fun a => (hS a).leaves) hU.leaves
  ends cs := by
    cases hread : R cs with
    | none =>
        exact (hU.ends cs).congr (by simp [ifReads, hread]) fun t => by
          simp [ifReads, hsteady cs t, hread]
    | some x =>
        exact ((hS x.1).ends x.2).congr (by simp [ifReads, hread]) fun t => by
          simp [ifReads, hsteady cs t, hread]

/-! ## Enough fuel -/

theorem agreeBelow_zero : AgreeBelow 0 R R' := fun _ hlt => absurd hlt (Nat.not_lt_zero _)

theorem agreeBelow_one (h : R [] = R' []) : AgreeBelow 1 R R' := by
  intro cs hlt
  rwa [List.length_eq_zero_iff.1 (Nat.lt_one_iff.1 hlt)]

theorem AgreeBelow.refl (n : Nat) (R : Reader α) : AgreeBelow n R R := fun _ _ => rfl

theorem AgreeBelow.mono {m : Nat} (h : AgreeBelow n R R') (hle : m ≤ n) : AgreeBelow m R R' :=
  fun cs hlt => h cs (hlt.trans_le hle)

theorem AgreeBelow.andThen (hR : AgreeBelow n R R') (hleaves : Leaves R')
    (hS : ∀ a, AgreeBelow n (S a) (S' a)) : AgreeBelow n (R.andThen S) (R'.andThen S') := by
  intro cs hlt
  unfold Reader.andThen
  rw [hR cs hlt]
  refine Option.bind_congr fun x hread => hS x.1 x.2 ?_
  exact (hleaves hread).length_le.trans_lt hlt

theorem AgreeBelow.onHead {m : Nat} (hle : m ≤ n + 1) (hC : ∀ c, AgreeBelow n (C c) (C' c)) :
    AgreeBelow m (onHead C) (onHead C') := by
  intro cs hlt
  cases cs with
  | nil =>
      rfl
  | cons c rest =>
      exact hC c rest (Nat.lt_of_succ_lt_succ (hlt.trans_le hle))

theorem AgreeBelow.ifHead {m : Nat} (hle : m ≤ n + 1) (hC : ∀ c, AgreeBelow n (C c) (C' c))
    (hT : AgreeBelow m T T') : AgreeBelow m (ifHead p C T) (ifHead p C' T') := by
  intro cs hlt
  cases cs with
  | nil =>
      exact hT [] hlt
  | cons c rest =>
      have hrest : rest.length < n := Nat.lt_of_succ_lt_succ (hlt.trans_le hle)
      rw [Reader.ifHead, Reader.ifHead, hC c rest hrest, hT _ hlt]

section Fuel

variable {R : Nat → Reader α}

theorem fueled_of_agreeBelow (h : ∀ n, AgreeBelow n (R n) (R (n + 1))) : Fueled R := by
  intro n cs hlt
  induction n with
  | zero =>
      exact absurd hlt (Nat.not_lt_zero _)
  | succ n ih =>
      rcases Nat.lt_succ_iff_lt_or_eq.1 hlt with hshort | rfl
      · exact (h n cs hshort).symm.trans (ih hshort)
      · rfl

/-- Fuel for every character is enough for a reader that stops at the end of the text. -/
theorem unfueled_eq_length (h : ∀ n, AgreeBelow (n + 1) (R n) (R (n + 1))) (cs : List Char) :
    unfueled R cs = R cs.length cs :=
  (h cs.length cs (Nat.lt_succ_self _)).symm

/-- With fuel for both texts the reader ends on either as it does unfueled. -/
theorem bounded_unfueled (hR : ∀ n, Bounded G (R n)) (h : Fueled R) :
    Bounded G (unfueled R) where
  leaves := leaves_unfueled fun n => (hR n).leaves
  ends cs := by
    have hone : (cs ++ [')']).length < cs.length + 2 := by simp
    have halone : ∀ {n}, cs.length < n → R n cs = unfueled R cs := fun hlt => h hlt
    have hfollowed : ∀ t, R (cs.length + t.length + 2) (cs ++ ')' :: t) =
        unfueled R (cs ++ ')' :: t) := fun t => h (by simp; omega)
    have hsame : ∀ {n}, cs.length + 2 ≤ n → ∀ u : List Char, u.length < cs.length + 2 →
        R n u = R (cs.length + 2) u :=
      fun hle u hu => (h (hu.trans_le hle)).trans (h hu).symm
    -- Whether it settles does not depend on the fuel.
    rcases (hR (cs.length + 2)).ends cs with hends | hends
    · obtain ⟨a, rest, hread, -⟩ := id hends
      rw [halone (by omega)] at hread
      refine Or.inl ⟨a, rest, hread, fun t => ?_⟩
      rcases (hR (cs.length + t.length + 2)).ends cs with ⟨b, left, hread', hmore⟩ | hoverruns
      · rw [halone (by omega), hread] at hread'
        cases hread'
        exact (hfollowed t).symm.trans (hmore t)
      · exact absurd hoverruns
          (hends.not_overruns (hsame (by omega) _ (by omega)) (hsame (by omega) _ hone))
    · refine Or.inr ⟨fun {t a rest} hread => ?_, fun {a rest} hread => ?_⟩
      · rcases (hR (cs.length + t.length + 2)).ends cs with hsettled | hoverruns
        · exact absurd hends (hsettled.not_overruns (hsame (by omega) _ (by omega)).symm
            (hsame (by omega) _ hone).symm)
        · exact hoverruns.takes ((hfollowed t).trans hread)
      · rw [← halone (by omega : cs.length < cs.length + 2)] at hread
        obtain ⟨hnil, hwhole⟩ := hends.whole hread
        exact ⟨hnil, (h hone).symm.trans hwhole⟩

end Fuel

/-! ## Readers after what is skipped -/

theorem leaves_skipped (f : Flags) (hR : Leaves R) : Leaves (R.skipped f) :=
  fun _ _ _ hread => (hR hread).trans (f.skip_suffix _)

theorem consumes_skipped (f : Flags) (hR : Consumes R) : Consumes (R.skipped f) := by
  intro cs b rest hread
  obtain ⟨c, more, hskip, hrest⟩ := hR hread
  exact exists_cons_of_suffix (hskip ▸ f.skip_suffix cs) hrest

theorem bounded_skipped (f : Flags) (hR : Bounded G R) : Bounded G (R.skipped f) where
  leaves := leaves_skipped f hR.leaves
  ends cs := by
    rcases f.skip_append cs with hover | ⟨hnil, hwhole, hsuffix⟩
    · exact (hR.ends (f.skip cs)).congr rfl fun t => by simp only [skipped, hover]
    · -- The comment takes the parenthesis.
      refine Or.inr ⟨fun {t a rest} hread => ?_, fun {a rest} hread => ?_⟩
      · exact Or.inl ((hR.leaves hread).trans (hsuffix t))
      · simp only [skipped, hnil] at hread
        obtain rfl := List.suffix_nil.1 (hR.leaves hread)
        refine ⟨rfl, ?_⟩
        simp only [skipped, hwhole]
        exact hread

theorem AgreeBelow.skipped (f : Flags) (h : AgreeBelow n R R') :
    AgreeBelow n (R.skipped f) (R'.skipped f) :=
  fun cs hlt => h _ ((f.skip_suffix cs).length_le.trans_lt hlt)

end Reader

end BinaryCoverage.Pattern
