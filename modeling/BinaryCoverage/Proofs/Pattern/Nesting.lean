import BinaryCoverage.Proofs.Pattern.Bracket

/-!
# Fuel for nested sets

A set within a set takes two units of fuel for one character, and the length of the text is enough all
the same, since what a set has opened it has to close.  So the fuel is compared with what is read and
not with the text: `Carries` says that one reader does for another if at most so much is read.
-/

namespace BinaryCoverage.Pattern

open Reader

section Fuel

variable {α β : Type} {R R' : Reader α} {S S' : α → Reader β} {n : Nat}

/-- What the one reader takes with at most `n` characters so does the other. -/
def Carries (n : Nat) (R R' : Reader α) : Prop :=
  ∀ ⦃cs a rest⦄, R cs = some (a, rest) → cs.length ≤ n + rest.length → R' cs = some (a, rest)

theorem Carries.refl (n : Nat) (R : Reader α) : Carries n R R := fun _ _ _ hread _ => hread

theorem Carries.mono {m : Nat} (h : Carries n R R') (hle : m ≤ n) : Carries m R R' :=
  fun _ _ _ hread hm => h hread (hm.trans (Nat.add_le_add_right hle _))

theorem carries_zero (hconsumes : Consumes R) : Carries 0 R R' := by
  intro cs a rest hread hle
  obtain ⟨c, more, rfl, hrest⟩ := hconsumes hread
  have hlength := hrest.length_le
  rw [List.length_cons] at hle
  omega

theorem Carries.andThen (hleaves : Leaves R) (hR : Carries n R R')
    (hS : ∀ a, Carries n (S a) (S' a)) (hleavesS : ∀ a, Leaves (S a)) :
    Carries n (R.andThen S) (R'.andThen S') := by
  intro cs b rest hread hle
  obtain ⟨⟨a, between⟩, hfirst, hsecond⟩ := Option.bind_eq_some_iff.1 hread
  have h₁ : between.length ≤ cs.length := (hleaves hfirst).length_le
  have h₂ : rest.length ≤ between.length := (hleavesS a hsecond).length_le
  have h₃ : between.length ≤ n + rest.length := h₁.trans hle
  exact Option.bind_eq_some_iff.2 ⟨(a, between), hR hfirst (by omega), hS a hsecond h₃⟩

/-- A first reader that takes a character leaves one less to the second. -/
theorem Carries.consumes_andThen (hconsumes : Consumes R) (hS : ∀ a, Carries n (S a) (S' a)) :
    Carries (n + 1) (R.andThen S) (R.andThen S') := by
  intro cs b rest hread hle
  obtain ⟨⟨a, between⟩, hfirst, hsecond⟩ := Option.bind_eq_some_iff.1 hread
  obtain ⟨c, more, rfl, hbetween⟩ := hconsumes hfirst
  have h₁ : between.length ≤ more.length := hbetween.length_le
  rw [List.length_cons] at hle
  have h₂ : between.length ≤ n + rest.length := by omega
  exact Option.bind_eq_some_iff.2 ⟨(a, between), hfirst, hS a hsecond h₂⟩

/-- And a second one, one less to the first. -/
theorem Carries.andThen_consumes (hleaves : Leaves R) (hR : Carries n R R')
    (hS : ∀ a, Carries (n + 1) (S a) (S' a)) (hconsumes : ∀ a, Consumes (S a)) :
    Carries (n + 1) (R.andThen S) (R'.andThen S') := by
  intro cs b rest hread hle
  obtain ⟨⟨a, between⟩, hfirst, hsecond⟩ := Option.bind_eq_some_iff.1 hread
  obtain ⟨c, more, rfl, hrest⟩ := hconsumes a hsecond
  have h₁ : more.length + 1 ≤ cs.length := (hleaves hfirst).length_le
  have h₂ : rest.length ≤ more.length := hrest.length_le
  refine Option.bind_eq_some_iff.2 ⟨(a, c :: more), hR hfirst ?_, hS a hsecond ?_⟩
  · rw [List.length_cons]
    omega
  · rw [List.length_cons]
    omega

theorem Carries.onHead {C C' : Char → Reader α} (h : ∀ c, Carries n (C c) (C' c)) :
    Carries (n + 1) (onHead C) (Reader.onHead C') := by
  intro cs a rest hread hle
  rcases cs with _ | ⟨c, more⟩
  · cases hread
  · rw [List.length_cons] at hle
    exact h c hread (by omega)

theorem Carries.skipped (f : Flags) (h : Carries n R R') :
    Carries n (R.skipped f) (R'.skipped f) :=
  fun _ _ _ hread hle => h hread ((f.skip_suffix _).length_le.trans hle)

theorem Carries.after (h : Carries (n + 1) R R') (c : Char) :
    Carries n (R.after c) (R'.after c) := by
  intro cs a rest hread hle
  refine h hread ?_
  rw [List.length_cons]
  omega

theorem Carries.ifReads {T T' : Reader β} (hconsumes : Consumes R)
    (hS : ∀ a, Carries n (S a) (S' a)) (hT : Carries (n + 1) T T') :
    Carries (n + 1) (R.ifReads S T) (R.ifReads S' T') := by
  intro cs b rest hread hle
  unfold Reader.ifReads at hread ⊢
  cases hfirst : R cs with
  | none =>
      rw [hfirst] at hread
      exact hT hread hle
  | some x =>
      rw [hfirst] at hread
      obtain ⟨c, more, rfl, hbetween⟩ := hconsumes hfirst
      have h₁ : x.2.length ≤ more.length := hbetween.length_le
      rw [List.length_cons] at hle
      exact hS x.1 hread (by omega)

end Fuel

theorem bounded_readSet? (n : Nat) (f : Flags) : Bounded never (readSet? n f) :=
  (bounded_readSet?_readMembers? n).1 f

theorem consumes_nestedMembers (n : Nat) (f : Flags) (left : Option (NestedSet × SetOperator))
    (m : Members) : Consumes (nestedMembers n f left m) :=
  consumes_ifReads (consumes_readAsciiClass? f)
    (fun _ => leaves_andThen (leaves_value _) fun _ => (bounded_readMembers? n f left _).leaves)
    (consumes_andThen_right (bounded_readSet? n f).leaves fun _ => consumes_readMembers? n f left _)

/-- A set needs one unit of fuel more than characters, its members as many. -/
theorem carries_readSet?_readMembers? (k n : Nat) :
    (∀ f, Carries n (readSet? k f) (readSet? (n + 1) f)) ∧
      ∀ f left m, Carries n (readMembers? k f left m) (readMembers? n f left m) := by
  induction k generalizing n with
  | zero =>
      refine ⟨fun f => ?_, fun f left m => ?_⟩
      · intro cs s rest hread
        cases hread
      · intro cs s rest hread
        cases hread
  | succ k ih =>
      constructor
      · intro f
        rw [readSet?_succ, readSet?_succ]
        -- The start of a set is read without fuel, and may be empty.
        refine Carries.andThen (bounded_setStart f).leaves (Carries.refl n _)
          (fun x => ?_) fun x => ?_
        · exact Carries.andThen (bounded_readMembers? k f none x.2).leaves ((ih n).2 f none x.2)
            (fun s => Carries.refl n _) fun s => leaves_value _
        · exact leaves_andThen (bounded_readMembers? k f none x.2).leaves fun s => leaves_value _
      · intro f left m
        cases n with
        | zero =>
            exact carries_zero (consumes_readMembers? (k + 1) f left m)
        | succ n =>
            rw [readMembers?_succ, readMembers?_succ]
            refine Carries.skipped f (Carries.onHead fun c => ?_)
            split
            · exact Carries.refl n _
            · split
              · cases n with
                | zero =>
                    exact carries_zero (consumes_nestedMembers k f left m)
                | succ n =>
                    refine Carries.ifReads (consumes_readAsciiClass? f) (fun s => ?_) ?_
                    · exact Carries.andThen (leaves_value _) (Carries.refl n _)
                        (fun s => ((ih (n + 1)).2 f left _).mono n.le_succ)
                        fun s => (bounded_readMembers? k f left _).leaves
                    · -- The set cannot use the character that ends the members after it.
                      exact Carries.andThen_consumes (bounded_readSet? k f).leaves ((ih n).1 f)
                        (fun s => (ih (n + 1)).2 f left _) fun s => consumes_readMembers? k f left _
              · -- An operator or a range takes the character that the members have less.
                refine Carries.after (Carries.ifReads consumes_readOperator?
                  (fun o => (ih n).2 f _ _) ?_) c
                exact Carries.consumes_andThen (consumes_readRange? f) fun s => (ih n).2 f left _

theorem fueled_readSet? (f : Flags) : Fueled fun n => readSet? n f := by
  have hcarries : ∀ {k n cs x}, cs.length < n → readSet? k f cs = some x →
      readSet? n f cs = some x := by
    intro k n cs x hlt hread
    cases n with
    | zero =>
        exact absurd hlt (Nat.not_lt_zero _)
    | succ n =>
        exact (carries_readSet?_readMembers? k n).1 f hread
          ((Nat.le_of_lt_succ hlt).trans (Nat.le_add_right n _))
  -- Both amounts are enough, so that what is read with one is read with the other.
  intro n cs hlt
  refine Option.ext fun x => ⟨hcarries (Nat.lt_succ_self _), hcarries hlt⟩

/-- A set in brackets, after its opening bracket. -/
def bracketed (f : Flags) : Reader NestedSet := unfueled fun n => readSet? n f

theorem bounded_bracketed (f : Flags) : Bounded never (bracketed f) :=
  bounded_unfueled (fun n => bounded_readSet? n f) (fueled_readSet? f)

end BinaryCoverage.Pattern
