import BinaryCoverage.Pattern.Reader
import BinaryCoverage.Proofs.Pattern.Extent

/-!
# How far the bounds of repetitions reach

The bounds of a repetition end with a brace, so a parenthesis does not stand among them: a text that
ends before the brace has none, and nothing after it gives it any.
-/

namespace BinaryCoverage.Pattern

open Reader

variable {f : Flags} {n : Nat}

def trimmed {α : Type} (R : Reader α) : Reader α := fun cs => R (Text.trimStart cs)

theorem trimStart_append (cs t : List Char) :
    Text.trimStart (cs ++ ')' :: t) = Text.trimStart cs ++ ')' :: t := by
  unfold Text.trimStart
  rw [List.dropWhile_append]
  split
  · next hempty =>
    rw [List.isEmpty_iff.1 hempty, List.dropWhile_cons_of_neg (by decide), List.nil_append]
  · rfl

theorem bounded_trimmed {α : Type} {G : α → List Char → Prop} {R : Reader α} (hR : Bounded G R) :
    Bounded G (trimmed R) where
  leaves := fun _ _ _ hread => (hR.leaves hread).trans (List.dropWhile_suffix _)
  ends cs := (hR.ends (Text.trimStart cs)).congr rfl fun t => by rw [trimmed, trimStart_append]

/-- The digits of a number after its first. -/
def moreDigits (f : Flags) (n k : Nat) : Reader Nat := fun cs =>
  some ((readCount?.go f n k cs).1, (readCount?.go f n k cs).2.2)

def digits (f : Flags) (n : Nat) : Reader Nat := fun cs =>
  if (readCount? f n cs).2.1 then some ((readCount? f n cs).1, (readCount? f n cs).2.2) else none

theorem moreDigits_succ (f : Flags) (n k : Nat) :
    moreDigits f (n + 1) k = ifHead Text.isDigit
      (fun c => skipped f (moreDigits f n (k * 10 + (c.toNat - '0'.toNat))))
      (trimmed (value (some k))) := by
  funext cs
  rcases cs with _ | ⟨c, rest⟩
  · rfl
  · rw [moreDigits, readCount?.go, ifHead]
    split <;> rfl

theorem go_found (f : Flags) (n k : Nat) (cs : List Char) :
    (readCount?.go f n k cs).2.1 = true := by
  induction n generalizing k cs with
  | zero =>
      rfl
  | succ n ih =>
      rcases cs with _ | ⟨c, rest⟩
      · rfl
      · rw [readCount?.go]
        split
        · exact ih _ _
        · rfl

theorem digits_succ (f : Flags) (n : Nat) :
    digits f (n + 1) = onHead fun c =>
      if Text.isDigit c then skipped f (moreDigits f n (c.toNat - '0'.toNat))
      else if Text.isBlank c then digits f n
      else fails := by
  funext cs
  rcases cs with _ | ⟨c, rest⟩
  · rfl
  · rw [digits, readCount?, onHead]
    split
    · rw [go_found]
      rfl
    · split <;> rfl

theorem bounded_moreDigits (f : Flags) (n k : Nat) : Bounded never (moreDigits f n k) := by
  induction n generalizing k with
  | zero =>
      exact bounded_trimmed (bounded_value (some k))
  | succ n ih =>
      rw [moreDigits_succ]
      exact bounded_ifHead (by decide) (fun c => bounded_skipped f (ih _))
        (bounded_trimmed (bounded_value _))

theorem agree_moreDigits (f : Flags) (n k : Nat) :
    AgreeBelow (n + 1) (moreDigits f n k) (moreDigits f (n + 1) k) := by
  induction n generalizing k with
  | zero =>
      exact agreeBelow_one rfl
  | succ n ih =>
      rw [moreDigits_succ, moreDigits_succ]
      exact AgreeBelow.ifHead le_rfl (fun c => (ih _).skipped f) (AgreeBelow.refl _ _)

theorem bounded_digits (f : Flags) (n : Nat) : Bounded never (digits f n) := by
  induction n with
  | zero =>
      exact bounded_fails
  | succ n ih =>
      rw [digits_succ]
      refine bounded_onHead fun c => ?_
      split
      · exact bounded_skipped f (bounded_moreDigits f n _)
      · split
        · exact ih
        · exact bounded_fails

theorem agree_digits (f : Flags) (n : Nat) :
    AgreeBelow (n + 1) (digits f n) (digits f (n + 1)) := by
  induction n with
  | zero =>
      exact agreeBelow_one rfl
  | succ n ih =>
      rw [digits_succ, digits_succ]
      refine AgreeBelow.onHead le_rfl fun c => ?_
      split
      · exact (agree_moreDigits f n _).skipped f
      · split
        · exact ih
        · exact AgreeBelow.refl _ _

theorem count?_eq (f : Flags) :
    count? f = (unfueled (digits f)).andThen fun n =>
      if n < UInt32.size then skipped f (value (some n)) else fails := by
  funext cs
  have hfuel : unfueled (digits f) cs = digits f cs.length cs :=
    unfueled_eq_length (agree_digits f) cs
  rw [count?, andThen, hfuel, digits]
  generalize readCount? f cs.length cs = read
  obtain ⟨n, found, rest⟩ := read
  cases found with
  | false =>
      rfl
  | true =>
      -- A number that is too large is none.
      dsimp only
      by_cases hsize : n < UInt32.size <;> simp [hsize, skipped, value, fails]

theorem bounded_count? (f : Flags) : Bounded never (count? f) := by
  rw [count?_eq]
  have hfueled := fueled_of_agreeBelow fun n => (agree_digits f n).mono n.le_succ
  refine (bounded_unfueled (bounded_digits f) hfueled).andThen fun n => ?_
  split
  · exact bounded_skipped f (bounded_value _)
  · exact bounded_fails

theorem count?_nil (f : Flags) : count? f [] = none := rfl

/-- The end of bounds after the greater one. -/
def boundsEnd (f : Flags) (least : Nat) : Reader (Nat × Option Nat) :=
  andThen (count? f) fun most => onHead fun c =>
    if c == '\x7d' then
      if least ≤ most then skipped f (value (some (least, some most))) else fails
    else fails

/-- The bounds of a repetition. -/
def bounds (f : Flags) : Reader (Nat × Option Nat) :=
  skipped f (andThen (count? f) fun least => onHead fun c =>
    if c == '\x7d' then skipped f (value (some (least, some least)))
    else if c == ',' then
      skipped f (ifHead (· == '\x7d') (fun _ => skipped f (value (some (least, none))))
        (boundsEnd f least))
    else fails)

theorem boundsEnd_eq (f : Flags) (least : Nat) (cs : List Char) :
    (boundsEnd f least cs).map (fun x => (x.1.1, x.1.2, x.2)) = (do
      let (most, rest) ← count? f cs
      match rest with
      | '\x7d' :: rest => if least ≤ most then some (least, some most, f.skip rest) else none
      | _ => none) := by
  rw [boundsEnd, andThen]
  cases count? f cs with
  | none =>
      rfl
  | some x =>
      obtain ⟨most, rest⟩ := x
      rcases rest with _ | ⟨c, rest⟩
      · rfl
      · by_cases hc : c = '\x7d'
        · subst hc
          by_cases hle : least ≤ most <;> simp [bind, onHead, hle, skipped, value, fails]
        · simp [bind, onHead, hc, fails]

theorem readBounds?_eq (f : Flags) (cs : List Char) :
    readBounds? f cs = (bounds f cs).map fun x => (x.1.1, x.1.2, x.2) := by
  rw [readBounds?, bounds, skipped, andThen]
  cases count? f (f.skip cs) with
  | none =>
      rfl
  | some x =>
      obtain ⟨least, rest⟩ := x
      rcases rest with _ | ⟨c, rest⟩
      · rfl
      · by_cases hc : c = '\x7d'
        · subst hc
          rfl
        · by_cases hc' : c = ','
          · subst hc'
            simp only [bind, Option.bind_some]
            change _ = Option.map _ (skipped f (ifHead (· == '\x7d')
              (fun _ => skipped f (value (some (least, none)))) (boundsEnd f least)) rest)
            rw [skipped]
            generalize f.skip rest = u
            rcases u with _ | ⟨d, rest⟩
            · exact (boundsEnd_eq f least []).symm
            · by_cases hd : d = '\x7d'
              · subst hd
                rfl
              · have hend : ifHead (· == '\x7d') (fun _ => skipped f (value (some (least, none))))
                    (boundsEnd f least) (d :: rest) = boundsEnd f least (d :: rest) := by
                  simp [ifHead, hd]
                rw [hend, boundsEnd_eq]
                split
                · next heq =>
                  cases heq
                  exact absurd rfl hd
                · rfl
          · simp [bind, onHead, hc, hc', fails]

theorem bounded_bounds (f : Flags) : Bounded never (bounds f) := by
  refine bounded_skipped f ((bounded_count? f).andThen fun least => bounded_onHead fun c => ?_)
  split
  · exact bounded_skipped f (bounded_value _)
  · split
    · refine bounded_skipped f (bounded_ifHead (by decide)
        (fun _ => bounded_skipped f (bounded_value _)) ?_)
      refine (bounded_count? f).andThen fun most => bounded_onHead fun c => ?_
      split
      · split
        · exact bounded_skipped f (bounded_value _)
        · exact bounded_fails
      · exact bounded_fails
    · exact bounded_fails

end BinaryCoverage.Pattern
