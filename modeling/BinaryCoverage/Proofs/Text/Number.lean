import BinaryCoverage.Text.Number
import Mathlib.Data.Nat.Digits.Defs

/-!
# Numbers read back

The decimal digits of a number are read as that number, and do not begin with a zero unless that
is all there is.
-/

namespace BinaryCoverage.Text

theorem isDigit_eq (c : Char) : isDigit c = c.isDigit := rfl

theorem digitValue?_ten {c : Char} (h : isDigit c) :
    digitValue? 10 c = some (c.toNat - '0'.toNat) := by
  have hrange : '0' ≤ c ∧ c ≤ '9' := by
    simpa [isDigit] using h
  have hnine : c.toNat ≤ 57 := hrange.2
  unfold digitValue?
  simp [hrange]
  omega

theorem digitsFrom?_ten {cs : List Char} (h : ∀ c ∈ cs, isDigit c) (n : Nat) :
    digitsFrom? 10 n cs = some (Nat.ofDigitChars 10 cs n) := by
  induction cs generalizing n with
  | nil =>
      rfl
  | cons c cs ih =>
      have hc := digitValue?_ten (h c (by simp))
      have hrest := fun m => ih (fun d hd => h d (by simp [hd])) m
      rw [digitsFrom?, hc, Option.bind_some, hrest, Nat.ofDigitChars_cons, Nat.mul_comm n 10]

/-! ## Decimal digits -/

theorem isDigit_of_mem_decimal {n : Nat} {c : Char} (h : c ∈ decimal n) : isDigit c := by
  rw [isDigit_eq]
  exact Nat.isDigit_of_mem_toDigits (by omega) (by omega) h

theorem decimal_ne_nil (n : Nat) : decimal n ≠ [] := Nat.toDigits_ne_nil

theorem decimal_eq_cons (n : Nat) : ∃ c cs, decimal n = c :: cs ∧ isDigit c := by
  cases hdigits : decimal n with
  | nil =>
      exact absurd hdigits (decimal_ne_nil n)
  | cons c cs =>
      exact ⟨c, cs, rfl, isDigit_of_mem_decimal (n := n) (by simp [hdigits])⟩

theorem digits?_decimal (n : Nat) : digits? 10 (decimal n) = some n := by
  have hdigits := digitsFrom?_ten (fun c => isDigit_of_mem_decimal (n := n)) 0
  have hvalue : Nat.ofDigitChars 10 (decimal n) 0 = n :=
    Nat.ofDigitChars_toDigits (by omega) (by omega)
  rw [hvalue] at hdigits
  rcases decimal_eq_cons n with ⟨c, cs, hchars, -⟩
  rw [← hdigits, hchars]
  rfl

theorem notMem_decimal {n : Nat} {c : Char} (h : isDigit c = false) : c ∉ decimal n := by
  intro hc
  have hdigit := isDigit_of_mem_decimal hc
  rw [h] at hdigit
  cases hdigit

theorem word32?_decimal (w : UInt32) : word32? 10 (decimal w.toNat) = some w := by
  have hread : unsigned? 10 UInt32.size (decimal w.toNat) = some w.toNat := by
    rcases decimal_eq_cons w.toNat with ⟨c, cs, hchars, hc⟩
    have hdigits := digits?_decimal w.toNat
    rw [hchars] at hdigits ⊢
    -- A digit is no plus sign.
    unfold unsigned?
    split
    · next heq =>
        cases heq
        cases hc
    · simp [hdigits, w.toNat_lt]
  simp [word32?, hread]

/-- The first digit of a number above zero is not zero. -/
theorem head?_decimal {n : Nat} (hn : 0 < n) : (decimal n).head? ≠ some '0' := by
  induction n using Nat.strongRecOn with
  | ind n ih =>
      unfold decimal at ih ⊢
      by_cases hsmall : n < 10
      · have hdigit : ∀ m < 10, 0 < m → m.digitChar ≠ '0' := by
          decide
        rw [Nat.toDigits_of_lt_base hsmall]
        simpa using hdigit n hsmall hn
      · -- The digits of a tenth come first.
        have htenth := ih (n / 10) (by omega) (by omega)
        rw [Nat.toDigits_of_base_le (by omega) (by omega), List.head?_append]
        cases hhead : (Nat.toDigits 10 (n / 10)).head? with
        | none =>
            exact absurd (List.head?_eq_none_iff.1 hhead) Nat.toDigits_ne_nil
        | some c =>
            rw [hhead] at htenth
            simpa using htenth

end BinaryCoverage.Text
