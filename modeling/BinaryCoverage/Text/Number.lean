/-!
# Numbers in text

This file defines:

* `unsigned?` — a number in a given base, a plus sign allowed before it, below a given limit;
* `decimal` — the decimal digits of a number.
-/

namespace BinaryCoverage.Text

/-- The value of a digit of a base up to 36, either case of letter. -/
def digitValue? (base : Nat) (c : Char) : Option Nat :=
  let v :=
    if '0' ≤ c && c ≤ '9' then c.toNat - '0'.toNat
    else if 'a' ≤ c && c ≤ 'z' then c.toNat - 'a'.toNat + 10
    else if 'A' ≤ c && c ≤ 'Z' then c.toNat - 'A'.toNat + 10
    else 36
  if v < base then some v else none

/-- The value of a stretch of digits read after `n`; `none` at a character that is no digit. -/
def digitsFrom? (base : Nat) : Nat → List Char → Option Nat
  | n, [] => some n
  | n, c :: cs => (digitValue? base c).bind fun d => digitsFrom? base (n * base + d) cs

/-- The value of a stretch of digits; there has to be one. -/
def digits? (base : Nat) : List Char → Option Nat
  | [] => none
  | cs => digitsFrom? base 0 cs

/-- A number below `limit`, possibly after a plus sign. -/
def unsigned? (base limit : Nat) (cs : List Char) : Option Nat :=
  -- A sign alone leaves no digits, which is no number.
  let digits := match cs with
    | '+' :: rest => rest
    | _ => cs
  (digits? base digits).filter (· < limit)

def word32? (base : Nat) (cs : List Char) : Option UInt32 :=
  (unsigned? base UInt32.size cs).map UInt32.ofNat

def word64? (base : Nat) (cs : List Char) : Option UInt64 :=
  (unsigned? base UInt64.size cs).map UInt64.ofNat

def isDigit (c : Char) : Bool := '0' ≤ c && c ≤ '9'

def isHexDigit (c : Char) : Bool := (digitValue? 16 c).isSome

/-- The decimal digits of `n`, without leading zeros. -/
def decimal (n : Nat) : List Char := Nat.toDigits 10 n

end BinaryCoverage.Text
