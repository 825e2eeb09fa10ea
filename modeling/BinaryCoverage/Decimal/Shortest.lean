import BinaryCoverage.Decimal.Binary64
import BinaryCoverage.Text.Number

/-!
# Shortest decimal text of a number

`shortest` finds the fewest digits that read back as a given finite number, and among those the
nearest.  The text has a decimal point in its place where the point falls within sixteen digits
after the first or five zeros before it; otherwise it has an exponent with its sign.
-/

namespace BinaryCoverage.Decimal

/-- Digits `d`, `d`, … with the decimal point after digit `point`: `0.dd… × 10 ^ point`. -/
structure Digits where
  digits : List Char
  point : Int

/-- `num / den` is at least `10 ^ k`. -/
def atLeastPower (num den : Nat) (k : Int) : Bool :=
  if 0 ≤ k then den * Nat.pow 10 k.toNat ≤ num else den ≤ num * Nat.pow 10 (-k).toNat

/-- The least `k ≤ start + steps` with `num / den < 10 ^ k`, searched upwards from `start`. -/
def powerAbove (num den : Nat) : Nat → Int → Int
  | 0, k => k
  | steps + 1, k => if atLeastPower num den k then powerAbove num den steps (k + 1) else k

/-- The numbers that round to a given one lie between `low` and `high`; all are in one unit. -/
structure Neighbourhood where
  low : Nat
  value : Nat
  high : Nat
  closed : Bool
  den : Nat

/-- The decimals that read back as `x`, which is finite and not zero. -/
def neighbourhood (x : Binary64) : Neighbourhood :=
  let m := x.significand
  let lowest := m = 1 <<< 52 && x.exponent > -1074
  let (unit, den) := Binary64.scale 1 (x.exponent - 2)
  { low := (if lowest then 4 * m - 1 else 4 * m - 2) * unit
    value := 4 * m * unit
    high := (4 * m + 2) * unit
    closed := m % 2 = 0
    den }

/-- `c × 10 ^ p` lies in the neighbourhood. -/
def Neighbourhood.holds (b : Neighbourhood) (c : Nat) (p : Int) : Bool :=
  let (n, d) :=
    if 0 ≤ p then (c * Nat.pow 10 p.toNat * b.den, 1) else (c * b.den, Nat.pow 10 (-p).toNat)
  if b.closed then b.low * d ≤ n && n ≤ b.high * d else b.low * d < n && n < b.high * d

/-- The whole part of the value in units of `10 ^ p`, and whether the rest is a half or more. -/
def Neighbourhood.quotient (b : Neighbourhood) (p : Int) : Nat × Bool :=
  let (n, d) :=
    if 0 ≤ p then (b.value, b.den * Nat.pow 10 p.toNat)
    else (b.value * Nat.pow 10 (-p).toNat, b.den)
  let q := n / d
  let r := n % d
  (q, if 2 * r = d then q % 2 = 1 else 2 * r > d)

/-- The decimal in units of `10 ^ p` next to the value that reads back, the nearer one first. -/
def Neighbourhood.decimal? (b : Neighbourhood) (p : Int) : Option Nat :=
  let (q, up) := b.quotient p
  let (near, far) := if up then (q + 1, q) else (q, q + 1)
  if b.holds near p then some near
  else if b.holds far p then some far
  else none

/-- Tries `n`, `n + 1`, … digits, where the first digit stands right after the point. -/
def Neighbourhood.digits (b : Neighbourhood) (point : Int) : Nat → Nat → Nat × Int
  | 0, n => ((b.quotient (point - n)).1, point - n)
  | more + 1, n =>
      match b.decimal? (point - n) with
      | some c => (c, point - n)
      | none => b.digits point more (n + 1)

/-- The shortest decimal that reads back as `x`, which is finite and not zero. -/
def shortest (x : Binary64) : Digits :=
  let b := neighbourhood x
  let start : Int := (Binary64.floorLog b.value b.den) * 30103 / 100000 - 1
  let point := powerAbove b.value b.den 4 start
  let (c, p) := b.digits point 17 1
  let digits := Text.decimal c
  let stripped := (digits.reverse.dropWhile (· == '0')).reverse
  ⟨stripped, p + digits.length⟩

/-- The text of digits: positional up to sixteen places, else with a signed exponent. -/
def Digits.text (d : Digits) : List Char :=
  let n : Int := d.digits.length
  if d.point > 16 || d.point ≤ -5 then
    let e := d.point - 1
    let mantissa := match d.digits with
      | [] => ['0']
      | [c] => [c]
      | c :: rest => c :: '.' :: rest
    mantissa ++ 'e' :: (if e < 0 then '-' else '+') :: Text.decimal e.natAbs
  else if d.point ≤ 0 then
    '0' :: '.' :: (List.replicate (-d.point).toNat '0' ++ d.digits)
  else if n ≤ d.point then
    d.digits ++ List.replicate (d.point - n).toNat '0' ++ ['.', '0']
  else
    d.digits.take d.point.toNat ++ '.' :: d.digits.drop d.point.toNat

/-- The text of a finite number. -/
def text (x : Binary64) : List Char :=
  let sign := if x.isNegative then ['-'] else []
  sign ++ if x.isZero then ['0', '.', '0'] else (shortest x).text

end BinaryCoverage.Decimal
