/-!
# Binary floating point in 64 bits

A number is its 64 bits: a sign, an exponent of 11 bits and a fraction of 52.  Arithmetic is done
on exact ratios and rounded once, to the nearest number and among two equally near ones to the
one with even significand.
-/

namespace BinaryCoverage

structure Binary64 where
  bits : UInt64
  deriving DecidableEq, Repr, Inhabited

namespace Binary64

def isNegative (x : Binary64) : Bool := x.bits.toNat ≥ 1 <<< 63

def exponentField (x : Binary64) : Nat := (x.bits.toNat >>> 52) % 2048

def fraction (x : Binary64) : Nat := x.bits.toNat % (1 <<< 52)

/-- Neither infinite nor a NaN. -/
def isFinite (x : Binary64) : Bool := x.exponentField ≠ 2047

/-- The significand: the value of a finite number is the significand times a power of two. -/
def significand (x : Binary64) : Nat :=
  if x.exponentField = 0 then x.fraction else x.fraction + (1 <<< 52)

/-- The power of two by which the significand is multiplied. -/
def exponent (x : Binary64) : Int :=
  if x.exponentField = 0 then -1074 else (x.exponentField : Int) - 1075

def isZero (x : Binary64) : Bool := x.exponentField = 0 && x.fraction = 0

def ofFields (negative : Bool) (exponentField fraction : Nat) : Binary64 :=
  ⟨UInt64.ofNat ((if negative then 1 <<< 63 else 0) + (exponentField <<< 52) + fraction)⟩

def infinity (negative : Bool) : Binary64 := ofFields negative 2047 0

def zero (negative : Bool) : Binary64 := ofFields negative 0 0

/-- The quotient rounded to the nearest whole number, a half to the even neighbour. -/
def roundQuotient (num den : Nat) : Nat :=
  let q := num / den
  let r := num % den
  if 2 * r < den then q
  else if 2 * r > den then q + 1
  else q + q % 2

/-- `2 ^ e` times `m` as a ratio of whole numbers. -/
def scale (m : Nat) (e : Int) : Nat × Nat :=
  if 0 ≤ e then (m <<< e.toNat, 1) else (m, 1 <<< (-e).toNat)

/-- The greatest `k` with `2 ^ k ≤ num / den`, for positive `num` and `den`. -/
def floorLog (num den : Nat) : Int :=
  let k : Int := (num.log2 : Int) - den.log2
  let (n, d) := if 0 ≤ k then (num, den <<< k.toNat) else (num <<< (-k).toNat, den)
  if d ≤ n then k else k - 1

/-- The number nearest to `num / den`; infinite where that is beyond the greatest number. -/
def ofRatio (negative : Bool) (num den : Nat) : Binary64 :=
  if num = 0 then zero negative
  else
    let q : Int := max (floorLog num den - 52) (-1074)
    let m :=
      if 0 ≤ q then roundQuotient num (den <<< q.toNat)
      else roundQuotient (num <<< (-q).toNat) den
    let (m, q) := if m = 1 <<< 53 then (1 <<< 52, q + 1) else (m, q)
    if m < 1 <<< 52 then ofFields negative 0 m
    else
      let field := (q + 1075).toNat
      if 2047 ≤ field then infinity negative else ofFields negative field (m - (1 <<< 52))

/-- The number nearest to `m` times a power of ten. -/
def ofDecimal (negative : Bool) (m : Nat) (power : Int) : Binary64 :=
  if 0 ≤ power then ofRatio negative (m * Nat.pow 10 power.toNat) 1
  else ofRatio negative m (Nat.pow 10 (-power).toNat)

def ofNat (n : Nat) : Binary64 := ofRatio false n 1

/-- The product of two finite numbers. -/
def mul (x y : Binary64) : Binary64 :=
  let (n, d) := scale (x.significand * y.significand) (x.exponent + y.exponent)
  ofRatio (x.isNegative != y.isNegative) n d

/-- The quotient of two finite numbers of which the second is not zero. -/
def div (x y : Binary64) : Binary64 :=
  let (n, d) := scale x.significand (x.exponent - y.exponent)
  ofRatio (x.isNegative != y.isNegative) n (d * y.significand)

def neg (x : Binary64) : Binary64 := ofFields (!x.isNegative) x.exponentField x.fraction

/-- The absolute value of a finite number as a ratio. -/
def ratio (x : Binary64) : Nat × Nat := scale x.significand x.exponent

/-- Positive zero in place of negative zero: the two are equal as numbers. -/
def unsignedZero (x : Binary64) : Binary64 := if x.isZero then zero false else x

end Binary64

end BinaryCoverage
