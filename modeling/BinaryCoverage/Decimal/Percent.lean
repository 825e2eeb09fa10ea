import BinaryCoverage.Decimal.Binary64
import BinaryCoverage.Text.Number

/-!
# Percentages

A share is computed in binary floating point and written with one decimal, its exact value rounded
to the nearest tenth and a half to the even neighbour.
-/

namespace BinaryCoverage.Decimal

/-- `hit` out of `found` in percent, before rounding to a tenth. -/
def share (hit found : Nat) : Binary64 :=
  ((Binary64.ofNat hit).mul (Binary64.ofNat 100)).div (Binary64.ofNat found)

/-- A finite number that is not negative, with one decimal. -/
def oneDecimal (x : Binary64) : List Char :=
  let (num, den) := x.ratio
  let tenths := Binary64.roundQuotient (num * 10) den
  Text.decimal (tenths / 10) ++ '.' :: Text.decimal (tenths % 10)

/-- The percentage of `found` that `hit` is, a dash when nothing was found. -/
def percent (hit found : Nat) : String :=
  if found = 0 then "-" else String.ofList (oneDecimal (share hit found) ++ ['%'])

end BinaryCoverage.Decimal
