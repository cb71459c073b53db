import VisibleFacets.Number.Binary

/-!
# Scaling a significand by a power of ten

The powers of ten up to `10 ^ 308` are rounded once, and one product or quotient with such a power
is rounded again; smaller values are first divided by `10 ^ 308` until the rest is in reach. The
outcome can differ from the nearest number in its last bits.
-/

namespace VisibleFacets

def largestPower : Nat := 308

def powerOfTen? (exponent : Nat) : Option Magnitude := BinaryFormat.double.ofNat (Nat.pow 10 exponent)

/-- Divides so many times, and no further once nothing is left. -/
def divideTimes (divisor : Magnitude) : Nat → Magnitude → Option Magnitude
  | 0, value => some value
  | times + 1, value =>
    if value.significand = 0 then some value
    else (BinaryFormat.double.divide value divisor).bind (divideTimes divisor times)

def scaleDown (value : Magnitude) (exponent : Nat) : Option Magnitude :=
  let times := (exponent - 1) / largestPower
  ((powerOfTen? largestPower).bind fun power => divideTimes power times value).bind fun rest =>
    (powerOfTen? (exponent - largestPower * times)).bind (BinaryFormat.double.divide rest)

def scaleUp (value : Magnitude) (exponent : Nat) : Option Magnitude :=
  if value.significand = 0 then some value
  else if exponent ≤ largestPower then
    (powerOfTen? exponent).bind (BinaryFormat.double.multiply value)
  else none

def scaleByTen (significand : Nat) (exponent : Int) : Option Magnitude :=
  (BinaryFormat.double.ofNat significand).bind fun value =>
    if exponent < 0 then scaleDown value (-exponent).toNat else scaleUp value exponent.toNat

end VisibleFacets
