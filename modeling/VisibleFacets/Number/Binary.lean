/-!
# Binary numbers of a fixed precision

A format holds the numbers `± significand · 2 ^ exponent` with so many bits of significand.
Rounding is exact: to the nearest number of the format, and of two equally near ones to the even.
-/

namespace VisibleFacets

/-- Significands stay below `2 ^ precision`; exponents lie between the two ends. -/
structure BinaryFormat where
  precision : Nat
  minExponent : Int
  maxExponent : Int
  deriving DecidableEq, Repr

namespace BinaryFormat

def double : BinaryFormat := ⟨53, -1074, 971⟩

def single : BinaryFormat := ⟨24, -149, 104⟩

end BinaryFormat

structure Magnitude where
  significand : Nat
  exponent : Int
  deriving DecidableEq, Repr

structure Binary where
  negative : Bool
  magnitude : Magnitude
  deriving DecidableEq, Repr

/-- The natural number nearest to `numerator / denominator`, a half going to the even one. -/
def roundQuotient (numerator denominator : Nat) : Nat :=
  let quotient := numerator / denominator
  let twice := 2 * (numerator % denominator)
  if twice < denominator then quotient
  else if denominator < twice then quotient + 1
  else quotient + quotient % 2

def powerOfTwo (exponent : Int) : Nat := Nat.pow 2 exponent.toNat

def floorLog2 (numerator denominator : Nat) : Int :=
  let guess : Int := numerator.log2 - denominator.log2
  if denominator * powerOfTwo guess ≤ numerator * powerOfTwo (-guess) then guess else guess - 1

namespace BinaryFormat

def zero (format : BinaryFormat) : Magnitude := ⟨0, format.minExponent⟩

/-- The number of the format nearest to `numerator / denominator · 2 ^ shift`; `none` when that is
beyond the largest. -/
def round (format : BinaryFormat) (numerator denominator : Nat) (shift : Int) : Option Magnitude :=
  if numerator = 0 then some format.zero
  else
    let exponent :=
      max format.minExponent (floorLog2 numerator denominator + shift + 1 - format.precision)
    let significand := roundQuotient (numerator * powerOfTwo (shift - exponent))
      (denominator * powerOfTwo (exponent - shift))
    let rounded : Magnitude :=
      if significand = Nat.pow 2 format.precision then
        ⟨Nat.pow 2 (format.precision - 1), exponent + 1⟩
      else ⟨significand, exponent⟩
    if format.maxExponent < rounded.exponent then none else some rounded

def ofNat (format : BinaryFormat) (value : Nat) : Option Magnitude := format.round value 1 0

def multiply (format : BinaryFormat) (first second : Magnitude) : Option Magnitude :=
  format.round (first.significand * second.significand) 1 (first.exponent + second.exponent)

def divide (format : BinaryFormat) (first second : Magnitude) : Option Magnitude :=
  format.round first.significand second.significand (first.exponent - second.exponent)

def convert (format : BinaryFormat) (value : Magnitude) : Option Magnitude :=
  format.round value.significand 1 value.exponent

end BinaryFormat

def Magnitude.floor (value : Magnitude) : Nat :=
  value.significand * powerOfTwo value.exponent / powerOfTwo (-value.exponent)

end VisibleFacets
