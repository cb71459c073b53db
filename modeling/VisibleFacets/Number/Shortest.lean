import VisibleFacets.Number.Binary
import VisibleFacets.Text.Natural

/-!
# The shortest decimal that reads back

Of the decimals that round to a given binary number, the ones with the fewest digits are kept, of
those the nearest, and of two equally near ones the even.
-/

namespace VisibleFacets

structure Decimal where
  digits : Nat
  exponent : Int
  deriving DecidableEq, Repr

structure Ratio where
  numerator : Nat
  denominator : Nat

namespace Ratio

def le (first second : Ratio) : Bool :=
  first.numerator * second.denominator ≤ second.numerator * first.denominator

def lt (first second : Ratio) : Bool := !le second first

def scaled (factor base : Nat) (exponent : Int) : Ratio :=
  ⟨factor * base.pow exponent.toNat, base.pow (-exponent).toNat⟩

end Ratio

def digitCount (value : Nat) : Nat := (Nat.toDigits 10 value).length

def floorLog10 (value : Ratio) : Int :=
  if value.denominator ≤ value.numerator then
    (digitCount (value.numerator / value.denominator) : Int) - 1
  else -digitCount ((value.denominator - 1) / value.numerator)

/-- The numbers that round to `value`, in quarters of its last place: the two ends and whether
they belong. -/
structure RoundingInterval where
  low : Ratio
  high : Ratio
  closed : Bool

def roundingInterval (format : BinaryFormat) (value : Magnitude) : RoundingInterval :=
  let quarter := value.exponent - 2
  let below :=
    if value.significand = Nat.pow 2 (format.precision - 1) ∧ format.minExponent < value.exponent
    then 1 else 2
  { low := .scaled (4 * value.significand - below) 2 quarter
    high := .scaled (4 * value.significand + 2) 2 quarter
    closed := value.significand % 2 = 0 }

def RoundingInterval.holds (interval : RoundingInterval) (candidate : Ratio) : Bool :=
  if interval.closed then interval.low.le candidate && candidate.le interval.high
  else interval.low.lt candidate && candidate.lt interval.high

/-- The better of the two neighbours of `value` on the grid of `10 ^ exponent`, if one of them
reads back. -/
def onGrid? (interval : RoundingInterval) (value : Ratio) (exponent : Int) : Option Decimal :=
  let step := Ratio.scaled 1 10 exponent
  let numerator := value.numerator * step.denominator
  let denominator := value.denominator * step.numerator
  let lower := numerator / denominator
  let nearest := roundQuotient numerator denominator
  let reads (digits : Nat) : Bool := interval.holds (.scaled digits 10 exponent)
  if reads nearest then some ⟨nearest, exponent⟩
  else if reads lower then some ⟨lower, exponent⟩
  else if reads (lower + 1) then some ⟨lower + 1, exponent⟩
  else none

def maxDigits : Nat := 17

def shortestDecimal (format : BinaryFormat) (value : Magnitude) : Decimal :=
  let ratio := Ratio.scaled value.significand 2 value.exponent
  let leading := floorLog10 ratio
  let interval := roundingInterval format value
  ((List.range maxDigits).findSome? fun (count : Nat) =>
    onGrid? interval ratio (leading - count)).getD ⟨value.significand, 0⟩

/-- The double nearest to the decimal that is written for a single. It has the same digits. -/
def widen (value : Magnitude) : Magnitude :=
  if value.significand = 0 then BinaryFormat.double.zero
  else
    let decimal := shortestDecimal .single value
    let ratio := Ratio.scaled decimal.digits 10 decimal.exponent
    (BinaryFormat.double.round ratio.numerator ratio.denominator 0).getD BinaryFormat.double.zero

end VisibleFacets
