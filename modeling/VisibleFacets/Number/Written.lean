import VisibleFacets.Number.Shortest

/-!
# How a binary number is written
-/

namespace VisibleFacets

structure NumberLayout where
  lowestPositional : Int
  highestPositional : Int

def numberLayout : NumberLayout := ⟨-5, 15⟩

def writePositional (digits : List Char) (leading : Int) : List Char :=
  if leading < 0 then
    '0' :: '.' :: (List.replicate (-leading - 1).toNat '0' ++ digits)
  else
    let whole := leading.toNat + 1
    let fraction := digits.drop whole
    digits.take whole ++ List.replicate (whole - digits.length) '0' ++
      '.' :: (if fraction = [] then ['0'] else fraction)

def writeScientific (digits : List Char) (leading : Int) : List Char :=
  let fraction := digits.drop 1
  digits.take 1 ++ (if fraction = [] then [] else '.' :: fraction) ++
    'e' :: (if leading < 0 then '-' else '+') :: Text.showNatural leading.natAbs

def dropTrailingZeros (digits : List Char) : List Char :=
  (digits.reverse.dropWhile (· = '0')).reverse

def writeMagnitude (layout : NumberLayout) (format : BinaryFormat) (value : Magnitude) :
    List Char :=
  if value.significand = 0 then ['0', '.', '0']
  else
    let decimal := shortestDecimal format value
    let written := Text.showNatural decimal.digits
    let leading := decimal.exponent + written.length - 1
    let digits := dropTrailingZeros written
    if layout.lowestPositional ≤ leading ∧ leading ≤ layout.highestPositional then
      writePositional digits leading
    else writeScientific digits leading

/-- Written with a fraction or an exponent, so that it is no integer's text. -/
def writeBinary (format : BinaryFormat) (value : Binary) : List Char :=
  if value.negative then '-' :: writeMagnitude numberLayout format value.magnitude
  else writeMagnitude numberLayout format value.magnitude

end VisibleFacets
