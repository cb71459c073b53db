/-!
# Reading natural numbers

An optional plus sign and ASCII digits, any number of leading zeros. Characters are judged from the
left, so of two faults the earlier one counts.
-/

namespace VisibleFacets.Text

def maxWord : Nat := Nat.pow 2 64 - 1

inductive NaturalFault where
  | empty
  | badDigit
  | tooLarge
  deriving DecidableEq, Repr

def digitValue? (c : Char) : Option Nat :=
  if '0' ≤ c ∧ c ≤ '9' then some (c.toNat - '0'.toNat) else none

def readDigits (bound : Nat) : Nat → List Char → Except NaturalFault Nat
  | value, [] => .ok value
  | value, c :: rest =>
    match digitValue? c with
    | none => .error .badDigit
    | some digit =>
      if bound < value * 10 + digit then .error .tooLarge
      else readDigits bound (value * 10 + digit) rest

def readNatural (bound : Nat) : List Char → Except NaturalFault Nat
  | [] => .error .empty
  | ['+'] => .error .badDigit
  | '+' :: c :: rest => readDigits bound 0 (c :: rest)
  | c :: rest => readDigits bound 0 (c :: rest)

def hexValue? (c : Char) : Option Nat :=
  if '0' ≤ c ∧ c ≤ '9' then some (c.toNat - '0'.toNat)
  else if 'a' ≤ c ∧ c ≤ 'f' then some (c.toNat - 'a'.toNat + 10)
  else if 'A' ≤ c ∧ c ≤ 'F' then some (c.toNat - 'A'.toNat + 10)
  else none

def hexNumber? : Nat → List Char → Option Nat
  | value, [] => some value
  | value, c :: rest => (hexValue? c).bind fun digit => hexNumber? (value * 16 + digit) rest

def showNatural (value : Nat) : List Char := Nat.toDigits 10 value

def showInteger (value : Int) : List Char :=
  if value < 0 then '-' :: showNatural value.natAbs else showNatural value.natAbs

end VisibleFacets.Text
