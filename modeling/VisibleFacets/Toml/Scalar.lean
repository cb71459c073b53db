import VisibleFacets.Toml.Quoted
import VisibleFacets.Toml.Table

/-!
# Numbers and dates in TOML

Integers fit 64 bits with a sign; underscores may stand between two digits. A float too large for a
double is refused, a very negative one is not. Main definition: `scalar?`.
-/

namespace VisibleFacets.Toml

def moreDigits (digit? : Char → Option Nat) : List Char → List Nat × List Char
  | [] => ([], [])
  | '_' :: c :: rest =>
    match digit? c with
    | none => ([], '_' :: c :: rest)
    | some digit => let (digits, rest) := moreDigits digit? rest; (digit :: digits, rest)
  | c :: rest =>
    match digit? c with
    | none => ([], c :: rest)
    | some digit => let (digits, rest) := moreDigits digit? rest; (digit :: digits, rest)

def digits? (digit? : Char → Option Nat) : List Char → Option (List Nat × List Char)
  | [] => none
  | c :: rest =>
    (digit? c).map fun digit =>
      let (digits, rest) := moreDigits digit? rest
      (digit :: digits, rest)

def binaryDigit? (c : Char) : Option Nat :=
  if c = '0' then some 0 else if c = '1' then some 1 else none

def octalDigit? (c : Char) : Option Nat :=
  (Text.digitValue? c).filter (· < 8)

def digitsValue (base : Nat) (digits : List Nat) : Nat :=
  digits.foldl (fun value digit => value * base + digit) 0

def maxInteger : Nat := Nat.pow 2 63 - 1

def integer? (negative : Bool) (magnitude : Nat) : Option Node :=
  if negative then
    if magnitude ≤ maxInteger + 1 then some (.integer (-magnitude)) else none
  else if magnitude ≤ maxInteger then some (.integer magnitude)
  else none

def based? (base : Nat) (digit? : Char → Option Nat) (text : List Char) :
    Option (Node × List Char) := do
  let (digits, rest) ← digits? digit? text
  return (← integer? false (digitsValue base digits), rest)

def sign : List Char → Bool × List Char
  | '+' :: rest => (false, rest)
  | '-' :: rest => (true, rest)
  | rest => (false, rest)

def decimal? (text : List Char) : Option (List Nat × List Char) :=
  match text with
  | '0' :: rest => some ([0], rest)
  | _ => digits? Text.digitValue? text

def fraction? : List Char → Option (List Nat × List Char)
  | '.' :: rest => digits? Text.digitValue? rest
  | rest => some ([], rest)

def exponent? : List Char → Option (Option Int × List Char)
  | [] => some (none, [])
  | c :: rest =>
    if c = 'e' ∨ c = 'E' then do
      let (negative, rest) := sign rest
      let (digits, rest) ← digits? Text.digitValue? rest
      let magnitude : Int := digitsValue 10 digits
      return (some (if negative then -magnitude else magnitude), rest)
    else some (none, c :: rest)

/-- The least number that rounds to no double: half a place above the largest. -/
def overflowBound : Nat := (Nat.pow 2 54 - 1) * Nat.pow 2 970

def overflowPlaces : Nat := 400

def overflows (digits : List Nat) (exponent : Int) : Bool :=
  let digits := digits.dropWhile (· = 0)
  let value := digitsValue 10 digits
  if value = 0 then false
  else if (overflowPlaces : Int) < digits.length + exponent then true
  else if digits.length + exponent < 0 then false
  else overflowBound * Nat.pow 10 (-exponent).toNat ≤ value * Nat.pow 10 exponent.toNat

def number? (text : List Char) : Option (Node × List Char) := do
  let (negative, text) := sign text
  let (whole, rest) ← decimal? text
  let (fraction, rest) ← fraction? rest
  let (exponent, rest) ← exponent? rest
  if fraction = [] ∧ exponent = none then
    return (← integer? negative (digitsValue 10 whole), rest)
  else if !negative && overflows (whole ++ fraction) (exponent.getD 0 - fraction.length) then
    none
  else
    return (.float, rest)

def special? (text : List Char) : Option (Node × List Char) :=
  match (sign text).2 with
  | 'i' :: 'n' :: 'f' :: rest => some (.float, rest)
  | 'n' :: 'a' :: 'n' :: rest => some (.float, rest)
  | _ => none

/-! ## Dates and times -/

def twoDigits? (low high : Nat) : List Char → Option (Nat × List Char)
  | a :: b :: rest => do
    let value := 10 * (← Text.digitValue? a) + (← Text.digitValue? b)
    if low ≤ value ∧ value ≤ high then return (value, rest) else none
  | _ => none

def daysInMonth (year month : Nat) : Nat :=
  if month = 2 then
    if year % 4 = 0 ∧ (year % 100 ≠ 0 ∨ year % 400 = 0) then 29 else 28
  else if month ∈ [4, 6, 9, 11] then 30
  else 31

def expect? (c : Char) : List Char → Option (List Char)
  | [] => none
  | head :: rest => if head = c then some rest else none

def date? : List Char → Option (List Char)
  | a :: b :: c :: d :: '-' :: rest => do
    let year := digitsValue 10
      [← Text.digitValue? a, ← Text.digitValue? b, ← Text.digitValue? c, ← Text.digitValue? d]
    let (month, rest) ← twoDigits? 1 12 rest
    let (_, rest) ← twoDigits? 1 (daysInMonth year month) (← expect? '-' rest)
    return rest
  | _ => none

def secondFraction? : List Char → Option (List Char)
  | '.' :: c :: rest => (Text.digitValue? c).map fun _ =>
    rest.dropWhile fun c => (Text.digitValue? c).isSome
  | '.' :: _ => none
  | rest => some rest

/-- The text behind a time; a leap second is allowed. -/
def time? (text : List Char) : Option (List Char) := do
  let (_, rest) ← twoDigits? 0 23 text
  let (_, rest) ← twoDigits? 0 59 (← expect? ':' rest)
  let (_, rest) ← twoDigits? 0 60 (← expect? ':' rest)
  secondFraction? rest

def offset? : List Char → Option (List Char)
  | [] => some []
  | c :: rest =>
    if c = 'Z' ∨ c = 'z' then some rest
    else if c = '+' ∨ c = '-' then do
      let (_, rest) ← twoDigits? 0 23 rest
      let (_, rest) ← twoDigits? 0 59 (← expect? ':' rest)
      return rest
    else some (c :: rest)

def timeOfDate? : List Char → Option (List Char)
  | [] => some []
  | c :: rest =>
    if c = 'T' ∨ c = 't' ∨ c = ' ' then
      match time? rest with
      | some rest => offset? rest
      | none => some (c :: rest)
    else some (c :: rest)

def moment? (text : List Char) : Option (List Char) :=
  match date? text with
  | some rest => timeOfDate? rest
  | none => time? text

def scalar? (text : List Char) : Option (Node × List Char) :=
  match text with
  | 't' :: 'r' :: 'u' :: 'e' :: rest => some (.boolean true, rest)
  | 'f' :: 'a' :: 'l' :: 's' :: 'e' :: rest => some (.boolean false, rest)
  | '0' :: 'x' :: rest => based? 16 Text.hexValue? rest
  | '0' :: 'o' :: rest => based? 8 octalDigit? rest
  | '0' :: 'b' :: rest => based? 2 binaryDigit? rest
  | _ =>
    match moment? text with
    | some rest => some (.moment, rest)
    | none =>
      match special? text with
      | some found => some found
      | none => number? text

end VisibleFacets.Toml
