import VisibleFacets.Json.Raw
import VisibleFacets.Number.Scaled

/-!
# What the parts of a JSON text mean

Quoted text has to be well-formed Unicode, numbers have to be in range, and brackets may nest to a
limited depth. Main definitions: `decodePieces?`, `Numeral.value?`, `Raw.value?`.
-/

namespace VisibleFacets

/-- A leading surrogate and a trailing one make one character; neither may stand alone. -/
def decodePieces? : List Piece → Option (List Char)
  | [] => some []
  | .char c :: rest => (decodePieces? rest).map (c :: ·)
  | .code code :: rest =>
    if code < 0xD800 ∨ 0xDFFF < code then (decodePieces? rest).map (Char.ofNat code :: ·)
    else if 0xDC00 ≤ code then none
    else
      match rest with
      | .code low :: rest =>
        if 0xDC00 ≤ low ∧ low ≤ 0xDFFF then
          (decodePieces? rest).map
            (Char.ofNat ((code - 0xD800) * 0x400 + (low - 0xDC00) + 0x10000) :: ·)
        else none
      | _ => none

def decodeText? (pieces : List Piece) : Option String :=
  (decodePieces? pieces).map String.ofList

namespace Numeral

def absorb : Nat → List Nat → Nat × List Nat
  | significand, [] => (significand, [])
  | significand, digit :: rest =>
    if Text.maxWord < significand * 10 + digit then (significand, digit :: rest)
    else absorb (significand * 10 + digit) rest

/-- The magnitude of a number with a fraction, an exponent or too many digits. Digits before the
point that the significand has no room for raise the exponent; those after it are dropped. -/
def magnitude? (numeral : Numeral) : Option Magnitude :=
  let (significand, excess) := absorb 0 numeral.whole
  let (significand, dropped) := absorb significand numeral.fraction
  let places := numeral.fraction.length - dropped.length
  scaleByTen significand (excess.length - places + numeral.exponent.getD 0)

def maxNegative : Nat := Nat.pow 2 63

/-- An integer if it is written without fraction and exponent and fits 64 bits, unsigned or, below
zero, signed; a double otherwise, and for minus zero. -/
def value? (numeral : Numeral) : Option Json :=
  let decimal := numeral.magnitude?.map fun magnitude => .decimal ⟨numeral.negative, magnitude⟩
  if numeral.fraction = [] ∧ numeral.exponent = none then
    let whole := Raw.digitsValue numeral.whole
    if numeral.negative then
      if whole = 0 ∨ maxNegative < whole then decimal else some (.integer (-whole))
    else if whole ≤ Text.maxWord then some (.integer whole)
    else decimal
  else decimal

end Numeral

namespace Raw

def maxDepth : Nat := 127

mutual

/-- The value of a text, with room for `depth` levels of brackets. A repeated name keeps its last
value, and the members are put in order. -/
def value (depth : Nat) : Raw → Option Json
  | null => some .null
  | bool value => some (.bool value)
  | number numeral => numeral.value?
  | string pieces => (decodeText? pieces).map .string
  | array items => if depth = 0 then none else (values (depth - 1) items).map .array
  | object members =>
    if depth = 0 then none
    else (memberValues (depth - 1) members).map fun members => .object (Dict.ofList members).entries

def values (depth : Nat) : List Raw → Option (List Json)
  | [] => some []
  | item :: rest => do return (← value depth item) :: (← values depth rest)

def memberValues (depth : Nat) : List (List Piece × Raw) → Option (List (String × Json))
  | [] => some []
  | (name, item) :: rest => do
    return (← decodeText? name, ← value depth item) :: (← memberValues depth rest)

end

end Raw

abbrev Reading (α : Type) := Nat → Raw → Option α

namespace Reading

variable {α : Type}

def any : Reading Json := Raw.value

def string : Reading String
  | _, .string pieces => decodeText? pieces
  | _, _ => none

def natural : Reading Nat
  | _, .number numeral =>
    match numeral.value? with
    | some (.integer value) => if 0 ≤ value then some value.toNat else none
    | _ => none
  | _, _ => none

def ofInteger (format : BinaryFormat) (value : Int) : Option Binary :=
  (format.ofNat value.natAbs).map fun magnitude => ⟨value < 0, magnitude⟩

def double : Reading Binary
  | _, .number numeral =>
    match numeral.value? with
    | some (.integer value) => ofInteger .double value
    | some (.decimal value) => some value
    | _ => none
  | _, _ => none

def single : Reading (Option Binary)
  | _, .number numeral =>
    match numeral.value? with
    | some (.integer value) => some (ofInteger .single value)
    | some (.decimal value) =>
      some ((BinaryFormat.single.convert value.magnitude).map fun magnitude =>
        ⟨value.negative, magnitude⟩)
    | _ => none
  | _, _ => none

def list (read : Reading α) : Reading (List α)
  | depth + 1, .array items => items.mapM (read depth)
  | _, _ => none

def decodeMembers? (members : List (List Piece × Raw)) : Option (List (String × Raw)) :=
  members.mapM fun member => (decodeText? member.1).map (·, member.2)

def dict (read : Reading α) : Reading (Dict α)
  | depth + 1, .object members => do
    let members ← decodeMembers? members
    let values ← members.mapM fun member => (read depth member.2).map (member.1, ·)
    return .ofList values
  | _, _ => none

def member? (members : List (String × Raw)) (name : String) : Option (Option Raw) :=
  match members.filter (·.1 = name) with
  | [] => some none
  | [(_, value)] => some (some value)
  | _ => none

/-- The parts of a record with the given field names: members under these names, others being
passed over, or a list in the order of the names that may stop early. -/
def fields (names : List String) : Raw → Option (List (Option Raw))
  | .object members => do
    let members ← decodeMembers? members
    names.mapM (member? members)
  | .array items =>
    if names.length < items.length then none
    else some ((items.map some) ++ List.replicate (names.length - items.length) none)
  | _ => none

def required (read : Reading α) (depth : Nat) (field : Option Raw) : Option α :=
  field.bind (read depth)

/-- A field with a default. -/
def optional (read : Reading α) (default : α) (depth : Nat) : Option Raw → Option α
  | none => some default
  | some raw => read depth raw

def choice (choices : List (String × α)) : Reading α
  | _, .string pieces => (decodeText? pieces).bind (List.lookup · choices)
  | _ + 1, .object [(name, .null)] => (decodeText? name).bind (List.lookup · choices)
  | _, _ => none

def run (read : Reading α) (text : List Char) : Option α :=
  (Raw.ofText? text).bind (read Raw.maxDepth)

end Reading

end VisibleFacets
