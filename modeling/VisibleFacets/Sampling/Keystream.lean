import VisibleFacets.Sampling.Reservoir

/-!
# Seeded dice

Random words are the key stream of a ChaCha cipher with twelve rounds, under a key that is drawn
from the seed. The stream is a function of the position, and a roll reads it from there on. Main
definitions: `Key.ofSeed`, `Key.word`, `seededDice`.
-/

namespace VisibleFacets

structure Row where
  a : UInt32
  b : UInt32
  c : UInt32
  d : UInt32
  deriving DecidableEq, Repr, Inhabited

namespace Row

def zip (combine : UInt32 → UInt32 → UInt32) (first second : Row) : Row :=
  ⟨combine first.a second.a, combine first.b second.b, combine first.c second.c,
    combine first.d second.d⟩

def map (change : UInt32 → UInt32) (row : Row) : Row :=
  ⟨change row.a, change row.b, change row.c, change row.d⟩

def add : Row → Row → Row := zip (· + ·)

def xor : Row → Row → Row := zip (· ^^^ ·)

def turnBits (count : UInt32) : Row → Row :=
  map fun word => word <<< count ||| word >>> (32 - count)

def shift (row : Row) : Row := ⟨row.b, row.c, row.d, row.a⟩

def toList (row : Row) : List UInt32 := [row.a, row.b, row.c, row.d]

end Row

structure Grid where
  first : Row
  second : Row
  third : Row
  fourth : Row
  deriving DecidableEq, Repr, Inhabited

namespace Grid

def mixColumns (grid : Grid) : Grid :=
  let first := grid.first.add grid.second
  let fourth := (grid.fourth.xor first).turnBits 16
  let third := grid.third.add fourth
  let second := (grid.second.xor third).turnBits 12
  let first := first.add second
  let fourth := (fourth.xor first).turnBits 8
  let third := third.add fourth
  let second := (second.xor third).turnBits 7
  ⟨first, second, third, fourth⟩

def align (grid : Grid) : Grid :=
  ⟨grid.first, grid.second.shift, grid.third.shift.shift, grid.fourth.shift.shift.shift⟩

def restore (grid : Grid) : Grid :=
  ⟨grid.first, grid.second.shift.shift.shift, grid.third.shift.shift, grid.fourth.shift⟩

def doubleRound (grid : Grid) : Grid := grid.mixColumns.align.mixColumns.restore

def add (left right : Grid) : Grid :=
  ⟨left.first.add right.first, left.second.add right.second, left.third.add right.third,
    left.fourth.add right.fourth⟩

def words (grid : Grid) : List UInt32 :=
  grid.first.toList ++ grid.second.toList ++ grid.third.toList ++ grid.fourth.toList

end Grid

structure Key where
  low : Row
  high : Row
  deriving DecidableEq, Repr, Inhabited

def sigma : Row := ⟨0x61707865, 0x3320646e, 0x79622d32, 0x6b206574⟩

def doubleRounds : Nat := 6

def halfRange : Nat := Nat.pow 2 32

def wordRange : Nat := Nat.pow 2 64

namespace Key

def grid (key : Key) (counter : Nat) : Grid :=
  ⟨sigma, key.low, key.high,
    ⟨UInt32.ofNat counter, UInt32.ofNat (counter / halfRange), 0, 0⟩⟩

def block (key : Key) (counter : Nat) : List UInt32 :=
  let input := key.grid counter
  ((Nat.repeat Grid.doubleRound doubleRounds input).add input).words

/-- The 64-bit word at a position, low half first; a block holds eight. -/
def word (key : Key) (position : Nat) : Nat :=
  let words := key.block (position / 8)
  let index := 2 * (position % 8)
  (words.getD index 0).toNat + halfRange * (words.getD (index + 1) 0).toNat

def advance (state : UInt64) : UInt64 := state * 6364136223846793005 + 11634580027462260723

def output (state : UInt64) : UInt32 :=
  let mixed := (((state >>> 18) ^^^ state) >>> 27).toUInt32
  let count := (state >>> 59).toUInt32
  mixed >>> count ||| mixed <<< ((32 - count) % 32)

def seedWords : Nat → UInt64 → List UInt32
  | 0, _ => []
  | count + 1, state => output (advance state) :: seedWords count (advance state)

def ofSeed (seed : Nat) : Key :=
  let word (index : Nat) := (seedWords 8 (UInt64.ofNat seed)).getD index 0
  ⟨⟨word 0, word 1, word 2, word 3⟩, ⟨word 4, word 5, word 6, word 7⟩⟩

end Key

structure Generator where
  key : Key
  position : Nat
  deriving DecidableEq, Repr, Inhabited

namespace Generator

def ofSeed (seed : Nat) : Generator := ⟨.ofSeed seed, 0⟩

def zone (sides : Nat) : Nat := sides * Nat.pow 2 (63 - sides.log2) - 1

def period : Nat := 8 * wordRange

/-- The first word from `position` on whose product with `sides` has a low half within the zone
gives the number, by the product's high half. -/
def search (key : Key) (sides : Nat) : Nat → Nat → Nat × Nat
  | 0, position => (1, position)
  | fuel + 1, position =>
    let product := key.word position * sides
    if product % wordRange ≤ zone sides then (product / wordRange + 1, position + 1)
    else search key sides fuel (position + 1)

def roll (sides : Nat) (generator : Generator) : Nat × Generator :=
  let (rolled, position) := search generator.key sides period generator.position
  (rolled, { generator with position })

end Generator

def seededDice : Dice Generator := ⟨Generator.roll⟩

end VisibleFacets
