import GrowthEstimate.Number.Scalar

/-!
Contract: the random words of a seed, and random numbers of an interval.

Owns: the ChaCha block function with twelve rounds, the expansion of a seed to a key, the stream
of 64-bit words that a seed gives, the number in the unit interval that a word stands for, and the
uniform draw from an interval that holds both of its ends.

The stream is a function of the seed and the number of words drawn, so streams of different seeds
share nothing, whatever the order in which they are drawn from.
-/

set_option autoImplicit false

namespace GrowthEstimate

/-! ## Words -/

namespace ChaCha

/-- Four words, one of each column of a block. -/
structure Row where
  first : UInt32
  second : UInt32
  third : UInt32
  fourth : UInt32
  deriving DecidableEq, Repr, Inhabited

namespace Row

def zip (operation : UInt32 → UInt32 → UInt32) (left right : Row) : Row :=
  ⟨operation left.first right.first, operation left.second right.second,
    operation left.third right.third, operation left.fourth right.fourth⟩

def rotate (row : Row) (amount : UInt32) : Row :=
  let turn (word : UInt32) := (word <<< amount) ||| (word >>> (32 - amount))
  ⟨turn row.first, turn row.second, turn row.third, turn row.fourth⟩

def shift (row : Row) : Row :=
  ⟨row.second, row.third, row.fourth, row.first⟩

/-- The words from the first column to the last. -/
def toList (row : Row) : List UInt32 :=
  [row.first, row.second, row.third, row.fourth]

end Row

/-- A block of sixteen words, in four rows. -/
structure Block where
  a : Row
  b : Row
  c : Row
  d : Row
  deriving DecidableEq, Repr, Inhabited

namespace Block

def mixColumns (block : Block) : Block :=
  let a := block.a.zip (· + ·) block.b
  let d := (block.d.zip (· ^^^ ·) a).rotate 16
  let c := block.c.zip (· + ·) d
  let b := (block.b.zip (· ^^^ ·) c).rotate 12
  let a := a.zip (· + ·) b
  let d := (d.zip (· ^^^ ·) a).rotate 8
  let c := c.zip (· + ·) d
  let b := (b.zip (· ^^^ ·) c).rotate 7
  ⟨a, b, c, d⟩

def toDiagonals (block : Block) : Block :=
  ⟨block.a, block.b.shift, block.c.shift.shift, block.d.shift.shift.shift⟩

def ofDiagonals (block : Block) : Block :=
  ⟨block.a, block.b.shift.shift.shift, block.c.shift.shift, block.d.shift⟩

/-- Two rounds: one on the columns and one on the diagonals. -/
def doubleRound (block : Block) : Block :=
  block.mixColumns.toDiagonals.mixColumns.ofDiagonals

def add (left right : Block) : Block :=
  ⟨left.a.zip (· + ·) right.a, left.b.zip (· + ·) right.b,
    left.c.zip (· + ·) right.c, left.d.zip (· + ·) right.d⟩

def toList (block : Block) : List UInt32 :=
  block.a.toList ++ block.b.toList ++ block.c.toList ++ block.d.toList

end Block

structure Key where
  low : Row
  high : Row
  deriving DecidableEq, Repr, Inhabited

def constants : Row :=
  ⟨0x61707865, 0x3320646e, 0x79622d32, 0x6b206574⟩

/-- The block from which the output block of a number is made. -/
def initialBlock (key : Key) (number : UInt64) : Block :=
  ⟨constants, key.low, key.high, ⟨number.toUInt32, (number >>> 32).toUInt32, 0, 0⟩⟩

def twelveRounds (block : Block) : Block :=
  block.doubleRound.doubleRound.doubleRound.doubleRound.doubleRound.doubleRound

def outputBlock (key : Key) (number : UInt64) : Block :=
  let start := initialBlock key number
  (twelveRounds start).add start

/-! ### Keys from seeds -/

def expandState (state : UInt64) : UInt64 :=
  state * 6364136223846793005 + 11634580027462260723

def expandWord (state : UInt64) : UInt32 :=
  let folded := (((state >>> 18) ^^^ state) >>> 27).toUInt32
  let turn := (state >>> 59).toUInt32
  (folded >>> turn) ||| (folded <<< ((32 - turn) % 32))

/-- The row of words that four states give, and the state after them. -/
def expandRow (state : UInt64) : Row × UInt64 :=
  let first := expandState state
  let second := expandState first
  let third := expandState second
  let fourth := expandState third
  (⟨expandWord first, expandWord second, expandWord third, expandWord fourth⟩, fourth)

def keyOfSeed (seed : UInt64) : Key :=
  let (low, state) := expandRow seed
  ⟨low, (expandRow state).1⟩

end ChaCha

/-- The stream of random words of a seed, after some words were drawn. -/
structure RandomStream where
  key : ChaCha.Key
  drawn : Nat
  deriving DecidableEq, Repr, Inhabited

namespace RandomStream

def ofSeed (seed : UInt64) : RandomStream :=
  ⟨ChaCha.keyOfSeed seed, 0⟩

/-- The 64-bit word at an index: two words of a block, the low half first. -/
def wordAt (key : ChaCha.Key) (index : Nat) : UInt64 :=
  let words := (ChaCha.outputBlock key (index / 8).toUInt64).toList
  let low := words.getD (2 * (index % 8)) 0
  let high := words.getD (2 * (index % 8) + 1) 0
  low.toUInt64 ||| (high.toUInt64 <<< 32)

def draw (stream : RandomStream) : UInt64 × RandomStream :=
  (wordAt stream.key stream.drawn, { stream with drawn := stream.drawn + 1 })

end RandomStream

/-! ## Numbers -/

namespace RandomStream

variable {α : Type} [Scalar α]

/-- The number of steps into which the unit interval is divided. -/
def unitSteps : Nat :=
  Nat.pow 2 52

/-- The number that the high 52 bits of a word stand for, from zero to just below one. -/
def unitOf (word : UInt64) : α :=
  Scalar.ofCount (word >>> 12).toNat / Scalar.ofCount unitSteps

def largestUnit : α :=
  Scalar.ofCount (unitSteps - 1) / Scalar.ofCount unitSteps

/-- The scale, lowered until the largest number stays inside the interval; `bound` is how
often it may be lowered. -/
def fitScale (low high : α) : Nat → α → α
  | 0, scale => scale
  | bound + 1, scale =>
      if Scalar.lt high (scale * largestUnit + low) then
        fitScale low high bound (Scalar.justBelow scale)
      else scale

/-- Draws a number from an interval that holds both of its ends. -/
def uniform (low high : α) (stream : RandomStream) : α × RandomStream :=
  let scale := fitScale low high 64 ((high - low) / largestUnit)
  let (word, rest) := stream.draw
  (unitOf word * scale + low, rest)

end RandomStream

end GrowthEstimate
