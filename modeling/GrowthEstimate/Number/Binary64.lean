import GrowthEstimate.Number.Scalar

/-!
Contract: the numbers of the running program, IEEE 754 doubles, and their decimal texts.

Owns: the exact value of a bit pattern, the rounding of a quotient, the text with a fixed number
of places, and the fewest digits that read back; the key under which all doubles are totally
ordered, and the `Scalar` instance for `Float`.

Does **not** own: which text a report uses, except for the two shortest layouts defined here, one
that never has an exponent and one that has an exponent for very large and very small numbers.
-/

set_option autoImplicit false

namespace GrowthEstimate

/-! ## Decimal texts

Everything is computed on natural numbers, from the bits of the double. -/

namespace Decimal

/-! ### Powers -/

def twoTo (exponent : Nat) : Nat :=
  Nat.pow 2 exponent

def tenTo (exponent : Nat) : Nat :=
  Nat.pow 10 exponent

/-! ### Exact values -/

/-- The exact size of a finite double: `mantissa` times two to the power `up`, divided by
two to the power `down`. -/
structure Exact where
  mantissa : Nat
  up : Nat
  down : Nat
  deriving DecidableEq, Repr

/-- What a bit pattern stands for, its sign apart. -/
inductive Magnitude where
  | undefined
  | infinite
  | finite (value : Exact) (isPowerOfTwo : Bool)
  deriving DecidableEq, Repr

def isNegative (bits : UInt64) : Bool :=
  bits.toNat / twoTo 63 == 1

def magnitude (bits : UInt64) : Magnitude :=
  let exponent := bits.toNat / twoTo 52 % twoTo 11
  let fraction := bits.toNat % twoTo 52
  if exponent = 2047 then if fraction = 0 then .infinite else .undefined
  else if exponent = 0 then .finite ⟨fraction, 0, 1074⟩ false
  else
    let mantissa := twoTo 52 + fraction
    .finite ⟨mantissa, exponent - 1075, 1075 - exponent⟩ (fraction == 0 && exponent != 1)

/-! ### Rounding -/

/-- Where a quotient goes that lies halfway between two integers. -/
inductive Tie where
  | toEven
  | up
  deriving DecidableEq, Repr

def roundQuotient (tie : Tie) (numerator denominator : Nat) : Nat :=
  let quotient := numerator / denominator
  let twice := 2 * (numerator % denominator)
  let goesUp :=
    denominator < twice
      || (twice == denominator && (tie == .up || quotient % 2 == 1))
  if goesUp then quotient + 1 else quotient

/-! ### Digits -/

/-- The decimal digits of a number, at least `width` of them. -/
def padded (width value : Nat) : String :=
  let digits := Nat.toDigits 10 value
  String.ofList (List.replicate (width - digits.length) '0' ++ digits)

/-- The text of a magnitude with a fixed number of places, a half going to the even
neighbour. -/
def fixedMagnitude (places : Nat) (value : Exact) : String :=
  let units :=
    roundQuotient .toEven (value.mantissa * twoTo value.up * tenTo places) (twoTo value.down)
  let whole := padded 1 (units / tenTo places)
  if places = 0 then whole else whole ++ "." ++ padded places (units % tenTo places)

def signed (bits : UInt64) (text : String) : String :=
  if isNegative bits then "-" ++ text else text

def fixed (places : Nat) (value : Float) : String :=
  let bits := value.toBits
  match magnitude bits with
  | .undefined => "NaN"
  | .infinite => signed bits "inf"
  | .finite exact _ => signed bits (fixedMagnitude places exact)

/-! ### The fewest digits that read back -/

/-- Decimal digits and the power of ten by which their last one counts. -/
structure Digits where
  digits : List Char
  /-- The place of the decimal point, counted from before the first digit. -/
  point : Int
  deriving DecidableEq, Repr

/-- A quotient of natural numbers. -/
structure Ratio where
  numerator : Nat
  denominator : Nat

/-- Whether a point of the grid lies among the reals that round to the value.  All
lengths are counted in quarters of the distance to the next larger double. -/
def readsBack (value : Exact) (isPowerOfTwo : Bool) (scaled : Ratio) (candidate : Nat) : Bool :=
  -- the value is scaled.numerator / scaled.denominator on the grid, and its neighbours
  -- lie 1 / mantissa of it away
  let quarter := scaled.numerator
  let place := candidate * scaled.denominator * 4 * value.mantissa
  let centre := quarter * 4 * value.mantissa
  let above := centre + 2 * quarter
  let below := centre - (if isPowerOfTwo then quarter else 2 * quarter)
  let closed := value.mantissa % 2 == 0
  if closed then below ≤ place && place ≤ above else below < place && place < above

/-- The value in units of ten to the power `unit`. -/
def onGrid (value : Exact) (unit : Int) : Ratio :=
  let numerator := value.mantissa * twoTo value.up
  let denominator := twoTo value.down
  if 0 ≤ unit then ⟨numerator, denominator * tenTo unit.toNat⟩
  else ⟨numerator * tenTo (-unit).toNat, denominator⟩

/-- The point of the grid of a unit that reads back and is nearest to the value. -/
def nearestOnGrid (tie : Tie) (value : Exact) (isPowerOfTwo : Bool) (unit : Int) : Option Nat :=
  let scaled := onGrid value unit
  let low := scaled.numerator / scaled.denominator
  let fits := readsBack value isPowerOfTwo scaled
  match fits low && low != 0, fits (low + 1) with
  | true, true => some (roundQuotient tie scaled.numerator scaled.denominator)
  | true, false => some low
  | false, true => some (low + 1)
  | false, false => none

/-- The first grid, from the coarsest of `count` grids on, that has a point that reads
back. -/
def coarsest (tie : Tie) (value : Exact) (isPowerOfTwo : Bool) : Nat → Int → Option (Nat × Int)
  | 0, _ => none
  | count + 1, unit =>
      match nearestOnGrid tie value isPowerOfTwo unit with
      | some point => some (point, unit)
      | none => coarsest tie value isPowerOfTwo count (unit - 1)

/-- How many decimal digits the whole part of the value has, or, for a value below one,
minus the number of zeros after its point. -/
def wholeDigits (value : Exact) : Int :=
  let numerator := value.mantissa * twoTo value.up
  let denominator := twoTo value.down
  if denominator ≤ numerator then (Nat.toDigits 10 (numerator / denominator)).length
  else
    let inverse := (denominator + numerator - 1) / numerator
    1 - ((Nat.toDigits 10 (inverse - 1)).length : Int)

/-- The fewest digits that read back as the value, and of those the nearest. -/
def shortest (tie : Tie) (value : Exact) (isPowerOfTwo : Bool) : Digits :=
  if value.mantissa = 0 then ⟨['0'], 1⟩
  else
    match coarsest tie value isPowerOfTwo 19 (wholeDigits value) with
    | none => ⟨['0'], 1⟩
    | some (point, unit) =>
        let written := Nat.toDigits 10 point
        let kept := (written.reverse.dropWhile (· == '0')).reverse
        ⟨kept, unit + written.length⟩

/-- Digits in positional notation, without a point if there is nothing behind it. -/
def positional (found : Digits) : String :=
  let zeros (count : Int) := List.replicate count.toNat '0'
  let length : Int := found.digits.length
  if found.point ≤ 0 then
    "0." ++ String.ofList (zeros (-found.point) ++ found.digits)
  else if length ≤ found.point then
    String.ofList (found.digits ++ zeros (found.point - length))
  else
    String.ofList (found.digits.take found.point.toNat) ++ "."
      ++ String.ofList (found.digits.drop found.point.toNat)

/-- The shortest text of a double, always in positional notation. -/
def plain (value : Float) : String :=
  let bits := value.toBits
  match magnitude bits with
  | .undefined => "NaN"
  | .infinite => signed bits "inf"
  | .finite exact isPowerOfTwo => signed bits (positional (shortest .up exact isPowerOfTwo))

/-- Digits in scientific notation.  The exponent always has a sign. -/
def scientific (found : Digits) : String :=
  let exponent :=
    (if 1 ≤ found.point then "e+" else "e") ++ toString (found.point - 1)
  match found.digits with
  | [] => "0" ++ exponent
  | [digit] => String.ofList [digit] ++ exponent
  | digit :: rest => String.ofList (digit :: '.' :: rest) ++ exponent

/-- The shortest text of a finite double with a point or an exponent: positional from
`1e-5` up to below `1e16`, scientific outside.  A value that is not finite has none. -/
def marked? (value : Float) : Option String :=
  let bits := value.toBits
  match magnitude bits with
  | .undefined | .infinite => none
  | .finite exact isPowerOfTwo =>
      let found := shortest .toEven exact isPowerOfTwo
      let text :=
        if found.point ≤ -5 || 16 < found.point then scientific found
        else if (found.digits.length : Int) ≤ found.point then positional found ++ ".0"
        else positional found
      some (signed bits text)

end Decimal

/-! ## Doubles -/

namespace Binary64

def signBit : UInt64 :=
  0x8000000000000000

/-- The key of a bit pattern in the total order: among patterns without the sign
bit larger patterns are larger values, among those with it smaller ones are, and
every pattern with the sign bit comes before every pattern without it. -/
def orderKey (bits : UInt64) : UInt64 :=
  if bits &&& signBit == 0 then bits ||| signBit else ~~~bits

/-- The total order on doubles: from minus infinity to infinity, minus zero before
zero, and an undefined value after all others. -/
def precedes (left right : Float) : Bool :=
  decide (orderKey left.toBits ≤ orderKey right.toBits)

instance : Scalar Float where
  ofCount count := Float.ofNat count
  lt left right := left < right
  le left right := left ≤ right
  eq left right := left == right
  isNaN value := value.isNaN
  isFinite value := value.isFinite
  precedes := precedes
  abs value := value.abs
  sqrt value := value.sqrt
  log2 value := value.log2
  exp2 value := Float.pow 2.0 value
  undefined := Float.ofBits 0x7ff8000000000000
  justBelow value := Float.ofBits (value.toBits - 1)
  fixedText := Decimal.fixed
  plainText := Decimal.plain
  markedText? := Decimal.marked?

end Binary64

end GrowthEstimate
