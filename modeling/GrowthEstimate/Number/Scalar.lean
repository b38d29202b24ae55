/-!
Contract: the numbers an estimate is computed with.

Owns: the class `Scalar`, which lists every primitive operation used on
confidences, costs and fitted coefficients, and the operations derived from
them (`clamp`, `larger`, `smaller`, `sum`, `mean?`).

Does **not** own: any law.  The running program uses the `Float` instance of
`Number.Binary64`; a statement about exact arithmetic uses an instance over an
ordered field, where `isNaN` is never true and `isFinite` always is.
-/

set_option autoImplicit false

namespace GrowthEstimate

/-- The primitive operations on the numbers of an estimate.  Comparisons are
Boolean and follow IEEE 754 where a value may be undefined: every comparison
with an undefined value is false. -/
class Scalar (α : Type) extends Add α, Sub α, Mul α, Div α, OfScientific α where
  ofCount : Nat → α
  lt : α → α → Bool
  le : α → α → Bool
  /-- Equality of values, which an undefined value does not have with itself. -/
  eq : α → α → Bool
  isNaN : α → Bool
  isFinite : α → Bool
  /-- A total order on all values, the undefined ones included, for sorting. -/
  precedes : α → α → Bool
  abs : α → α
  sqrt : α → α
  log2 : α → α
  exp2 : α → α
  /-- The value of a growth function that is not known. -/
  undefined : α
  justBelow : α → α
  fixedText : Nat → α → String
  /-- The shortest decimal text that reads back, without an exponent. -/
  plainText : α → String
  /-- The shortest decimal text that reads back, with a point or an exponent; a value that
  is undefined or infinite has none. -/
  markedText? : α → Option String

namespace Scalar

variable {α : Type} [Scalar α]

/-- The larger of two values; an undefined one gives way to the other. -/
def larger (left right : α) : α :=
  if isNaN left || lt left right then right else left

/-- The smaller of two values; an undefined one gives way to the other. -/
def smaller (left right : α) : α :=
  if isNaN left || lt right left then right else left

/-- The nearest value of the interval; an undefined value stays undefined. -/
def clamp (low high value : α) : α :=
  if lt value low then low else if lt high value then high else value

def clampUnit (value : α) : α :=
  clamp 0.0 1.0 value

def sum (values : List α) : α :=
  values.foldl (· + ·) 0.0

/-- The arithmetic mean of a list that is not empty. -/
def mean? (values : List α) : Option α :=
  if values.isEmpty then none else some (sum values / ofCount values.length)

def square (value : α) : α :=
  value * value

end Scalar

end GrowthEstimate
