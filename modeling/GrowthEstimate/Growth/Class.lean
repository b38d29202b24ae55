import GrowthEstimate.Number.Scalar

/-!
Contract: the asymptotic growth classes and how they combine.

Owns: the ten classes, their canonical order, the join, meet and product of two classes, the
neighbours used for best and worst cases, the growth function of a class and its notation, and
the split of growth into the best, the average and the worst case.

Does **not** own: free-form labels, which `Growth.Label` reads.

The class `unknown` stands outside the order.  It is neutral for join, meet and product, so a
signal that is missing never changes one that is there.
-/

set_option autoImplicit false

namespace GrowthEstimate

inductive GrowthClass where
  | const
  | log
  | sqrt
  | linear
  | linearithmic
  | quadratic
  | cubic
  | exponential
  | factorial
  | unknown
  deriving DecidableEq, Repr, Inhabited

namespace GrowthClass

/-- The classes of the canonical order, from the slowest growth to the fastest. -/
def canonical : List GrowthClass :=
  [const, log, sqrt, linear, linearithmic, quadratic, cubic, exponential, factorial]

/-- The place in the declaration order, where `unknown` comes last. -/
def rank : GrowthClass → Nat
  | const => 0
  | log => 1
  | sqrt => 2
  | linear => 3
  | linearithmic => 4
  | quadratic => 5
  | cubic => 6
  | exponential => 7
  | factorial => 8
  | unknown => 9

def isKnown (growth : GrowthClass) : Bool :=
  growth != unknown

def position? (growth : GrowthClass) : Option Nat :=
  if growth.isKnown then some growth.rank else none

/-- The class at a place of the canonical order; places past the end are `factorial`. -/
def ofPosition (position : Nat) : GrowthClass :=
  canonical.getD position factorial

def join (left right : GrowthClass) : GrowthClass :=
  if !left.isKnown then right
  else if !right.isKnown then left
  else if left.rank ≤ right.rank then right else left

def meet (left right : GrowthClass) : GrowthClass :=
  if !left.isKnown then right
  else if !right.isKnown then left
  else if left.rank ≤ right.rank then left else right

/-- The cost of work of the class `right` done once per unit of `left`.  Products
that are polynomial stay in the canonical order and saturate at `cubic`. -/
def product : GrowthClass → GrowthClass → GrowthClass
  | unknown, right => right
  | left, unknown => left
  | factorial, _ => factorial
  | _, factorial => factorial
  | exponential, _ => exponential
  | _, exponential => exponential
  | const, right => right
  | left, const => left
  | log, log => sqrt
  | log, sqrt => linear
  | sqrt, log => linear
  | sqrt, sqrt => linear
  | log, linear => linearithmic
  | linear, log => linearithmic
  | log, linearithmic => linearithmic
  | linearithmic, log => linearithmic
  | log, quadratic => quadratic
  | quadratic, log => quadratic
  | sqrt, linear => quadratic
  | linear, sqrt => quadratic
  | sqrt, linearithmic => quadratic
  | linearithmic, sqrt => quadratic
  | linear, linear => quadratic
  | linear, linearithmic => quadratic
  | linearithmic, linear => quadratic
  | linearithmic, linearithmic => quadratic
  | _, _ => cubic

/-- One step towards slower growth, for best cases. -/
def easier : GrowthClass → GrowthClass
  | const => const
  | log => const
  | sqrt => log
  | linear => log
  | linearithmic => linear
  | quadratic => linear
  | cubic => quadratic
  | exponential => cubic
  | factorial => exponential
  | unknown => unknown

/-- One step towards faster growth, for worst cases. -/
def harder : GrowthClass → GrowthClass
  | const => log
  | log => linear
  | sqrt => linear
  | linear => linearithmic
  | linearithmic => quadratic
  | quadratic => cubic
  | cubic => exponential
  | exponential => factorial
  | factorial => factorial
  | unknown => unknown

def distance? (left right : GrowthClass) : Option Nat :=
  if left.isKnown && right.isKnown then
    some (max left.rank right.rank - min left.rank right.rank)
  else none

/-- `const` in place of a class that is not known. -/
def orConst (growth : GrowthClass) : GrowthClass :=
  if growth.isKnown then growth else const

/-- The largest known class of a list, `const` when it has none. -/
def joinAll (classes : List GrowthClass) : GrowthClass :=
  (classes.foldl join unknown).orConst

def isPolynomial (growth : GrowthClass) : Bool :=
  growth == quadratic || growth == cubic

def isExponential (growth : GrowthClass) : Bool :=
  growth == exponential || growth == factorial

/-! ## The growth function of a class -/

section Evaluation

variable {α : Type} [Scalar α]

/-- Exponential growth is evaluated at no larger input. -/
def exponentialCap : α :=
  25.0

/-- Factorial growth is evaluated at no larger input. -/
def factorialCap : α :=
  12.0

/-- The factorial of the largest whole number up to `size`, which is at most the
factorial cap. -/
def factorialUpTo (size : α) : α :=
  ((List.range' 2 11).map Scalar.ofCount).foldl
    (fun product factor => if Scalar.le factor size then product * factor else product) 1.0

/-- The canonical growth function.  Inputs below one count as one, and the two
fastest classes are evaluated at a capped input, so that values stay finite. -/
def evaluate (growth : GrowthClass) (input : α) : α :=
  let size := Scalar.larger input 1.0
  match growth with
  | const => 1.0
  | log => Scalar.log2 size
  | sqrt => Scalar.sqrt size
  | linear => size
  | linearithmic => size * Scalar.log2 size
  | quadratic => size * size
  | cubic => size * size * size
  | exponential => Scalar.exp2 (Scalar.smaller size exponentialCap)
  | factorial => factorialUpTo (Scalar.smaller size factorialCap)
  | unknown => Scalar.undefined

def evaluateAt (growth : GrowthClass) (size : Nat) : α :=
  growth.evaluate (Scalar.ofCount size)

/-- One for the slowest canonical class, falling in equal steps to zero for the
fastest. -/
def simplicity (growth : GrowthClass) : α :=
  match growth.position? with
  | some position => 1.0 - Scalar.ofCount position / 8.0
  | none => 0.0

end Evaluation

def notationText : GrowthClass → String
  | const => "O(1)"
  | log => "O(log n)"
  | sqrt => "O(sqrt n)"
  | linear => "O(n)"
  | linearithmic => "O(n log n)"
  | quadratic => "O(n^2)"
  | cubic => "O(n^3)"
  | exponential => "O(2^n)"
  | factorial => "O(n!)"
  | unknown => "unknown"

/-- The one-word name, as it stands in configurations and reports. -/
def name : GrowthClass → String
  | const => "const"
  | log => "log"
  | sqrt => "sqrt"
  | linear => "linear"
  | linearithmic => "linearithmic"
  | quadratic => "quadratic"
  | cubic => "cubic"
  | exponential => "exponential"
  | factorial => "factorial"
  | unknown => "unknown"

end GrowthClass

/-! ## Cases -/

/-- The growth classes of the best, the average and the worst case. -/
structure CaseSplit where
  best : GrowthClass
  average : GrowthClass
  worst : GrowthClass
  deriving DecidableEq, Repr, Inhabited

def CaseSplit.uniform (growth : GrowthClass) : CaseSplit :=
  ⟨growth, growth, growth⟩

end GrowthEstimate
