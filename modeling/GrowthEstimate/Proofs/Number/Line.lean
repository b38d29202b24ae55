import GrowthEstimate.Proofs.Number.Interval

/-!
Contract: the line on which the doubles stand, and that a gain never lowers a number on it.

Owns: that rounding never passes a double, the places of doubles, infinities among them, that
doubles compare as their places do, and where packing leaves a number; the laws `GainOrder` and
their consequences, the sum of a number and a gain, and the laws of exact numbers and of doubles.

Does **not** own: how far a sum is from the exact one.
-/

set_option autoImplicit false

namespace GrowthEstimate

/-! ## Places

All doubles that are defined stand on one line of whole numbers, as the multiples of the
least double that they are, with the infinities where the next numbers would stand.  At the
exponent at which a number is kept, a double is a whole number of steps or has a lower
exponent; the former is never passed by rounding to whole steps, and the latter is less than
any number that is not kept in full. -/

namespace Binary64

open Float.Model (UnpackedFloat totalExponent)
open Float.Model.UnpackedFloat

section Rounding

variable {mantissa mantissa' : Nat} {exponent exponent' : Int}

/-! ### Numbers in canonical form -/

theorem quanta_lt_of_exponent_lt (canonical : Canonical mantissa exponent)
    (canonical' : Canonical mantissa' exponent') (below : exponent < exponent') :
    quanta mantissa exponent < quanta mantissa' exponent' := by
  have above := canonical.above
  have full : 2 ^ 52 ≤ mantissa' := canonical'.full.resolve_right (by omega)
  obtain ⟨steps, isSteps⟩ : ∃ steps, steps = (exponent + 1074).toNat := ⟨_, rfl⟩
  have more : steps + 1 ≤ (exponent' + 1074).toNat := by omega
  unfold quanta
  rw [← isSteps]
  calc
    mantissa * 2 ^ steps < 2 ^ 53 * 2 ^ steps :=
      Nat.mul_lt_mul_of_pos_right canonical.fits (Nat.two_pow_pos steps)
    _ = 2 ^ 52 * 2 ^ (steps + 1) := by rw [← Nat.pow_add, ← Nat.pow_add]; congr 1; omega
    _ ≤ mantissa' * 2 ^ (exponent' + 1074).toNat :=
      Nat.mul_le_mul full (Nat.pow_le_pow_right Nat.two_pos more)

/-- Numbers in canonical form compare as the multiples of the least double that they are. -/
theorem quanta_le_iff (canonical : Canonical mantissa exponent)
    (canonical' : Canonical mantissa' exponent') :
    quanta mantissa exponent ≤ quanta mantissa' exponent' ↔
      exponent < exponent' ∨ exponent = exponent' ∧ mantissa ≤ mantissa' := by
  rcases lt_trichotomy exponent exponent' with below | same | above
  · have isLess := quanta_lt_of_exponent_lt canonical canonical' below
    exact ⟨fun _ => Or.inl below, fun _ => isLess.le⟩
  · unfold quanta
    rw [same, Nat.mul_le_mul_right_iff (Nat.two_pow_pos _)]
    simp
  · have isGreater := quanta_lt_of_exponent_lt canonical' canonical above
    omega

/-! ### Rounding -/

/-- A number at a lower exponent. -/
theorem quanta_lowered (mantissa : Nat) (above : -1074 ≤ exponent) (low : exponent ≤ exponent') :
    quanta (mantissa * 2 ^ (exponent' - exponent).toNat) exponent = quanta mantissa exponent' := by
  have reached : exponent' - (exponent' - exponent).toNat = exponent := by omega
  have shifted := quanta_shifted mantissa (above.trans_eq reached.symm)
  rwa [reached] at shifted

/-- At an exponent where a number is not kept in full, it has all the bits that a double has. -/
theorem full_le_quanta (positive : 0 < mantissa) (above : -1074 ≤ exponent)
    (low : exponent ≤ keptExponent mantissa exponent)
    (notLeast : keptExponent mantissa exponent ≠ -1074) :
    quanta (2 ^ 52) (keptExponent mantissa exponent) ≤ quanta mantissa exponent := by
  rw [← quanta_lowered (2 ^ 52) above low, ← Nat.pow_add]
  refine Nat.mul_le_mul_right _ (Nat.le_trans ?_ (Nat.log2_self_le positive.ne'))
  refine Nat.pow_le_pow_right Nat.two_pos ?_
  unfold keptExponent totalExponent at low notLeast ⊢
  omega

/-- A whole number of the steps that are kept is not passed downwards. -/
theorem le_kept {whole : Nat} (above : -1074 ≤ exponent)
    (low : exponent ≤ keptExponent mantissa exponent)
    (atMost : quanta whole (keptExponent mantissa exponent) ≤ quanta mantissa exponent) :
    whole ≤ kept mantissa 1 exponent := by
  rw [← quanta_lowered whole above low] at atMost
  have steps := Nat.le_of_mul_le_mul_right atMost (Nat.two_pow_pos _)
  refine Nat.le_trans ?_ (le_roundedMantissa _ _)
  rw [Nat.div_one, Nat.one_mul]
  exact (Nat.le_div_iff_mul_le (Nat.two_pow_pos _)).mpr steps

/-- A whole number of the steps that are kept is not passed upwards. -/
theorem kept_le_of_le {whole : Nat} (above : -1074 ≤ exponent)
    (low : exponent ≤ keptExponent mantissa exponent)
    (atLeast : quanta mantissa exponent ≤ quanta whole (keptExponent mantissa exponent)) :
    kept mantissa 1 exponent ≤ whole := by
  rw [← quanta_lowered whole above low] at atLeast
  have steps := Nat.le_of_mul_le_mul_right atLeast (Nat.two_pow_pos _)
  unfold kept
  rw [Nat.div_one, Nat.one_mul]
  apply roundedMantissa_le_of_lt
  have positive := Nat.two_pow_pos (keptExponent mantissa exponent - exponent).toNat
  rw [Nat.mul_add, Nat.mul_left_comm, Nat.mul_comm _ whole]
  omega

/-- What is left of a number that was rounded, which lies on the same side of every double. -/
structure RoundedTo (mantissa : Nat) (exponent : Int) (rounded : Nat) (bits : Int) : Prop where
  canonical : Canonical rounded bits
  le_of_le {other : Nat} {bits' : Int} (isDouble : Canonical other bits')
    (atMost : quanta other bits' ≤ quanta mantissa exponent) :
    quanta other bits' ≤ quanta rounded bits
  ge_of_ge {other : Nat} {bits' : Int} (isDouble : Canonical other bits')
    (atLeast : quanta mantissa exponent ≤ quanta other bits') :
    quanta rounded bits ≤ quanta other bits'

/-- A double below the exponent that is kept is less than a number that has all its bits. -/
theorem quanta_lt_full (canonical : Canonical mantissa exponent) (below : exponent < exponent') :
    quanta mantissa exponent < quanta (2 ^ 52) exponent' :=
  quanta_lt_of_exponent_lt canonical
    ⟨canonical.above.trans below.le, by norm_num, Or.inl (Nat.le_refl _)⟩ below

theorem roundWhole_between (positive : 0 < mantissa) (above : -1074 ≤ exponent)
    (low : exponent ≤ keptExponent mantissa exponent) (sign : Sign) :
    ∃ rounded bits isPositive, RoundedTo mantissa exponent rounded bits ∧
      roundWithAccuracy .binary64 sign mantissa exponent .exact =
        .finite sign rounded bits isPositive := by
  obtain ⟨rounded, bits, isPositive, canonical, _, isKept, isFinite⟩ :=
    roundWhole_finite positive above low sign
  have least := le_keptExponent mantissa exponent
  refine ⟨rounded, bits, isPositive, ⟨canonical, ?_, ?_⟩, isFinite⟩
  · intro other bits' isDouble atMost
    rw [isKept]
    rcases lt_or_ge bits' (keptExponent mantissa exponent) with below | reaches
    · have notLeast := (isDouble.above.trans_lt below).ne'
      exact (quanta_lt_full isDouble below).le.trans
        (Nat.mul_le_mul_right _ (le_kept above low (full_le_quanta positive above low notLeast)))
    · rw [← quanta_lowered other least reaches] at atMost ⊢
      exact Nat.mul_le_mul_right _ (le_kept above low atMost)
  · intro other bits' isDouble atLeast
    rw [isKept]
    rcases lt_or_ge bits' (keptExponent mantissa exponent) with below | reaches
    · have notLeast := (isDouble.above.trans_lt below).ne'
      have full := full_le_quanta positive above low notLeast
      exact absurd (full.trans atLeast) (quanta_lt_full isDouble below).not_ge
    · rw [← quanta_lowered other least reaches] at atLeast ⊢
      exact Nat.mul_le_mul_right _ (kept_le_of_le above low atLeast)

/-- A positive number is rounded to one that lies on the same side of every double. -/
theorem round_between (positive : 0 < mantissa) (above : -1074 ≤ exponent) (sign : Sign) :
    ∃ rounded bits isPositive, RoundedTo mantissa exponent rounded bits ∧
      round .binary64 sign mantissa exponent = .finite sign rounded bits isPositive := by
  have least := le_keptExponent mantissa exponent
  obtain ⟨shift, isShift⟩ :
      ∃ shift, shift = (exponent - keptExponent mantissa exponent).toNat := ⟨_, rfl⟩
  have stillAbove : -1074 ≤ exponent - shift := by omega
  have same := quanta_shifted mantissa stillAbove
  obtain ⟨rounded, bits, isPositive, ⟨canonical, lower, upper⟩, isFinite⟩ :=
    roundWhole_between (Nat.mul_pos positive (Nat.two_pow_pos shift)) stillAbove
      (by rw [keptExponent_shifted positive]; omega) sign
  rw [same] at lower upper
  rw [round_eq, ← isShift]
  exact ⟨rounded, bits, isPositive, ⟨canonical, lower, upper⟩, isFinite⟩

end Rounding

/-! ### The line of doubles -/

/-- The infinities stand where the next numbers would stand. -/
@[irreducible] def infinitePlace : Nat :=
  quanta (2 ^ 52) 972

/-- The place of a number on the line, in steps of the least double. -/
def place : UnpackedFloat → Int
  | .finite sign mantissa exponent _ => sign.apply (quanta mantissa exponent)
  | .infinity sign => sign.apply infinitePlace
  | _ => 0

/-- The numbers that a double holds if it is defined. -/
inductive Defined : UnpackedFloat → Prop
  | zero (sign : Sign) : Defined (.zero sign)
  | finite {mantissa : Nat} {exponent : Int} (sign : Sign) (positive : 0 < mantissa)
      (canonical : Canonical mantissa exponent) (inRange : exponent ≤ 971) :
      Defined (.finite sign mantissa exponent positive)
  | infinity (sign : Sign) : Defined (.infinity sign)

theorem defined_of_held {value : Float} (isDefined : Scalar.isNaN value = false) :
    Defined (held value) := by
  change (held value).isNaN = false at isDefined
  have isCanonical : ∀ {sign mantissa exponent positive},
      held value = .finite sign mantissa exponent positive →
        Canonical mantissa exponent ∧ exponent ≤ 971 :=
    canonical_of_unpack
  generalize held value = number at isDefined isCanonical
  cases number with
  | notANumber => contradiction
  | zero sign => exact .zero sign
  | infinity sign => exact .infinity sign
  | finite sign mantissa exponent positive =>
      exact .finite sign positive (isCanonical rfl).1 (isCanonical rfl).2

theorem isNaN_of_defined {value : Float} (isDefined : Defined (held value)) :
    Scalar.isNaN value = false := by
  change (held value).isNaN = false
  generalize held value = number at isDefined
  cases isDefined <;> rfl

section Places

variable {mantissa mantissa' : Nat} {exponent exponent' : Int}

theorem quanta_lt_infinitePlace (canonical : Canonical mantissa exponent)
    (inRange : exponent ≤ 971) : quanta mantissa exponent < infinitePlace := by
  unfold infinitePlace
  exact quanta_lt_full canonical (Int.lt_add_one_of_le inRange)

theorem infinitePlace_pos : 0 < infinitePlace := by
  unfold infinitePlace
  exact quanta_pos (Nat.two_pow_pos 52) 972

theorem place_between (sign : Sign) (positive : 0 < mantissa)
    (canonical : Canonical mantissa exponent) (inRange : exponent ≤ 971) :
    -(infinitePlace : Int) < place (.finite sign mantissa exponent positive) ∧
      place (.finite sign mantissa exponent positive) < infinitePlace := by
  have below := quanta_lt_infinitePlace canonical inRange
  cases sign <;> simp only [place, Sign.apply] <;> omega

theorem infinitePlace_le_quanta (canonical : Canonical mantissa exponent)
    (tooLarge : 971 < exponent) : infinitePlace ≤ quanta mantissa exponent := by
  have full : 2 ^ 52 ≤ mantissa := canonical.full.resolve_right (by omega)
  have isNext : Canonical (2 ^ 52) 972 := ⟨by decide, by decide, Or.inl (Nat.le_refl _)⟩
  unfold infinitePlace
  refine (quanta_le_iff isNext canonical).mpr ?_
  omega

/-- Positive numbers in canonical form compare as their places do. -/
theorem compare_quanta (canonical : Canonical mantissa exponent)
    (canonical' : Canonical mantissa' exponent') :
    (compare exponent exponent').then (compare mantissa mantissa') =
      compare (quanta mantissa exponent : Int) (quanta mantissa' exponent') := by
  rcases lt_trichotomy exponent exponent' with below | same | above
  · have isLess := quanta_lt_of_exponent_lt canonical canonical' below
    rw [Int.compare_eq_lt.mpr below, Int.compare_eq_lt.mpr (Int.ofNat_lt.mpr isLess)]
    rfl
  · have grows {less more : Nat} (isLess : less < more) :
        (quanta less exponent' : Int) < quanta more exponent' :=
      Int.ofNat_lt.mpr (Nat.mul_lt_mul_of_pos_right isLess (Nat.two_pow_pos _))
    rw [Int.compare_eq_eq.mpr same, same]
    rcases lt_trichotomy mantissa mantissa' with less | equal | greater
    · rw [Nat.compare_eq_lt.mpr less, Int.compare_eq_lt.mpr (grows less)]
      rfl
    · rw [Nat.compare_eq_eq.mpr equal, equal, Int.compare_eq_eq.mpr rfl]
      rfl
    · rw [Nat.compare_eq_gt.mpr greater, Int.compare_eq_gt.mpr (grows greater)]
      rfl
  · have isGreater := quanta_lt_of_exponent_lt canonical' canonical above
    rw [Int.compare_eq_gt.mpr above, Int.compare_eq_gt.mpr (Int.ofNat_lt.mpr isGreater)]
    rfl

end Places

theorem compare_neg (left right : Int) : compare (-left) (-right) = (compare left right).swap := by
  rw [Int.compare_swap]
  simp only [Int.compare_eq_ite_lt, neg_lt_neg_iff]

/-- Numbers that are defined compare as their places do. -/
theorem compare_eq_places {left right : UnpackedFloat} (isLeft : Defined left)
    (isRight : Defined right) : left.compare right = some (compare (place left) (place right)) := by
  have less {low high : Int} (isLess : low < high) : some .lt = some (compare low high) :=
    congrArg some (Int.compare_eq_lt.mpr isLess).symm
  have greater {low high : Int} (isLess : low < high) : some .gt = some (compare high low) :=
    congrArg some (Int.compare_eq_gt.mpr isLess).symm
  have equal (both : Int) : some .eq = some (compare both both) :=
    congrArg some (Int.compare_eq_eq.mpr rfl).symm
  have negative {steps : Nat} (someSteps : 0 < steps) : -(steps : Int) < 0 :=
    Int.neg_neg_of_pos (Int.natCast_pos.mpr someSteps)
  have positive {steps : Nat} (someSteps : 0 < steps) : 0 < (steps : Int) :=
    Int.natCast_pos.mpr someSteps
  have apart {steps steps' : Nat} (someSteps : 0 < steps) (someSteps' : 0 < steps') :
      -(steps : Int) < steps' :=
    (negative someSteps).trans (positive someSteps')
  cases isLeft with
  | zero sign =>
      cases isRight with
      | zero sign' => exact equal 0
      | finite sign' someSteps' =>
          cases sign'
          · exact greater (negative (quanta_pos someSteps' _))
          · exact less (positive (quanta_pos someSteps' _))
      | infinity sign' =>
          cases sign'
          · exact greater (negative infinitePlace_pos)
          · exact less (positive infinitePlace_pos)
  | finite sign someSteps canonical inRange =>
      have inside := place_between sign someSteps canonical inRange
      cases isRight with
      | zero sign' =>
          cases sign
          · exact less (negative (quanta_pos someSteps _))
          · exact greater (positive (quanta_pos someSteps _))
      | finite sign' someSteps' canonical' inRange' =>
          have same := compare_quanta canonical canonical'
          cases sign <;> cases sign'
          · exact congrArg some ((congrArg Ordering.swap same).trans (compare_neg _ _).symm)
          · exact less (apart (quanta_pos someSteps _) (quanta_pos someSteps' _))
          · exact greater (apart (quanta_pos someSteps' _) (quanta_pos someSteps _))
          · exact congrArg some same
      | infinity sign' =>
          cases sign'
          · exact greater inside.1
          · exact less inside.2
  | infinity sign =>
      cases isRight with
      | zero sign' =>
          cases sign
          · exact less (negative infinitePlace_pos)
          · exact greater (positive infinitePlace_pos)
      | finite sign' someSteps' canonical' inRange' =>
          have inside := place_between sign' someSteps' canonical' inRange'
          cases sign
          · exact less inside.1
          · exact greater inside.2
      | infinity sign' =>
          cases sign <;> cases sign'
          · exact equal _
          · exact less (apart infinitePlace_pos infinitePlace_pos)
          · exact greater (apart infinitePlace_pos infinitePlace_pos)
          · exact equal _

section Order

variable {left right : Float}

theorem compare_held (isLeft : Scalar.isNaN left = false) (isRight : Scalar.isNaN right = false) :
    (held left).compare (held right) = some (compare (place (held left)) (place (held right))) :=
  compare_eq_places (defined_of_held isLeft) (defined_of_held isRight)

theorem le_iff_place (isLeft : Scalar.isNaN left = false) (isRight : Scalar.isNaN right = false) :
    Scalar.le left right = true ↔ place (held left) ≤ place (held right) := by
  rw [le_iff, UnpackedFloat.le, compare_held isLeft isRight]
  exact Int.isLE_compare

theorem lt_iff_place (isLeft : Scalar.isNaN left = false) (isRight : Scalar.isNaN right = false) :
    Scalar.lt left right = true ↔ place (held left) < place (held right) := by
  rw [lt_iff, UnpackedFloat.lt, compare_held isLeft isRight, beq_iff_eq, Option.some_inj]
  exact Int.compare_eq_lt

/-- Of two numbers that are defined, one is less if and only if the other is not at most
it. -/
theorem lt_iff_not_le (isLeft : Scalar.isNaN left = false) (isRight : Scalar.isNaN right = false) :
    Scalar.lt left right = true ↔ Scalar.le right left = false := by
  rw [lt_iff_place isLeft isRight, ← Bool.not_eq_true, le_iff_place isRight isLeft, not_le]

/-- Nothing is compared to what is undefined. -/
theorem isNaN_of_le (isLE : Scalar.le left right = true) :
    Scalar.isNaN left = false ∧ Scalar.isNaN right = false := by
  rw [le_iff] at isLE
  change (held left).isNaN = false ∧ (held right).isNaN = false
  generalize held left = first, held right = second at isLE
  rcases first with _ | _ | _ | _ <;> rcases second with _ | _ | _ | _ <;>
    first | exact ⟨rfl, rfl⟩ | contradiction

end Order

/-! ### Packing -/

/-- What packing leaves of a number in canonical form stands at its place or, where that is out
of range, at that of an infinity. -/
theorem repack_defined {mantissa : Nat} {exponent : Int} (positive : 0 < mantissa)
    (canonical : Canonical mantissa exponent) (sign : Sign) :
    Defined (repack (.finite sign mantissa exponent positive)) ∧
      place (repack (.finite sign mantissa exponent positive)) =
        sign.apply (min (quanta mantissa exponent) infinitePlace : Nat) := by
  rw [repack_canonical positive canonical]
  split
  · next tooLarge =>
      rw [Nat.min_eq_right (infinitePlace_le_quanta canonical tooLarge)]
      exact ⟨.infinity sign, rfl⟩
  · next inRange =>
      rw [Int.not_lt] at inRange
      rw [Nat.min_eq_left (quanta_lt_infinitePlace canonical inRange).le]
      exact ⟨.finite sign positive canonical inRange, rfl⟩

theorem repack_of_defined {number : UnpackedFloat} (isDefined : Defined number) :
    repack number = number := by
  cases isDefined with
  | zero sign => exact repack_zero sign
  | finite sign positive canonical inRange =>
      rw [repack_canonical positive canonical, if_neg (Int.not_lt.mpr inRange)]
  | infinity sign => exact repack_infinity sign

end Binary64

/-! ## Gains

An exact sum stands between two neighbouring doubles and is rounded to one of these, so a
double that is at most the exact sum is at most the rounded one. -/

/-- The comparisons are one total order on the numbers that are defined, and a finite number
is not lowered by what is added to it unless that is negative. -/
class GainOrder (α : Type) [Scalar α] : Prop where
  isNaN_of_isFinite {value : α} : Scalar.isFinite value = true → Scalar.isNaN value = false
  isNaN_of_le {left right : α} : Scalar.le left right = true →
    Scalar.isNaN left = false ∧ Scalar.isNaN right = false
  le_total {left right : α} : Scalar.isNaN left = false → Scalar.isNaN right = false →
    Scalar.le left right = true ∨ Scalar.le right left = true
  le_trans {left middle right : α} : Scalar.le left middle = true →
    Scalar.le middle right = true → Scalar.le left right = true
  lt_iff_not_le {left right : α} : Scalar.isNaN left = false → Scalar.isNaN right = false →
    (Scalar.lt left right = true ↔ Scalar.le right left = false)
  le_add {value gain : α} : Scalar.isFinite value = true → Scalar.isFinite gain = true →
    Scalar.le 0.0 gain = true → Scalar.le value (value + gain) = true
  power_gain {places : Nat} : places ≤ 12 →
    Scalar.isFinite (OfScientific.ofScientific 1 true places : α) = true ∧
      Scalar.le 0.0 (OfScientific.ofScientific 1 true places : α) = true

namespace GainOrder

variable {α : Type} [Scalar α] [GainOrder α] {left right : α}

theorem le_of_lt (isLeft : Scalar.isNaN left = false) (isRight : Scalar.isNaN right = false)
    (isLess : Scalar.lt left right = true) : Scalar.le left right = true := by
  have notLE := (lt_iff_not_le isLeft isRight).mp isLess
  refine (le_total isLeft isRight).resolve_right ?_
  rw [notLE]
  exact Bool.false_ne_true

end GainOrder

instance : GainOrder ℝ where
  isNaN_of_isFinite _ := rfl
  isNaN_of_le _ := ⟨rfl, rfl⟩
  le_total {left right} _ _ := by
    rw [Exact.le_iff, Exact.le_iff]
    exact le_total left right
  le_trans first second := by
    rw [Exact.le_iff] at *
    exact first.trans second
  lt_iff_not_le _ _ := by
    rw [← Bool.not_eq_true, Exact.lt_iff, Exact.le_iff, not_le]
  le_add _ _ nonNegative := by
    rw [Exact.nonNegative_iff] at nonNegative
    rw [Exact.le_iff]
    exact le_add_of_nonneg_right nonNegative
  power_gain {places} _ := by
    rw [Exact.nonNegative_iff, Exact.literal_eq]
    exact ⟨rfl, by positivity⟩

/-! ### Doubles -/

namespace Binary64

open Float.Model (UnpackedFloat)
open Float.Model.UnpackedFloat

/-- A result is defined and does not stand below a number. -/
structure NotLower (number result : UnpackedFloat) : Prop where
  isDefined : Defined result
  atMost : place number ≤ place result

/-- A double that is at most a number is at most the rounded number. -/
theorem round_notLower {number : UnpackedFloat} (isDefined : Defined number)
    (isFinite : number.isFinite = true) {mantissa : Nat} {exponent : Int}
    (positive : 0 < mantissa) (above : -1074 ≤ exponent) {sign : Sign}
    (atMost : place number ≤ sign.apply (quanta mantissa exponent)) :
    NotLower number (repack (round .binary64 sign mantissa exponent)) := by
  obtain ⟨rounded, bits, isPositive, sides, isRounded⟩ := round_between positive above sign
  obtain ⟨packed, isPlace⟩ := repack_defined isPositive sides.canonical sign
  have someSteps := quanta_pos positive exponent
  rw [isRounded]
  refine ⟨packed, ?_⟩
  rw [isPlace]
  cases isDefined with
  | zero otherSign =>
      cases sign
      · simp only [place, Sign.apply] at atMost
        omega
      · exact Int.natCast_nonneg _
  | finite otherSign positive' canonical inRange =>
      -- only numbers of one sign are compared by their distances from zero
      cases sign <;> cases otherSign <;> simp only [place, Sign.apply] at atMost ⊢
      · have atLeast := sides.ge_of_ge canonical (by omega)
        omega
      · omega
      · omega
      · have notMore := sides.le_of_le canonical (Int.ofNat_le.mp atMost)
        have below := quanta_lt_infinitePlace canonical inRange
        omega
  | infinity otherSign => contradiction

/-- A double that is at most an exact total is at most the rounded one. -/
theorem normalize_notLower {number : UnpackedFloat} (isDefined : Defined number)
    (isFinite : number.isFinite = true) {total exponent : Int} (above : -1074 ≤ exponent)
    (atMost : place number ≤ total * 2 ^ (exponent + 1074).toNat) (zeroSign : Sign) :
    NotLower number (repack (UnpackedFloat.normalize .binary64 total exponent zeroSign)) := by
  have size (mantissa : Nat) :
      (mantissa : Int) * 2 ^ (exponent + 1074).toNat = quanta mantissa exponent := by
    rw [quanta]
    push_cast
    rfl
  unfold UnpackedFloat.normalize
  rcases lt_trichotomy total 0 with below | isZero | positive
  · obtain ⟨mantissa, isMantissa⟩ := Int.eq_ofNat_of_zero_le (Int.neg_nonneg_of_nonpos below.le)
    rw [← Int.neg_neg total, isMantissa, Int.neg_mul, size] at atMost
    rw [Int.compare_eq_lt.mpr below, isMantissa, Int.toNat_natCast]
    exact round_notLower isDefined isFinite (by omega) above atMost
  · rw [isZero, Int.zero_mul] at atMost
    rw [Int.compare_eq_eq.mpr isZero, repack_zero]
    exact ⟨.zero zeroSign, atMost⟩
  · obtain ⟨mantissa, rfl⟩ := Int.eq_ofNat_of_zero_le positive.le
    rw [size] at atMost
    rw [Int.compare_eq_gt.mpr positive, Int.toNat_natCast]
    exact round_notLower isDefined isFinite (Int.natCast_pos.mp positive) above atMost

/-- A number that is written at a lower exponent stays at its place. -/
theorem aligned_place {sign : Sign} {mantissa : Nat} {exponent low : Int} (positive : 0 < mantissa)
    (above : -1074 ≤ low) (lower : low ≤ exponent) :
    sign.apply (mantissa <<< (exponent - low).toNat : Nat) * 2 ^ (low + 1074).toNat =
      place (.finite sign mantissa exponent positive) := by
  have steps : ((mantissa <<< (exponent - low).toNat : Nat) : Int) * 2 ^ (low + 1074).toNat =
      quanta mantissa exponent := by
    rw [← quanta_lowered mantissa above lower, Nat.shiftLeft_eq, quanta]
    push_cast
    rfl
  cases sign
  · simp only [place, Sign.apply, Int.neg_mul, steps]
  · exact steps

theorem add_notLower {left right : UnpackedFloat} (isLeft : Defined left)
    (leftFinite : left.isFinite = true) (isRight : Defined right)
    (rightFinite : right.isFinite = true) (nonNegative : 0 ≤ place right) :
    NotLower left (repack (add .binary64 left right)) := by
  cases isLeft with
  | zero sign =>
      cases isRight with
      | zero sign' => cases sign <;> cases sign' <;> exact ⟨.zero _, le_refl 0⟩
      | finite sign' positive' canonical' inRange' =>
          have isDefined := Defined.finite sign' positive' canonical' inRange'
          change NotLower _ (repack (.finite _ _ _ _))
          rw [repack_of_defined isDefined]
          exact ⟨isDefined, nonNegative⟩
      | infinity sign' => contradiction
  | @finite mantissa exponent sign positive canonical inRange =>
      have isDefined := Defined.finite sign positive canonical inRange
      cases isRight with
      | zero sign' =>
          change NotLower _ (repack (.finite _ _ _ _))
          rw [repack_of_defined isDefined]
          exact ⟨isDefined, le_refl _⟩
      | @finite mantissa' exponent' sign' positive' canonical' inRange' =>
          have above := canonical.above
          have above' := canonical'.above
          refine normalize_notLower isDefined rfl (le_min above above') ?_ .positive
          rw [Int.add_mul, aligned_place positive (le_min above above') (min_le_left _ _),
            aligned_place positive' (le_min above above') (min_le_right _ _)]
          exact Int.le_add_of_nonneg_right nonNegative
      | infinity sign' => contradiction
  | infinity sign => contradiction

theorem isNaN_of_isFinite {value : Float} (isFinite : Scalar.isFinite value = true) :
    Scalar.isNaN value = false := by
  change (held value).isFinite = true at isFinite
  change (held value).isNaN = false
  generalize held value = number at isFinite
  cases number <;> first | rfl | contradiction

theorem held_add_notLower {value gain : Float} (isFinite : Scalar.isFinite value = true)
    (gainFinite : Scalar.isFinite gain = true) (nonNegative : Scalar.le 0.0 gain = true) :
    NotLower (held value) (held (value + gain)) := by
  have isGain := isNaN_of_isFinite gainFinite
  rw [le_iff_place rfl isGain, held_zero] at nonNegative
  rw [held_add]
  exact add_notLower (defined_of_held (isNaN_of_isFinite isFinite)) isFinite
    (defined_of_held isGain) gainFinite nonNegative

/-- The powers of a tenth are finite and not negative. -/
theorem power_gain : ∀ places < 13,
    Scalar.isFinite (OfScientific.ofScientific 1 true places : Float) = true ∧
      Scalar.le 0.0 (OfScientific.ofScientific 1 true places : Float) = true := by
  decide +kernel

instance : GainOrder Float where
  isNaN_of_isFinite := isNaN_of_isFinite
  isNaN_of_le := isNaN_of_le
  le_total isLeft isRight := by
    rw [le_iff_place isLeft isRight, le_iff_place isRight isLeft]
    exact Int.le_total _ _
  le_trans first second := by
    have ⟨isLeft, isMiddle⟩ := isNaN_of_le first
    have ⟨_, isRight⟩ := isNaN_of_le second
    rw [le_iff_place isLeft isMiddle] at first
    rw [le_iff_place isMiddle isRight] at second
    rw [le_iff_place isLeft isRight]
    exact first.trans second
  lt_iff_not_le := lt_iff_not_le
  le_add isFinite gainFinite nonNegative := by
    have notLower := held_add_notLower isFinite gainFinite nonNegative
    rw [le_iff_place (isNaN_of_isFinite isFinite) (isNaN_of_defined notLower.isDefined)]
    exact notLower.atMost
  power_gain few := power_gain _ (Nat.lt_succ_of_le few)

end Binary64

end GrowthEstimate
