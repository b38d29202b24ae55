import GrowthEstimate.Text.Pattern
import Mathlib.Data.List.Basic

/-!
Contract: texts in which a pattern does not occur.

Owns: that a matcher only moves forward, that it fails where all that comes after fails, and
the characters that a pattern cannot do without.

Does **not** own: what is captured, and which of several occurrences is found.

What comes after a part is a function, so the statements are about all such functions.  A
part that fails does so whatever comes after it, and a part that does not fail by itself
fails if what comes after fails at every place that the part can reach.
-/

set_option autoImplicit false

namespace GrowthEstimate.Text.Pattern

/-! ## Places -/

namespace Place

theorem step?_rest {accepts : Char → Bool} {place after : Place}
    (stepped : place.step? accepts = some after) :
    ∃ char, accepts char = true ∧ place.rest = char :: after.rest := by
  obtain ⟨before, rest, remaining⟩ := place
  cases rest with
  | nil => contradiction
  | cons char rest =>
      rw [step?] at stepped
      split at stepped
      · next accepted =>
          rw [← Option.some.inj stepped]
          exact ⟨char, accepted, rfl⟩
      · contradiction

/-- A fragment is skipped only if it stands there. -/
theorem skip?_rest {fragment : List Char} {place after : Place}
    (skipped : place.skip? fragment = some after) : place.rest = fragment ++ after.rest := by
  induction fragment generalizing place with
  | nil => rw [Option.some.inj skipped, List.nil_append]
  | cons expected fragment inductionHypothesis =>
      unfold skip? at skipped
      split at skipped
      · contradiction
      · next next stepped =>
          obtain ⟨char, isExpected, isRest⟩ := step?_rest stepped
          rw [isRest, inductionHypothesis skipped, beq_iff_eq.mp isExpected, List.cons_append]

theorem mem_spread {accepts : Char → Bool} {rest : List Char} {before : Option Char}
    {remaining : Nat} {found : List Place} {after : Place}
    (member : after ∈ spread accepts rest before remaining found) :
    after.rest <:+ rest ∨ after ∈ found := by
  induction rest generalizing before remaining found with
  | nil =>
      rcases List.mem_cons.mp member with rfl | isFound
      · exact Or.inl List.suffix_rfl
      · exact Or.inr isFound
  | cons char rest inductionHypothesis =>
      have here {place : Place} (isHere : place ∈ ⟨before, char :: rest, remaining⟩ :: found) :
          place.rest <:+ char :: rest ∨ place ∈ found := by
        rcases List.mem_cons.mp isHere with rfl | isFound
        · exact Or.inl List.suffix_rfl
        · exact Or.inr isFound
      unfold spread at member
      simp only at member
      split at member
      · rcases inductionHypothesis member with isLater | isFound
        · exact Or.inl (isLater.trans (List.suffix_cons char rest))
        · exact here isFound
      · exact here member

theorem reached_suffix {accepts : Char → Bool} {place after : Place}
    (member : after ∈ place.reached accepts) : after.rest <:+ place.rest := by
  rcases mem_spread member with isLater | isFound
  · exact isLater
  · exact absurd isFound List.not_mem_nil

end Place

/-! ## Where all that comes after fails -/

/-- What comes after fails at every place from here on. -/
def FailsBehind (place : Place) (next : Continuation) : Prop :=
  ∀ (after : Place) (kept : Kept), after.rest <:+ place.rest → next after kept = none

theorem FailsBehind.here {place : Place} {next : Continuation} (fails : FailsBehind place next)
    (kept : Kept) : next place kept = none :=
  fails place kept List.suffix_rfl

theorem FailsBehind.later {place after : Place} {next : Continuation}
    (fails : FailsBehind place next) (isLater : after.rest <:+ place.rest) :
    FailsBehind after next :=
  fun further kept isFurther => fails further kept (isFurther.trans isLater)

theorem roundsOf_eq_none {body : Place → Kept → Continuation → Option Occurrence}
    (bodyFails : ∀ place kept next, FailsBehind place next → body place kept next = none)
    (bound : Nat) {place : Place} (kept : Kept) {next : Continuation}
    (fails : FailsBehind place next) : roundsOf body bound place kept next = none := by
  induction bound generalizing place kept with
  | zero => exact fails.here kept
  | succ bound inductionHypothesis =>
      have oneMore : FailsBehind place fun after afterKept =>
          if after.remaining < place.remaining then roundsOf body bound after afterKept next
          else none := by
        intro after afterKept isLater
        simp only
        split
        · exact inductionHypothesis afterKept (fails.later isLater)
        · rfl
      rw [roundsOf, bodyFails place kept _ oneMore]
      exact fails.here kept

/-- A pattern does not match where all that comes after it fails. -/
theorem matchAt_eq_none_of_fails (pattern : Pattern) {place : Place} (kept : Kept)
    {next : Continuation} (fails : FailsBehind place next) :
    pattern.matchAt place kept next = none := by
  induction pattern generalizing place kept next with
  | empty => exact fails.here kept
  | exactly fragment =>
      unfold matchAt
      split
      · rfl
      · next after skipped =>
          exact fails after kept ⟨fragment, (Place.skip?_rest skipped).symm⟩
  | one accepts =>
      unfold matchAt
      split
      · rfl
      · next after stepped =>
          obtain ⟨char, _, isRest⟩ := Place.step?_rest stepped
          exact fails after kept ⟨[char], isRest.symm⟩
  | run accepts greedy =>
      unfold matchAt
      simp only [List.findSome?_eq_none_iff]
      intro after member
      have isReached : after ∈ place.reached accepts := by
        cases greedy <;> simpa using member
      exact fails after kept (Place.reached_suffix isReached)
  | both first second firstFails secondFails =>
      exact firstFails kept fun after afterKept isLater =>
        secondFails afterKept (fails.later isLater)
  | either first second firstFails secondFails =>
      rw [matchAt, firstFails kept fails]
      exact secondFails kept fails
  | rounds body bodyFails =>
      exact roundsOf_eq_none (fun _ kept _ fails => bodyFails kept fails) _ kept fails
  | keep slot body bodyFails =>
      exact bodyFails kept fun after afterKept isLater => fails after _ isLater
  | wordEdge | start | finish =>
      unfold matchAt
      split
      · exact fails.here kept
      · rfl

/-! ## Characters that a pattern cannot do without -/

/-- Whether every occurrence of the pattern holds the character, as a fragment shows. -/
def needs (char : Char) : Pattern → Bool
  | exactly fragment => fragment.contains char
  | both first second => first.needs char || second.needs char
  | either first second => first.needs char && second.needs char
  | keep _ body => body.needs char
  | _ => false

theorem matchAt_eq_none_of_needs {char : Char} {pattern : Pattern}
    (needed : pattern.needs char = true) {place : Place} (absent : char ∉ place.rest)
    (kept : Kept) (next : Continuation) : pattern.matchAt place kept next = none := by
  induction pattern generalizing place kept next with
  | exactly fragment =>
      unfold matchAt
      split
      · rfl
      · next after skipped =>
          have isThere : char ∈ place.rest := by
            rw [Place.skip?_rest skipped]
            exact List.mem_append_left _ (List.contains_iff_mem.mp needed)
          contradiction
  | both first second firstFails secondFails =>
      rcases Bool.or_eq_true_iff.mp needed with byFirst | bySecond
      · exact firstFails byFirst absent kept _
      · apply matchAt_eq_none_of_fails first kept
        intro after afterKept isLater
        exact secondFails bySecond (fun isThere => absent (isLater.subset isThere)) afterKept next
  | either first second firstFails secondFails =>
      obtain ⟨byFirst, bySecond⟩ := Bool.and_eq_true_iff.mp needed
      rw [matchAt, firstFails byFirst absent kept next]
      exact secondFails bySecond absent kept next
  | keep slot body bodyFails => exact bodyFails needed absent kept _
  | empty | one | run | rounds | wordEdge | start | finish => contradiction

theorem findFrom_eq_none_of_needs {char : Char} {pattern : Pattern}
    (needed : pattern.needs char = true) {text : List Char} (absent : char ∉ text)
    (before : Option Char) (remaining : Nat) : pattern.findFrom text before remaining = none := by
  induction text generalizing before remaining with
  | nil => exact matchAt_eq_none_of_needs needed absent _ _
  | cons head rest inductionHypothesis =>
      have absentLater : char ∉ rest := fun isThere => absent (List.mem_cons_of_mem head isThere)
      rw [findFrom, matchAt_eq_none_of_needs needed absent]
      exact inductionHypothesis absentLater _ _

/-- A pattern does not occur in a text without a character that it needs. -/
theorem occursIn_eq_false_of_needs {char : Char} {pattern : Pattern}
    (needed : pattern.needs char = true) {text : List Char} (absent : char ∉ text) :
    pattern.occursIn text = false := by
  unfold occursIn find?
  split
  · rw [matchAt_eq_none_of_needs needed absent]
    rfl
  · rw [findFrom_eq_none_of_needs needed absent]
    rfl

end GrowthEstimate.Text.Pattern
