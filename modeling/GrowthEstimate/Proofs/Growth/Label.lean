import GrowthEstimate.Growth.Label
import GrowthEstimate.Proofs.Text.Lines

/-!
Contract: what a free-form label is read as.

Owns: that the key of a label decides whether it is read and as which class, what becomes of a
label inside of `O(…)`, and that every class is read back from its notation.

Only one wrapping is taken off a key, and no spelling is wrapped.  So a label that is wrapped
already is refused inside of a second wrapping, whatever it is read as alone.
-/

set_option autoImplicit false

namespace GrowthEstimate

/-! ## Keys -/

namespace Text

/-- A character is its own lower-case form, unless it is a capital. -/
theorem lowerAscii_cases (char : Char) :
    lowerAscii char = char ∨ ∃ code ∈ List.range' 65 26, char = Char.ofNat code := by
  by_cases isCapital : 'A' ≤ char ∧ char ≤ 'Z'
  · have atLeast : 65 ≤ char.toNat := isCapital.1
    have atMost : char.toNat ≤ 90 := isCapital.2
    exact Or.inr ⟨char.toNat, List.mem_range'_1.mpr ⟨atLeast, by omega⟩,
      (Char.ofNat_toNat char).symm⟩
  · left
    simpa [lowerAscii] using fun low high => absurd ⟨low, high⟩ isCapital

theorem lowerAscii_lowerAscii (char : Char) : lowerAscii (lowerAscii char) = lowerAscii char := by
  have capitals : ∀ code ∈ List.range' 65 26,
      lowerAscii (lowerAscii (Char.ofNat code)) = lowerAscii (Char.ofNat code) := by
    decide
  rcases lowerAscii_cases char with isKept | ⟨code, isCode, rfl⟩
  · rw [isKept, isKept]
  · exact capitals code isCode

end Text

namespace GrowthClass

/-- The characters that a key leaves out of a label. -/
def isLeftOut (char : Char) : Bool :=
  Text.isSpace char || char == '*' || char == '·'

theorem isLeftOut_lowerAscii (char : Char) : isLeftOut (Text.lowerAscii char) = isLeftOut char := by
  have capitals : ∀ code ∈ List.range' 65 26,
      isLeftOut (Text.lowerAscii (Char.ofNat code)) = isLeftOut (Char.ofNat code) := by
    decide
  rcases Text.lowerAscii_cases char with isKept | ⟨code, isCode, rfl⟩
  · rw [isKept]
  · exact capitals code isCode

theorem labelKey_cons (char : Char) (label : List Char) :
    labelKey (char :: label) =
      if isLeftOut char then labelKey label else Text.lowerAscii char :: labelKey label := by
  have isKey : labelKey (char :: label) =
      if !isLeftOut (Text.lowerAscii char) then Text.lowerAscii char :: labelKey label
      else labelKey label :=
    List.filter_cons
  rw [isKey, isLeftOut_lowerAscii]
  cases isLeftOut char <;> rfl

/-- Two labels that differ in the case of ASCII letters and in characters that keys leave out, and
in nothing else. -/
inductive SameSpelling : List Char → List Char → Prop where
  | nil : SameSpelling [] []
  | both {char other : Char} {label more : List Char}
      (sameLetter : Text.lowerAscii char = Text.lowerAscii other)
      (rest : SameSpelling label more) : SameSpelling (char :: label) (other :: more)
  | left {char : Char} {label more : List Char} (leftOut : isLeftOut char = true)
      (rest : SameSpelling label more) : SameSpelling (char :: label) more
  | right {other : Char} {label more : List Char} (leftOut : isLeftOut other = true)
      (rest : SameSpelling label more) : SameSpelling label (other :: more)

theorem SameSpelling.labelKey_eq {label other : List Char} (same : SameSpelling label other) :
    labelKey label = labelKey other := by
  induction same with
  | nil => rfl
  | both sameLetter _ ofRest =>
      rw [labelKey_cons, labelKey_cons, ofRest, ← isLeftOut_lowerAscii, sameLetter,
        isLeftOut_lowerAscii]
  | left leftOut _ ofRest => rw [labelKey_cons, if_pos leftOut, ofRest]
  | right leftOut _ ofRest => rw [labelKey_cons, if_pos leftOut, ofRest]

/-- Labels have the same key just if they are spelled alike. -/
theorem labelKey_eq_iff {label other : List Char} :
    labelKey label = labelKey other ↔ SameSpelling label other := by
  refine ⟨fun sameKey => ?_, SameSpelling.labelKey_eq⟩
  induction label generalizing other with
  | nil =>
      induction other with
      | nil => exact .nil
      | cons behind more ofMore =>
          rw [labelKey_cons] at sameKey
          split at sameKey
          · next leftOut => exact .right leftOut (ofMore sameKey)
          · contradiction
  | cons char label ofLabel =>
      rw [labelKey_cons] at sameKey
      split at sameKey
      · next leftOut => exact .left leftOut (ofLabel sameKey)
      · -- The first character that the other key keeps is this letter.
        induction other with
        | nil => contradiction
        | cons behind more ofMore =>
            rw [labelKey_cons behind] at sameKey
            split at sameKey
            · next leftOut => exact .right leftOut (ofMore sameKey)
            · obtain ⟨sameLetter, sameRest⟩ := List.cons.inj sameKey
              exact .both sameLetter (ofLabel sameRest)

theorem labelKey_append (label more : List Char) :
    labelKey (label ++ more) = labelKey label ++ labelKey more := by
  unfold labelKey Text.lower
  rw [List.map_append, List.filter_append]

/-- A key is its own key: it has no capitals and nothing that is left out of keys. -/
theorem labelKey_labelKey (label : List Char) : labelKey (labelKey label) = labelKey label := by
  have isLower : ∀ char ∈ labelKey label, Text.lowerAscii char = char := by
    intro char member
    obtain ⟨original, _, rfl⟩ := List.mem_map.mp (List.mem_filter.mp member).1
    exact Text.lowerAscii_lowerAscii original
  have lowered : Text.lower (labelKey label) = labelKey label :=
    (List.map_congr_left isLower).trans (List.map_id _)
  rw [labelKey, lowered]
  exact List.filter_eq_self.mpr fun char member => (List.mem_filter.mp member).2

theorem ofLabel?_labelKey (label : List Char) : ofLabel? (labelKey label) = ofLabel? label := by
  unfold ofLabel?
  rw [labelKey_labelKey]

/-! ## Wrappings -/

def wrappings : List (List Char) :=
  ["o(".toList, "θ(".toList]

theorem mem_wrappings {opening : List Char} :
    opening ∈ wrappings ↔ opening = "o(".toList ∨ opening = "θ(".toList := by
  rw [wrappings, List.mem_cons, List.mem_singleton]

/-- A key of the form `o(…)` or `θ(…)`. -/
def IsWrapped (key : List Char) : Prop :=
  ∃ opening ∈ wrappings, ∃ argument, key = opening ++ (argument ++ [')'])

theorem labelArgument_wrapped {opening : List Char} (isOpening : opening ∈ wrappings)
    (argument : List Char) : labelArgument (opening ++ (argument ++ [')'])) = argument := by
  have opens : Text.stripFront opening (opening ++ (argument ++ [')']))
      = some (argument ++ [')']) :=
    Text.stripFront_eq_some_iff.mpr rfl
  have closes : Text.stripBack [')'] (argument ++ [')']) = some argument :=
    Text.stripBack_eq_some_iff.mpr rfl
  rcases mem_wrappings.mp isOpening with rfl | rfl
  · simp only [labelArgument, opens, closes, Option.getD_some]
  · have isOther : Text.stripFront "o(".toList ("θ(".toList ++ (argument ++ [')'])) = none := rfl
    simp only [labelArgument, isOther, opens, closes, Option.getD_some]

theorem labelArgument_bare {key : List Char} (bare : ¬IsWrapped key) : labelArgument key = key := by
  have notClosed : ∀ opening ∈ wrappings, ∀ rest, Text.stripFront opening key = some rest →
      Text.stripBack [')'] rest = none := by
    intro opening isOpening rest opens
    refine Option.eq_none_iff_forall_ne_some.mpr fun argument closes => bare ?_
    refine ⟨opening, isOpening, argument, ?_⟩
    rw [← Text.stripBack_eq_some_iff.mp closes]
    exact Text.stripFront_eq_some_iff.mp opens
  unfold labelArgument
  simp only
  split
  · rfl
  · next rest opens =>
    have isOpened : ∃ opening ∈ wrappings, Text.stripFront opening key = some rest := by
      split at opens
      · next front => exact ⟨_, mem_wrappings.mpr (Or.inl rfl), front.trans opens⟩
      · exact ⟨_, mem_wrappings.mpr (Or.inr rfl), opens⟩
    obtain ⟨opening, isOpening, front⟩ := isOpened
    rw [notClosed opening isOpening rest front, Option.getD_none]

theorem isWrapped_iff {key : List Char} : IsWrapped key ↔ labelArgument key ≠ key := by
  constructor
  · rintro ⟨opening, isOpening, argument, rfl⟩ unchanged
    rw [labelArgument_wrapped isOpening] at unchanged
    have sameLength := congrArg List.length unchanged
    simp only [List.length_append, List.length_singleton] at sameLength
    omega
  · exact fun changed => Classical.byContradiction fun bare => changed (labelArgument_bare bare)

instance (key : List Char) : Decidable (IsWrapped key) :=
  decidable_of_iff (labelArgument key ≠ key) isWrapped_iff.symm

/-- No spelling is wrapped. -/
theorem ofSpelling?_wrapped {key : List Char} (wrapped : IsWrapped key) :
    ofSpelling? key = none := by
  have bareSpellings : ∀ growth ∈ canonical ++ [unknown], ∀ spelling ∈ growth.spellings,
      ¬IsWrapped spelling.toList := by
    decide
  refine List.find?_eq_none.mpr fun growth member isSpelled => ?_
  obtain ⟨spelling, isSpelling, sameKey⟩ := List.any_eq_true.mp isSpelled
  rw [← eq_of_beq sameKey] at wrapped
  exact bareSpellings growth member spelling isSpelling wrapped

/-! ## Labels -/

theorem toOption_readLabel (label : List Char) : (readLabel label).toOption = ofLabel? label := by
  unfold readLabel
  cases ofLabel? label <;> rfl

/-- Inside of `O(…)` a label is read as its key is spelled. -/
theorem ofLabel?_inWrapping (label : List Char) :
    ofLabel? ("O(".toList ++ (label ++ [')'])) = ofSpelling? (labelKey label) := by
  have wrappedKey : labelKey ("O(".toList ++ (label ++ [')']))
      = "o(".toList ++ (labelKey label ++ [')']) := by
    rw [labelKey_append, labelKey_append]
    rfl
  rw [ofLabel?, wrappedKey, labelArgument_wrapped (mem_wrappings.mpr (Or.inl rfl))]

/-- A label is read by its key, which tells apart labels that differ in more than the case of ASCII
letters, blanks, asterisks and middle dots.  The key decides whether the label is read and as which
class; only the complaint about a label that is not read quotes more than its key.  A label is read
inside of `O(…)` as it is alone if its key is not wrapped already, and is refused there if it is.
Every class is read back from its notation. -/
theorem readLabel_decidedByKey :
    (∀ label other, labelKey label = labelKey other ↔ SameSpelling label other) ∧
    (∀ label other, labelKey label = labelKey other →
      (readLabel label).toOption = (readLabel other).toOption) ∧
    (∀ label, (readLabel (labelKey label)).toOption = (readLabel label).toOption) ∧
    (∀ label, ¬IsWrapped (labelKey label) →
      (readLabel ("O(".toList ++ (label ++ [')']))).toOption = (readLabel label).toOption) ∧
    (∀ label, IsWrapped (labelKey label) →
      (readLabel ("O(".toList ++ (label ++ [')']))).toOption = none) ∧
    ∀ growth : GrowthClass, readLabel growth.notationText.toList = .ok growth := by
  simp only [toOption_readLabel]
  refine ⟨fun _ _ => labelKey_eq_iff, fun label other sameKey => ?_, ofLabel?_labelKey,
    fun label bare => ?_, fun label wrapped => ?_, fun growth => ?_⟩
  · rw [← ofLabel?_labelKey label, sameKey, ofLabel?_labelKey]
  · rw [ofLabel?_inWrapping, ofLabel?, labelArgument_bare bare]
  · rw [ofLabel?_inWrapping, ofSpelling?_wrapped wrapped]
  · cases growth <;> rfl

/-- A product in two styles, a call inside of a wrapping, and a wrapping inside of another. -/
theorem readLabel_decidedByKey_logarithms :
    let read (label : String) := (readLabel label.toList).toOption
    read "N * log n" = read "n·LOG\tN" ∧ read "O( Log (n) )" = some .log ∧
      read "θ(n)" = some .linear ∧ read "O(θ(n))" = none := by
  intro read
  obtain ⟨_, sameKey, _, bare, wrapped, _⟩ := readLabel_decidedByKey
  have notWrapped : ¬IsWrapped (labelKey " Log (n) ".toList) := by decide
  have isWrapped : IsWrapped (labelKey "θ(n)".toList) := by decide
  exact ⟨sameKey _ _ rfl, bare _ notWrapped, rfl, wrapped _ isWrapped⟩

end GrowthClass

end GrowthEstimate
