import Mathlib.Data.List.Range
import Mathlib.Data.List.TakeWhile
import Mathlib.Order.Monotone.Basic
import GrowthEstimate.Proofs.Source.Extent
import GrowthEstimate.Proofs.Text.Lines
import GrowthEstimate.Source.Normalized

/-!
Contract: the numbers of the lines of a source, and sources with empty lines put in.

Owns: the statement that lines are numbered one after another, and the numbering of a normalized
text; lines with empty ones put in and the numbers that lines have then, code lines with blank ones
put in, and that a source with empty lines put in is normalized to its code lines with blank ones
put in; how far blocks reach in both.

Does **not** own: blocks that are never closed, whose extents follow the limit and not the code.
-/

set_option autoImplicit false

namespace GrowthEstimate

open Text

/-! ## Numbers of lines -/

/-- The lines are numbered one after another, beginning with `first`. -/
def NumberedFrom (first : Nat) (lines : List CodeLine) : Prop :=
  lines.map CodeLine.number = List.range' first lines.length

namespace NumberedFrom

variable {first : Nat} {line : CodeLine} {lines rest : List CodeLine}

theorem cons_iff :
    NumberedFrom first (line :: rest) ↔
      line.number = first ∧ NumberedFrom (first + 1) rest := by
  simp [NumberedFrom, List.range'_succ]

theorem take (numbered : NumberedFrom first lines) (count : Nat) :
    NumberedFrom first (lines.take count) := by
  unfold NumberedFrom
  rw [List.map_take, numbered, List.length_take]
  rcases Nat.le_total count lines.length with fits | exceeds
  · rw [List.take_range'_of_length_ge fits, Nat.min_eq_left fits]
  · rw [List.take_range'_of_length_le exceeds, Nat.min_eq_right exceeds]

theorem drop (numbered : NumberedFrom first lines) (count : Nat) :
    NumberedFrom (first + count) (lines.drop count) := by
  unfold NumberedFrom
  rw [List.map_drop, numbered, List.drop_range', List.length_drop, Nat.mul_one]

theorem getLast?_number (numbered : NumberedFrom first lines) :
    lines.getLast?.map CodeLine.number =
      if lines.length = 0 then none else some (first + lines.length - 1) := by
  rw [← List.getLast?_map, numbered, List.getLast?_range']

end NumberedFrom

namespace NormalizedSource

theorem codeLinesFrom_numbers (syntax_ : CommentSyntax) (state : StripState) (number : Nat)
    (done : List CodeLine) (raws : List (List Char)) :
    (codeLinesFrom syntax_ state number done raws).map CodeLine.number =
      done.reverse.map CodeLine.number ++ List.range' number raws.length := by
  induction raws generalizing state number done with
  | nil => simp [codeLinesFrom]
  | cons raw rest inductionHypothesis =>
      simp only [codeLinesFrom]
      rw [inductionHypothesis]
      simp [List.range'_succ]

theorem ofText_lines_length (text : List Char) :
    (ofText text).lines.length = (Text.lines text).length := by
  have numbers :=
    congrArg List.length
      (codeLinesFrom_numbers (CommentSyntax.detect text) .code 1 [] (Text.lines text))
  simpa [ofText] using numbers

/-- The lines of a normalized text are numbered from one on. -/
theorem ofText_numbered (text : List Char) : NumberedFrom 1 (ofText text).lines := by
  have numbers :=
    codeLinesFrom_numbers (CommentSyntax.detect text) .code 1 [] (Text.lines text)
  unfold NumberedFrom
  rw [ofText_lines_length]
  simpa [ofText] using numbers

end NormalizedSource

/-! ## Padded sources

An empty line leaves no code and carries on the state that was carried to it, also inside a
comment or a triple quote.  It cannot decide the comment syntax either, since a header is
not empty and no brace or semicolon is put in with it. -/

/-! ### Empty lines -/

/-- Lines with empty ones put in: `gaps index` of them before the line at an index, and those
of the index behind the last line at the end. -/
def padLines : (Nat → Nat) → List (List Char) → List (List Char)
  | gaps, [] => List.replicate (gaps 0) []
  | gaps, line :: rest =>
      List.replicate (gaps 0) [] ++ line :: padLines (fun index => gaps (index + 1)) rest

/-- The number of a line, counted from one, once empty lines are put in before it: a line
stands one below the line before it and the empty ones between them. -/
def padNumber (gaps : Nat → Nat) : Nat → Nat
  | 0 => 0
  | number + 1 => padNumber gaps number + gaps number + 1

theorem padNumber_mono (gaps : Nat → Nat) : Monotone (padNumber gaps) := by
  apply monotone_nat_of_le_succ
  intro number
  rw [padNumber]
  omega

/-- The lines behind the first are moved by the gap before it, whatever else moves them. -/
theorem padNumber_behindFirst (gaps : Nat → Nat) (number : Nat) :
    padNumber gaps (number + 1) =
      gaps 0 + 1 + padNumber (fun index => gaps (index + 1)) number := by
  induction number with
  | zero => simp [padNumber]
  | succ number inductionHypothesis =>
      rw [padNumber, inductionHypothesis, padNumber]
      omega

/-- What no empty line passes, some line passes with empty ones put in exactly if one does
without. -/
theorem any_padLines {passes : List Char → Bool} (notEmpty : passes [] = false)
    (gaps : Nat → Nat) (raws : List (List Char)) :
    (padLines gaps raws).any passes = raws.any passes := by
  have noGap (count : Nat) : (List.replicate count ([] : List Char)).any passes = false := by
    rw [List.any_eq_false]
    intro line isLine
    rw [List.eq_of_mem_replicate isLine, notEmpty]
    exact Bool.false_ne_true
  induction raws generalizing gaps with
  | nil => exact noGap _
  | cons line rest inductionHypothesis =>
      rw [padLines, List.any_append, noGap, List.any_cons, inductionHypothesis]
      rfl

theorem CommentSyntax.detect_padded {gaps : Nat → Nat} {source padded : List Char}
    (isPadded : lines padded = padLines gaps (lines source)) :
    detect padded = detect source := by
  have sameHeader : (lines padded).any colonHeader.occursIn =
      (lines source).any colonHeader.occursIn := by
    rw [isPadded]
    exact any_padLines (by decide +kernel) gaps (lines source)
  have inLines (text : List Char) :
      (text.any fun char => char == '{' || char == ';') =
        (lines text).any fun line => line.contains '{' || line.contains ';' := by
    have brace := mem_lines_iff '{' (by decide) (by decide) text
    have semicolon := mem_lines_iff ';' (by decide) (by decide) text
    have inText : (text.any fun char => char == '{' || char == ';') = true ↔
        '{' ∈ text ∨ ';' ∈ text := by
      simp [and_or_left, exists_or]
    rw [Bool.eq_iff_iff, inText, brace, semicolon, List.any_eq_true]
    simp [and_or_left, exists_or]
  have samePunctuation : (padded.any fun char => char == '{' || char == ';') =
      source.any fun char => char == '{' || char == ';' := by
    rw [inLines, inLines, isPadded]
    exact any_padLines rfl gaps (lines source)
  unfold detect
  rw [sameHeader, samePunctuation]

/-! ### Blank lines of code -/

/-- A line that kept its code and indentation, and whose number was sent to another one. -/
structure CodeLine.MovedTo (image : Nat → Nat) (line moved : CodeLine) : Prop where
  number : moved.number = image line.number
  code : moved.code = line.code
  indent : moved.indent = line.indent

/-- Lines with blank ones put in between them. -/
inductive Padded (image : Nat → Nat) : List CodeLine → List CodeLine → Prop
  | nil : Padded image [] []
  | blank {line : CodeLine} {lines padded : List CodeLine} (isBlank : line.isBlank = true)
      (rest : Padded image lines padded) : Padded image lines (line :: padded)
  | line {line moved : CodeLine} {lines padded : List CodeLine} (same : line.MovedTo image moved)
      (rest : Padded image lines padded) : Padded image (line :: lines) (moved :: padded)

theorem CodeLine.MovedTo.isBlank {image : Nat → Nat} {line moved : CodeLine}
    (same : line.MovedTo image moved) : moved.isBlank = line.isBlank := by
  rw [CodeLine.isBlank, same.code, CodeLine.isBlank]

/-- Lines without code stay so with blank ones put in. -/
theorem Padded.all_blank {image : Nat → Nat} {lines padded : List CodeLine}
    (isPadded : Padded image lines padded) (blank : ∀ line ∈ lines, line.isBlank = true) :
    ∀ line ∈ padded, line.isBlank = true := by
  induction isPadded with
  | nil => exact blank
  | blank isBlank _ inductionHypothesis =>
      rw [List.forall_mem_cons]
      exact ⟨isBlank, inductionHypothesis blank⟩
  | line same _ inductionHypothesis =>
      rw [List.forall_mem_cons] at blank ⊢
      exact ⟨by rw [same.isBlank, blank.1], inductionHypothesis blank.2⟩

theorem Padded.notEmpty {image : Nat → Nat} {lines padded : List CodeLine}
    (isPadded : Padded image lines padded) (someLines : ¬lines.isEmpty = true) :
    ¬padded.isEmpty = true := by
  cases isPadded with
  | nil => exact someLines
  | blank => exact Bool.false_ne_true
  | line => exact Bool.false_ne_true

/-- A line of code was not put in. -/
theorem Padded.of_code {image : Nat → Nat} {moved : CodeLine} {lines padded : List CodeLine}
    (isPadded : Padded image lines (moved :: padded)) (isCode : ¬moved.isBlank = true) :
    ∃ line rest, lines = line :: rest ∧ line.MovedTo image moved ∧ Padded image rest padded := by
  cases isPadded with
  | blank isBlank => exact absurd isBlank isCode
  | @line line _ rest _ same isPadded => exact ⟨line, rest, rfl, same, isPadded⟩

namespace NormalizedSource

theorem codeLinesFrom_eq_append (syntax_ : CommentSyntax) (state : StripState) (number : Nat)
    (done : List CodeLine) (raws : List (List Char)) :
    codeLinesFrom syntax_ state number done raws =
      done.reverse ++ codeLinesFrom syntax_ state number [] raws := by
  induction raws generalizing state number done with
  | nil => simp [codeLinesFrom]
  | cons raw rest inductionHypothesis =>
      simp only [codeLinesFrom]
      rw [inductionHypothesis, inductionHypothesis _ _ [_]]
      simp

theorem codeLinesFrom_cons (syntax_ : CommentSyntax) (state : StripState) (number : Nat)
    (raw : List Char) (rest : List (List Char)) :
    codeLinesFrom syntax_ state number [] (raw :: rest) =
      ⟨number, trim (Stripper.stripLine syntax_ state raw).1, indentWidth raw⟩
        :: codeLinesFrom syntax_ (Stripper.stripLine syntax_ state raw).2 (number + 1) [] rest := by
  simp only [codeLinesFrom]
  rw [codeLinesFrom_eq_append]
  rfl

theorem stripLine_carried (syntax_ : CommentSyntax) (state : StripState) (raw : List Char) :
    (Stripper.stripLine syntax_ state raw).2.carried =
      (Stripper.stripLine syntax_ state raw).2 := by
  rcases stripped : Stripper.stripFrom syntax_ 0 state none [] raw with ⟨kept, last⟩
  simp only [Stripper.stripLine, stripped]
  cases last <;> rfl

/-- An empty line is blank and passes on the state carried to it. -/
theorem codeLinesFrom_empty (syntax_ : CommentSyntax) {state : StripState}
    (isCarried : state.carried = state) (number : Nat) (rest : List (List Char)) :
    codeLinesFrom syntax_ state number [] ([] :: rest) =
      ⟨number, [], 0⟩ :: codeLinesFrom syntax_ state (number + 1) [] rest := by
  have stripped : Stripper.stripLine syntax_ state [] = ([], state) := by
    change (([] : List Char), state.carried) = ([], state)
    rw [isCarried]
  rw [codeLinesFrom_cons, stripped]
  rfl

theorem padded_of_gap {image : Nat → Nat} {syntax_ : CommentSyntax} {state : StripState}
    (isCarried : state.carried = state) {lines : List CodeLine} {raws : List (List Char)}
    (count number : Nat)
    (isPadded : Padded image lines (codeLinesFrom syntax_ state (number + count) [] raws)) :
    Padded image lines
      (codeLinesFrom syntax_ state number [] (List.replicate count [] ++ raws)) := by
  induction count generalizing number with
  | zero => exact isPadded
  | succ count inductionHypothesis =>
      rw [List.replicate_succ, List.cons_append, codeLinesFrom_empty syntax_ isCarried]
      refine .blank rfl (inductionHypothesis (number + 1) ?_)
      rwa [Nat.add_assoc, Nat.add_comm 1 count]

/-- From any line on, each line is moved as far as the gaps before it add up to. -/
theorem codeLinesFrom_padded {image : Nat → Nat} (syntax_ : CommentSyntax)
    (raws : List (List Char)) (gaps : Nat → Nat) {state : StripState}
    (isCarried : state.carried = state) (number number' : Nat)
    (numbers : ∀ index, image (number + index) + 1 = number' + padNumber gaps (index + 1)) :
    Padded image (codeLinesFrom syntax_ state number [] raws)
      (codeLinesFrom syntax_ state number' [] (padLines gaps raws)) := by
  induction raws generalizing gaps state number number' with
  | nil =>
      rw [padLines, ← List.append_nil (List.replicate (gaps 0) [])]
      exact padded_of_gap isCarried (gaps 0) number' .nil
  | cons raw rest inductionHypothesis =>
      apply padded_of_gap isCarried
      rw [codeLinesFrom_cons, codeLinesFrom_cons]
      refine .line ⟨?_, rfl, rfl⟩ (inductionHypothesis _ ?_ _ _ ?_)
      · have here := numbers 0
        simp only [padNumber, Nat.add_zero, Nat.zero_add] at here
        show number' + gaps 0 = image number
        omega
      · exact stripLine_carried syntax_ state raw
      · intro index
        have next := numbers (index + 1)
        rw [padNumber_behindFirst] at next
        rw [Nat.add_assoc, Nat.add_comm 1 index, next]
        omega

/-- A text with empty lines put in has the same code lines with blank ones put in. -/
theorem ofText_padded {gaps : Nat → Nat} {source padded : List Char}
    (isPadded : Text.lines padded = padLines gaps (Text.lines source)) :
    Padded (padNumber gaps) (ofText source).lines (ofText padded).lines := by
  unfold ofText
  rw [CommentSyntax.detect_padded isPadded, isPadded]
  apply codeLinesFrom_padded _ _ _ rfl
  intro index
  rw [Nat.add_comm 1 index, Nat.add_comm]

end NormalizedSource

/-! ## Padded blocks

Each of the scans is compared along the padded lines.  A blank line that was put in moves
the cut by one as long as the block goes on behind it.  This is where balance is needed: a
block that runs to its limit would take in blank lines at the end. -/

/-! ### Cuts -/

/-- Cuts of some lines and of the same lines with blank ones put in, so that the parts on
either side are alike and the parts before the cuts end with the same line. -/
structure CutAlike (image : Nat → Nat) (lines padded : List CodeLine) (count count' : Nat) :
    Prop where
  before : Padded image (lines.take count) (padded.take count')
  behind : Padded image (lines.drop count) (padded.drop count')
  last : (padded.take count').getLast?.map CodeLine.number =
    (lines.take count).getLast?.map fun line => image line.number

namespace CutAlike

variable {image : Nat → Nat} {line moved : CodeLine} {lines padded : List CodeLine}
  {count count' : Nat}

theorem zero (isPadded : Padded image lines padded) : CutAlike image lines padded 0 0 :=
  ⟨.nil, isPadded, rfl⟩

/-- A blank line before a cut changes nothing, unless the part before the cut is empty and
would end with it. -/
theorem blank (isBlank : line.isBlank = true) (notEmpty : padded.take count' ≠ [])
    (cut : CutAlike image lines padded count count') :
    CutAlike image lines (line :: padded) count (count' + 1) where
  before := .blank isBlank cut.before
  behind := cut.behind
  last := by
    obtain ⟨first, others, isCons⟩ := List.exists_cons_of_ne_nil notEmpty
    have sameLast := cut.last
    rw [isCons] at sameLast
    rw [List.take_succ_cons, isCons, List.getLast?_cons_cons]
    exact sameLast

theorem cons (same : line.MovedTo image moved)
    (cut : CutAlike image lines padded count count') :
    CutAlike image (line :: lines) (moved :: padded) (count + 1) (count' + 1) where
  before := .line same cut.before
  behind := cut.behind
  last := by
    have sameLast := cut.last
    rw [List.take_succ_cons, List.take_succ_cons, List.getLast?_cons, List.getLast?_cons]
    cases found : (lines.take count).getLast? with
    | none =>
        rw [found, Option.map_none, Option.map_eq_none_iff] at sameLast
        rw [sameLast]
        exact congrArg some same.number
    | some last =>
        rw [found, Option.map_some, Option.map_eq_some_iff] at sameLast
        obtain ⟨last', found', sameNumber⟩ := sameLast
        rw [found']
        exact congrArg some sameNumber

end CutAlike

/-! ### Behind blank lines -/

theorem cons_length_sub_add (line : CodeLine) {lines rest : List CodeLine}
    (fits : rest.length ≤ lines.length) (count : Nat) :
    (line :: lines).length - rest.length + count = lines.length - rest.length + count + 1 := by
  rw [List.length_cons]
  omega

/-- The first line of code is the same, and a cut behind it is a cut behind the blank lines
before it. -/
theorem Padded.skipBlanks {image : Nat → Nat} {lines padded rest : List CodeLine}
    {next : CodeLine} (isPadded : Padded image lines padded)
    (isNext : lines.dropWhile CodeLine.isBlank = next :: rest) :
    ∃ next' rest', padded.dropWhile CodeLine.isBlank = next' :: rest' ∧
      next.MovedTo image next' ∧ Padded image rest rest' ∧
      ∀ count count', CutAlike image rest rest' count count' →
        CutAlike image lines padded (lines.length - rest.length + count)
          (padded.length - rest'.length + count') := by
  induction isPadded with
  | nil => contradiction
  | @blank line lines padded isBlank isPadded inductionHypothesis =>
      obtain ⟨next', rest', isNext', same, behind, cutBehind⟩ := inductionHypothesis isNext
      have fits' := Block.length_behindBlanks isNext'
      refine ⟨next', rest', ?_, same, behind, ?_⟩
      · rw [List.dropWhile_cons_of_pos isBlank, isNext']
      · intro count count' cut
        have notEmpty : padded.take (padded.length - rest'.length + count') ≠ [] := by
          apply List.ne_nil_of_length_pos
          rw [List.length_take]
          omega
        rw [cons_length_sub_add line fits'.le]
        exact .blank isBlank notEmpty (cutBehind count count' cut)
  | @line line moved lines padded same isPadded inductionHypothesis =>
      cases isBlank : line.isBlank with
      | true =>
          rw [List.dropWhile_cons_of_pos isBlank] at isNext
          obtain ⟨next', rest', isNext', sameNext, behind, cutBehind⟩ :=
            inductionHypothesis isNext
          refine ⟨next', rest', ?_, sameNext, behind, ?_⟩
          · rw [List.dropWhile_cons_of_pos (by rw [same.isBlank, isBlank]), isNext']
          · intro count count' cut
            rw [cons_length_sub_add _ (Block.length_behindBlanks isNext).le,
              cons_length_sub_add _ (Block.length_behindBlanks isNext').le]
            exact .cons same (cutBehind count count' cut)
      | false =>
          rw [List.dropWhile_cons_of_neg (by simp [isBlank])] at isNext
          cases isNext
          refine ⟨moved, padded, ?_, same, isPadded, ?_⟩
          · rw [List.dropWhile_cons_of_neg (by simp [same.isBlank, isBlank])]
          · intro count count' cut
            rw [cons_length_sub_add _ (Nat.le_refl _), cons_length_sub_add _ (Nat.le_refl _),
              Nat.sub_self, Nat.sub_self, Nat.zero_add, Nat.zero_add]
            exact .cons same cut

namespace Block

variable {image : Nat → Nat} {lines padded : List CodeLine}

/-! ### Indented blocks -/

/-- The lines indented deeper end alike, and there are none only if there were none. -/
theorem indentedWithin_padded (base : Nat) (isPadded : Padded image lines padded) :
    CutAlike image lines padded (indentedWithin base lines) (indentedWithin base padded) ∧
      (indentedWithin base padded = 0 ↔ indentedWithin base lines = 0) := by
  induction isPadded with
  | nil => exact ⟨.zero .nil, Iff.rfl⟩
  | @blank line lines padded isBlank isPadded inductionHypothesis =>
      obtain ⟨cut, noneAlike⟩ := inductionHypothesis
      rw [indentedWithin, if_pos isBlank]
      -- the line joins the block only if the block goes on behind it
      cases found : indentedWithin base padded with
      | zero =>
          rw [noneAlike.mp found]
          exact ⟨.zero (.blank isBlank isPadded), Iff.rfl⟩
      | succ further =>
          rw [found] at cut noneAlike
          have notEmpty : padded.take (further + 1) ≠ [] := by
            intro isEmpty
            rcases List.take_eq_nil_iff.mp isEmpty with isZero | noLines
            · exact Nat.succ_ne_zero further isZero
            · rw [noLines, indentedWithin] at found
              exact Nat.succ_ne_zero further found.symm
          exact ⟨.blank isBlank notEmpty cut, by simpa using noneAlike⟩
  | @line line moved lines padded same isPadded inductionHypothesis =>
      obtain ⟨cut, noneAlike⟩ := inductionHypothesis
      rw [indentedWithin, indentedWithin, same.isBlank, same.indent]
      split
      · cases found : indentedWithin base padded with
        | zero =>
            rw [noneAlike.mp found]
            exact ⟨.zero (.line same isPadded), Iff.rfl⟩
        | succ further =>
            rw [found] at cut noneAlike
            obtain ⟨further', found'⟩ : ∃ further', indentedWithin base lines = further' + 1 :=
              Nat.exists_eq_succ_of_ne_zero fun isZero =>
                Nat.succ_ne_zero further (noneAlike.mpr isZero)
            rw [found'] at cut ⊢
            exact ⟨.cons same cut, by simp⟩
      · split
        · exact ⟨.zero (.line same isPadded), Iff.rfl⟩
        · exact ⟨.cons same cut, by simp⟩

/-! ### Braces -/

/-- Whether braces are followed until they are closed: one is open, or the first line of
code begins with one. -/
def FollowsBraces (depth : Nat) (lines : List CodeLine) : Prop :=
  0 < depth ∨ ∃ next rest, lines.dropWhile CodeLine.isBlank = next :: rest ∧
    Text.opensWith ['{'] next.code = true

theorem FollowsBraces.next {depth deeper : Nat} {line : CodeLine}
    (follows : FollowsBraces depth (line :: lines))
    (isOpen : followBraces depth line.code = .opened deeper) : FollowsBraces deeper lines := by
  rcases follows with deep | ⟨next, rest, isNext, opens⟩
  · exact .inl (followBraces_deep deep isOpen)
  · cases isBlank : line.isBlank with
    | true =>
        rw [List.dropWhile_cons_of_pos isBlank] at isNext
        exact .inr ⟨next, rest, isNext, opens⟩
    | false =>
        rw [List.dropWhile_cons_of_neg (by simp [isBlank])] at isNext
        cases isNext
        rcases Nat.eq_zero_or_pos depth with isZero | deep
        · rw [isZero] at isOpen
          exact .inl (followBraces_opensWith opens isOpen)
        · exact .inl (followBraces_deep deep isOpen)

theorem followsBraces_padded {depth : Nat} (isPadded : Padded image lines padded)
    (follows : FollowsBraces depth lines) : FollowsBraces depth padded := by
  rcases follows with deep | ⟨next, rest, isNext, opens⟩
  · exact .inl deep
  · obtain ⟨next', rest', isNext', same, _⟩ := isPadded.skipBlanks isNext
    exact .inr ⟨next', rest', isNext', by rw [same.code, opens]⟩

/-- It takes lines to close braces. -/
theorem closedWithin_notEmpty {depth : Nat} (follows : FollowsBraces depth lines)
    (balanced : (closedWithin depth lines).balanced = true) :
    lines.take (closedWithin depth lines).below ≠ [] := by
  cases lines with
  | nil =>
      rcases follows with deep | ⟨next, rest, isNext, _⟩
      · rw [closedWithin, beq_iff_eq] at balanced
        exact absurd balanced (Nat.ne_of_gt deep)
      · contradiction
  | cons line rest =>
      rw [closedWithin]
      split <;> simp

theorem closedWithin_padded {depth : Nat} (isPadded : Padded image lines padded)
    (follows : FollowsBraces depth lines)
    (balanced : (closedWithin depth lines).balanced = true)
    (balanced' : (closedWithin depth padded).balanced = true) :
    CutAlike image lines padded (closedWithin depth lines).below
      (closedWithin depth padded).below := by
  induction isPadded generalizing depth with
  | nil => exact .zero .nil
  | @blank line lines padded isBlank isPadded inductionHypothesis =>
      -- the brace that closes the block is still ahead
      rw [closedWithin_cons_opened padded (followBraces_of_blank depth isBlank)] at balanced' ⊢
      have notEmpty := closedWithin_notEmpty (followsBraces_padded isPadded follows) balanced'
      exact .blank isBlank notEmpty (inductionHypothesis follows balanced balanced')
  | @line line moved lines padded same isPadded inductionHypothesis =>
      cases found : followBraces depth line.code with
      | closed =>
          have found' : followBraces depth moved.code = .closed := by rw [same.code, found]
          rw [closedWithin_cons_closed lines found, closedWithin_cons_closed padded found']
          exact .cons same (.zero isPadded)
      | opened deeper =>
          have found' : followBraces depth moved.code = .opened deeper := by
            rw [same.code, found]
          rw [closedWithin_cons_opened lines found] at balanced ⊢
          rw [closedWithin_cons_opened padded found'] at balanced' ⊢
          exact .cons same (inductionHypothesis (follows.next found) balanced balanced')

/-! ### Blocks -/

/-- A block with no line of code to use has no lines, unless it leaves a brace open. -/
theorem extent_of_blank (header : CodeLine) {below : List CodeLine}
    (blank : ∀ line ∈ below, line.isBlank = true)
    (balanced : (extent header below).balanced = true) : (extent header below).below = 0 := by
  have noCode : below.dropWhile CodeLine.isBlank = [] := List.dropWhile_eq_nil_iff.mpr blank
  revert balanced
  fun_cases extent header below with
  | case1 | case3 | case5 | case6 | case9 => exact fun _ => rfl
  | case2 => exact fun _ => indentedWithin_of_blank header.indent blank
  | case4 _ _ depth _ =>
      intro balanced
      exact absurd balanced (by simp [closedWithin_of_blank depth blank])
  | case7 _ _ _ _ next rest isNext _ => exact absurd (isNext.symm.trans noCode) (by simp)
  | case8 _ _ _ _ next rest isNext _ _ => exact absurd (isNext.symm.trans noCode) (by simp)

/-- A header owns the same lines of code among lines with blank ones put in, provided that
both blocks are closed. -/
theorem extent_padded {header moved : CodeLine} (same : header.MovedTo image moved)
    {below below' : List CodeLine} (isPadded : Padded image below below')
    (balanced : (extent header below).balanced = true)
    (balanced' : (extent moved below').balanced = true) :
    CutAlike image below below' (extent header below).below (extent moved below').below := by
  fun_induction extent header below generalizing moved below' with
  | case1 header below noLines =>
      -- the limit left no line to look at, and now there may be blank ones
      have blank : ∀ line ∈ below, line.isBlank = true := by
        rw [List.isEmpty_iff.mp noLines]
        exact List.forall_mem_nil _
      rw [extent_of_blank moved (isPadded.all_blank blank) balanced']
      exact .zero isPadded
  | case2 header below someLines isColon =>
      have isColon' : Text.closesWith [':'] moved.code = true := by rw [same.code, isColon]
      rw [extent, if_neg (isPadded.notEmpty someLines), if_pos isColon', same.indent]
      exact (indentedWithin_padded header.indent isPadded).1
  | case3 header below someLines notColon isClosed =>
      rw [extent, if_neg (isPadded.notEmpty someLines), same.code, if_neg notColon, isClosed]
      exact .zero isPadded
  | case4 header below someLines notColon depth isOpen =>
      rw [extent, if_neg (isPadded.notEmpty someLines), same.code, if_neg notColon, isOpen]
        at balanced' ⊢
      exact closedWithin_padded isPadded (.inl (Nat.succ_pos depth)) balanced balanced'
  | case5 header below someLines notColon noBrace isStatement =>
      rw [extent, if_neg (isPadded.notEmpty someLines), same.code, if_neg notColon, noBrace]
      simp only [if_pos isStatement]
      exact .zero isPadded
  | case6 header below someLines notColon noBrace notStatement noCode =>
      have blank := List.dropWhile_eq_nil_iff.mp noCode
      rw [extent_of_blank moved (isPadded.all_blank blank) balanced']
      exact .zero isPadded
  | case7 header below someLines notColon noBrace notStatement next rest isNext opens =>
      obtain ⟨next', rest', isNext', sameNext, _⟩ := isPadded.skipBlanks isNext
      rw [← same.code] at notColon noBrace notStatement
      rw [extent_behindBlanks notColon noBrace notStatement isNext', sameNext.code,
        if_pos opens] at balanced' ⊢
      exact closedWithin_padded isPadded (.inr ⟨next, rest, isNext, opens⟩) balanced balanced'
  | case8 header below _ notColon noBrace notStatement next rest isNext notOpens isDeeper
      body =>
      rename_i inductionHypothesis
      obtain ⟨next', rest', isNext', sameNext, behind, cutBehind⟩ := isPadded.skipBlanks isNext
      rw [← same.code] at notColon noBrace notStatement
      rw [extent_behindBlanks notColon noBrace notStatement isNext', sameNext.code,
        if_neg notOpens, same.indent, sameNext.indent, if_pos isDeeper] at balanced' ⊢
      exact cutBehind _ _ (inductionHypothesis sameNext behind balanced balanced')
  | case9 header below _ notColon noBrace notStatement next rest isNext notOpens notDeeper =>
      obtain ⟨next', rest', isNext', sameNext, _⟩ := isPadded.skipBlanks isNext
      rw [← same.code] at notColon noBrace notStatement
      rw [extent_behindBlanks notColon noBrace notStatement isNext', sameNext.code,
        if_neg notOpens, same.indent, sameNext.indent, if_neg notDeeper]
      exact .zero isPadded

end Block

end GrowthEstimate
