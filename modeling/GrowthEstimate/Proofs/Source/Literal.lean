import GrowthEstimate.Catalogue.Entry
import GrowthEstimate.Number.Binary64
import GrowthEstimate.Proofs.Source.Scan
import GrowthEstimate.Proofs.Text.Lines
import Mathlib.Data.List.TakeWhile

/-!
Contract: what stands inside a quoted literal is never read.

Owns: sources with one literal at a place read as code, and that such a source keeps all it
is normalized to when the text of the literal is exchanged.

Does **not** own: which comment syntax a source has; a header inside a literal may decide
it.

Before the literal the stripper may look ahead into it, and behind the literal it remembers
the last character it passed.  Each of its questions gets the same answer for every plain
text: the looks end at the opening quote, or find a character that is no quote, and what is
remembered is the closing quote.
-/

set_option autoImplicit false

namespace GrowthEstimate

open Text

/-- The text of a literal without quotes, escapes and line ends, and not empty. -/
def IsPlainText (text : List Char) : Prop :=
  text ≠ [] ∧ ∀ char ∈ text, char ≠ '"' ∧ char ≠ '\'' ∧ char ≠ '\\' ∧ char ≠ '\n'

instance (text : List Char) : Decidable (IsPlainText text) :=
  @instDecidableAnd _ _ _ (List.decidableBAll _ text)

/-- A text in double quotes, and what stands behind it. -/
def quoted (text behind : List Char) : List Char :=
  '"' :: (text ++ '"' :: behind)

namespace IsPlainText

variable {text : List Char}

theorem exists_cons (plain : IsPlainText text) :
    ∃ first rest, text = first :: rest ∧ first ≠ '"' ∧ first ≠ '\'' := by
  obtain ⟨first, rest, rfl⟩ := List.exists_cons_of_ne_nil plain.1
  have atFirst := plain.2 first List.mem_cons_self
  exact ⟨first, rest, rfl, atFirst.1, atFirst.2.1⟩

theorem not_mem_feed (plain : IsPlainText text) : '\n' ∉ text := by
  intro isFeed
  exact (plain.2 '\n' isFeed).2.2.2 rfl

theorem not_mem_quote (plain : IsPlainText text) : '\'' ∉ text := by
  intro isQuote
  exact (plain.2 '\'' isQuote).2.1 rfl

/-- Up to two characters behind the opening quote there is no single quote. -/
theorem quoted_noQuote (plain : IsPlainText text) (behind : List Char) :
    ∀ place ≤ 2, (quoted text behind)[place]? ≠ some '\'' := by
  intro place near isQuote
  have before : place ≤ text.length + 1 := by
    have notEmpty := List.length_pos_of_ne_nil plain.1
    omega
  have inside : (quoted text behind)[place]? = ('"' :: (text ++ ['"']))[place]? := by
    have split_ : quoted text behind = ('"' :: (text ++ ['"'])) ++ behind := by simp [quoted]
    rw [split_, List.getElem?_append_left]
    simpa using Nat.lt_succ_of_le before
  rw [inside] at isQuote
  have isMember := List.mem_of_getElem? isQuote
  simp [plain.not_mem_quote] at isMember

end IsPlainText

namespace Stripper

/-! ## Looking at a literal -/

section Looks

variable {text other : List Char} (plain : IsPlainText text) (plain' : IsPlainText other)
  (front behind : List Char)

include plain plain'

theorem followsTwice_quoted (mark : Char) :
    followsTwice mark (front ++ quoted text behind) =
      followsTwice mark (front ++ quoted other behind) := by
  obtain ⟨first, rest, rfl, notQuote, _⟩ := plain.exists_cons
  obtain ⟨first', rest', rfl, notQuote', _⟩ := plain'.exists_cons
  rw [followsTwice_eq, followsTwice_eq]
  match front with
  | [] =>
      by_cases isQuote : mark = '"'
      · simp [quoted, isQuote, notQuote, notQuote']
      · have notMark : ('"' == mark) = false := beq_eq_false_iff_ne.mpr (Ne.symm isQuote)
        simp [quoted, notMark]
  | [only] => rfl
  | one :: two :: more => rfl

omit plain plain' in
theorem betweenOperands_quoted (lastInk : Option Char) :
    betweenOperands lastInk (front ++ quoted text behind) =
      betweenOperands lastInk (front ++ quoted other behind) := by
  have stops : isSpace '"' = false := by decide
  unfold betweenOperands trimStart quoted
  rw [dropWhile_append_cons stops, dropWhile_append_cons stops, List.head?_append,
    List.head?_append]
  rfl

theorem isCharLiteral_quoted :
    isCharLiteral (front ++ quoted text behind) = isCharLiteral (front ++ quoted other behind) := by
  cases front with
  | nil =>
      obtain ⟨first, rest, rfl, _, notQuote⟩ := plain.exists_cons
      obtain ⟨first', rest', rfl, _, notQuote'⟩ := plain'.exists_cons
      simp [quoted, isCharLiteral_cons, notQuote, notQuote']
  | cons first rest =>
      rw [isCharLiteral_append (plain.quoted_noQuote behind),
        isCharLiteral_append (plain'.quoted_noQuote behind)]

theorem isLifetimeOrLabel_quoted (lastInk : Option Char) :
    isLifetimeOrLabel lastInk (front ++ quoted text behind) =
      isLifetimeOrLabel lastInk (front ++ quoted other behind) := by
  have quotes (inside : List Char) (isPlain : IsPlainText inside) :
      (quoted inside behind).contains '\'' = behind.contains '\'' := by
    simp [quoted, isPlain.not_mem_quote]
  cases front with
  | nil => rfl
  | cons first rest =>
      have stops : isNameChar '"' = false := by decide
      have sameQuotes := (quotes text plain).trans (quotes other plain').symm
      unfold quoted at sameQuotes ⊢
      rw [isLifetimeOrLabel_append stops, isLifetimeOrLabel_append stops, sameQuotes]

/-- No move depends on the text of a literal ahead. -/
theorem move_quoted (syntax_ : CommentSyntax) (state : StripState) (lastInk : Option Char)
    (char : Char) :
    move syntax_ state lastInk char (front ++ quoted text behind) =
      move syntax_ state lastInk char (front ++ quoted other behind) := by
  cases state with
  | code =>
      have atQuote : moveAtQuote syntax_ lastInk char (front ++ quoted text behind) =
          moveAtQuote syntax_ lastInk char (front ++ quoted other behind) := by
        unfold moveAtQuote opensCharLiteral
        rw [followsTwice_quoted plain plain', isCharLiteral_quoted plain plain',
          isLifetimeOrLabel_quoted plain plain']
      have atSlash : moveAtSlash syntax_ lastInk (front ++ quoted text behind) =
          moveAtSlash syntax_ lastInk (front ++ quoted other behind) := by
        cases front with
        | nil => rfl
        | cons first rest =>
            have sameComment : opensLineComment syntax_ lastInk (rest ++ quoted text behind) =
                opensLineComment syntax_ lastInk (rest ++ quoted other behind) := by
              unfold opensLineComment
              rw [betweenOperands_quoted]
            rw [List.cons_append, List.cons_append, moveAtSlash_cons, moveAtSlash_cons,
              sameComment]
      simp only [move, atQuote, atSlash]
  | blockComment =>
      have sameHead :
          (front ++ quoted text behind).head? = (front ++ quoted other behind).head? := by
        rw [List.head?_append, List.head?_append]
        rfl
      simp only [move, sameHead]
  | tripleQuote mark => simp only [move, followsTwice_quoted plain plain' front behind mark]
  | literal mark => rfl

theorem passAll_quoted (syntax_ : CommentSyntax) (reading : Reading) :
    reading.passAll syntax_ (quoted text behind) front =
      reading.passAll syntax_ (quoted other behind) front := by
  induction front generalizing reading with
  | nil => rfl
  | cons char rest inductionHypothesis =>
      have samePass : reading.pass syntax_ char (rest ++ quoted text behind) =
          reading.pass syntax_ char (rest ++ quoted other behind) := by
        unfold Reading.pass
        rw [move_quoted plain plain']
      rw [Reading.passAll_cons, Reading.passAll_cons, samePass]
      congr 1
      funext next
      exact inductionHypothesis next

end Looks

/-! ## Crossing a literal -/

/-- Inside a literal a plain text is passed to the closing quote. -/
theorem finish_inLiteral (syntax_ : CommentSyntax) {text : List Char}
    (inside : ∀ char ∈ text, char ≠ '"' ∧ char ≠ '\\') (lastInk : Option Char)
    (kept behind : List Char) :
    Reading.finish syntax_ ⟨0, .literal '"', lastInk, kept⟩ (text ++ '"' :: behind) =
      Reading.finish syntax_ ⟨0, .code, some '"', kept⟩ behind := by
  induction text generalizing lastInk with
  | nil =>
      rw [List.nil_append, Reading.finish_cons]
      rfl
  | cons char rest inductionHypothesis =>
      have atChar := inside char List.mem_cons_self
      have passed : Reading.pass syntax_ ⟨0, .literal '"', lastInk, kept⟩ char
          (rest ++ '"' :: behind) = some ⟨0, .literal '"', passInk lastInk char, kept⟩ := by
        simp [Reading.pass, move, atChar.1, atChar.2]
      rw [List.cons_append, Reading.finish_cons, passed]
      exact inductionHypothesis
        (fun other isOther => inside other (List.mem_cons_of_mem char isOther)) _

/-- In code a literal leaves its two quotes, and is remembered by the closing one. -/
theorem finish_quoted (syntax_ : CommentSyntax) {text : List Char} (plain : IsPlainText text)
    (lastInk : Option Char) (kept behind : List Char) :
    Reading.finish syntax_ ⟨0, .code, lastInk, kept⟩ (quoted text behind) =
      Reading.finish syntax_ ⟨0, .code, some '"', '"' :: '"' :: kept⟩ behind := by
  have notTriple : followsTwice '"' (text ++ '"' :: behind) = false := by
    obtain ⟨first, rest, rfl, notQuote, _⟩ := plain.exists_cons
    simp [followsTwice_eq, notQuote]
  have opened : Reading.pass syntax_ ⟨0, .code, lastInk, kept⟩ '"' (text ++ '"' :: behind) =
      some ⟨0, .literal '"', some '"', '"' :: '"' :: kept⟩ := by
    simp [Reading.pass, move, moveAtQuote, notTriple, passInk, isSpace]
  rw [quoted, Reading.finish_cons, opened]
  exact finish_inLiteral syntax_ (fun char isChar => ⟨(plain.2 char isChar).1,
    (plain.2 char isChar).2.2.1⟩) _ _ _

/-- A line keeps its code and the state it carries on when the text of a literal in it is
exchanged. -/
theorem stripLine_quoted {syntax_ : CommentSyntax} {state : StripState}
    {front text other : List Char} (plain : IsPlainText text) (plain' : IsPlainText other)
    {behind : List Char} (reached : comesToInCode syntax_ state front (quoted text behind) = true) :
    stripLine syntax_ state (front ++ quoted text behind) =
      stripLine syntax_ state (front ++ quoted other behind) := by
  obtain ⟨lastInk, kept, passed⟩ := comesToInCode_iff.mp reached
  have passed' := passed
  rw [passAll_quoted plain plain'] at passed'
  rw [stripLine_eq, stripLine_eq, Reading.finish_append passed, Reading.finish_append passed',
    finish_quoted syntax_ plain, finish_quoted syntax_ plain']

end Stripper

/-! ## Sources with a literal -/

theorem firstLine_quoted {text : List Char} (plain : IsPlainText text) (after : List Char) :
    firstLine (quoted text after) = quoted text (firstLine after) := by
  have oneLine : '\n' ∉ '"' :: text := by simp [plain.not_mem_feed]
  have areLines := lines_append_of_oneLine oneLine '"' (by decide) after
  rw [firstLine, quoted, ← List.cons_append, areLines, firstLine, lines_cons (by decide)]
  rfl

theorem lines_quoted {before front text : List Char} (atStart : EndsAtLineStart before)
    (oneLine : '\n' ∉ front) (plain : IsPlainText text) (after : List Char) :
    lines (before ++ (front ++ quoted text after)) =
      lines before ++ (front ++ quoted text (firstLine after)) :: (lines after).tail := by
  have behind : (lines (quoted text after)).tail = (lines after).tail := by
    have oneLine : '\n' ∉ '"' :: text := by simp [plain.not_mem_feed]
    rw [quoted, ← List.cons_append, lines_append_of_oneLine oneLine '"' (by decide),
      lines_cons (by decide)]
    rfl
  have ahead := lines_append_of_oneLine oneLine '"' (by decide) (text ++ '"' :: after)
  rw [lines_append_of_lineStart atStart]
  change lines before ++ lines (front ++ quoted text after) = _
  rw [quoted, ahead, ← quoted, firstLine_quoted plain, behind]

theorem indentWidth_quoted (front text behind : List Char) :
    indentWidth (front ++ quoted text behind) = indentWidth front := by
  have sameBlanks : (front ++ quoted text behind).takeWhile isSpace = front.takeWhile isSpace := by
    induction front with
    | nil => rfl
    | cons char rest inductionHypothesis =>
        rw [List.cons_append, List.takeWhile_cons, List.takeWhile_cons, inductionHypothesis]
  rw [indentWidth, sameBlanks, indentWidth]

namespace NormalizedSource

/-- Lines that differ in one place, where they leave the same code and carry on the same
state, have the same code lines. -/
theorem codeLinesFrom_congr {syntax_ : CommentSyntax} {line other : List Char}
    (sameIndent : indentWidth line = indentWidth other) (later : List (List Char))
    (earlier : List (List Char)) (state : StripState) (number : Nat) (done : List CodeLine)
    (sameStrip : Stripper.stripLine syntax_ (Stripper.carriedBehind syntax_ state earlier) line =
      Stripper.stripLine syntax_ (Stripper.carriedBehind syntax_ state earlier) other) :
    codeLinesFrom syntax_ state number done (earlier ++ line :: later) =
      codeLinesFrom syntax_ state number done (earlier ++ other :: later) := by
  induction earlier generalizing state number done with
  | nil =>
      change Stripper.stripLine syntax_ state line = Stripper.stripLine syntax_ state other
        at sameStrip
      simp only [List.nil_append, codeLinesFrom, sameStrip, sameIndent]
  | cons first rest inductionHypothesis => exact inductionHypothesis _ _ _ sameStrip

variable {before front text other after : List Char}

/-- A source is normalized to the same lines whatever stands in a literal that is reached
in code. -/
theorem ofText_quoted (atStart : EndsAtLineStart before) (oneLine : '\n' ∉ front)
    (plain : IsPlainText text) (plain' : IsPlainText other)
    (alike : CommentSyntax.detect (before ++ (front ++ quoted text after)) =
      CommentSyntax.detect (before ++ (front ++ quoted other after)))
    (reached : Stripper.reachesInCode
      (CommentSyntax.detect (before ++ (front ++ quoted text after))) before front
      (quoted text after) = true) :
    ofText (before ++ (front ++ quoted text after)) =
      ofText (before ++ (front ++ quoted other after)) := by
  have sameIndent : indentWidth (front ++ quoted text (firstLine after)) =
      indentWidth (front ++ quoted other (firstLine after)) := by
    rw [indentWidth_quoted, indentWidth_quoted]
  unfold Stripper.reachesInCode at reached
  rw [firstLine_quoted plain] at reached
  have sameLines := codeLinesFrom_congr sameIndent (Text.lines after).tail (Text.lines before)
    .code 1 [] (Stripper.stripLine_quoted plain plain' reached)
  unfold ofText
  rw [← alike, lines_quoted atStart oneLine plain, lines_quoted atStart oneLine plain']
  simp only [sameLines]

end NormalizedSource

/-- Whatever plain text stands in a literal that is reached in code: the source has the same
lines of code, the same lower-cased text and identifiers, and so the same tree, counts and
matches.  Only the comment syntax must not depend on it. -/
theorem literal_unread {α : Type} [Scalar α] {before front text other after : List Char}
    (atStart : EndsAtLineStart before) (oneLine : '\n' ∉ front)
    (plain : IsPlainText text) (plain' : IsPlainText other)
    (alike : CommentSyntax.detect (before ++ (front ++ quoted text after)) =
      CommentSyntax.detect (before ++ (front ++ quoted other after)))
    (reached : Stripper.reachesInCode
      (CommentSyntax.detect (before ++ (front ++ quoted text after))) before front
      (quoted text after) = true) :
    let source := NormalizedSource.ofText (before ++ (front ++ quoted text after))
    let changed := NormalizedSource.ofText (before ++ (front ++ quoted other after))
    source.lines = changed.lines ∧ source.lowered = changed.lowered
      ∧ source.identifiers = changed.identifiers
      ∧ ∀ maxDepth,
        let parsed : ParsedSource α := .ofSource maxDepth source
        let parsed' : ParsedSource α := .ofSource maxDepth changed
        parsed.root = parsed'.root ∧ parsed.stats = parsed'.stats
          ∧ Catalogue.detect source parsed.root = Catalogue.detect changed parsed'.root := by
  intro source changed
  have same : source = changed :=
    NormalizedSource.ofText_quoted atStart oneLine plain plain' alike reached
  rw [same]
  exact ⟨rfl, rfl, rfl, fun _ => ⟨rfl, rfl, rfl⟩⟩

/-- A literal that holds comment marks, braces and a header, behind a lifetime and a quoted
character, and the same line with a short text in the literal. -/
theorem literal_unread_marks :
    let before := "fn f<'a>(x: &'a str) \x7b\n".toList
    let front := "  log('\x7b', x as &'a str, ".toList
    let text := "for i in n: \x7b // /* # \x7d".toList
    let other := "x".toList
    let after := "); // it's done\n\x7d\n".toList
    let source := NormalizedSource.ofText (before ++ (front ++ quoted text after))
    let changed := NormalizedSource.ofText (before ++ (front ++ quoted other after))
    EndsAtLineStart before ∧ '\n' ∉ front ∧ IsPlainText text ∧ IsPlainText other
      ∧ CommentSyntax.detect (before ++ (front ++ quoted text after)) =
        CommentSyntax.detect (before ++ (front ++ quoted other after))
      ∧ Stripper.reachesInCode
        (CommentSyntax.detect (before ++ (front ++ quoted text after))) before front
        (quoted text after) = true
      ∧ source.lines = changed.lines ∧ source.lowered = changed.lowered
      ∧ source.identifiers = changed.identifiers
      ∧ ∀ maxDepth,
        let parsed : ParsedSource Float := .ofSource maxDepth source
        let parsed' : ParsedSource Float := .ofSource maxDepth changed
        parsed.root = parsed'.root ∧ parsed.stats = parsed'.stats
          ∧ Catalogue.detect source parsed.root = Catalogue.detect changed parsed'.root := by
  intro before front text other after source changed
  have atStart : EndsAtLineStart before := by decide
  have oneLine : '\n' ∉ front := by decide
  have plain : IsPlainText text := by decide
  have plain' : IsPlainText other := by decide
  have alike : CommentSyntax.detect (before ++ (front ++ quoted text after)) =
      CommentSyntax.detect (before ++ (front ++ quoted other after)) := by
    decide +kernel
  have reached : Stripper.reachesInCode
      (CommentSyntax.detect (before ++ (front ++ quoted text after))) before front
      (quoted text after) = true := by
    decide +kernel
  exact ⟨atStart, oneLine, plain, plain', alike, reached,
    literal_unread atStart oneLine plain plain' alike reached⟩

end GrowthEstimate
