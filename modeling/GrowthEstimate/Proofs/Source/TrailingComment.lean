import GrowthEstimate.Proofs.Source.Scan

/-!
Contract: a comment behind a line of code, where two slashes always open one.

Owns: the loose marks of a line, and that a comment behind the line leaves its code and the
state it carries on as they are, exactly if the comment has no single quote or the line has
no loose mark.

Does **not** own: sources in which two slashes may divide.

A quote before a name is a lifetime or a label if no other quote follows on the line, and
the search for that quote runs into the comment.  A mark that has nothing before it to tell
it from an opening quote is then taken for one, and the code behind it is lost up to the
quote in the comment.
-/

set_option autoImplicit false

namespace GrowthEstimate.Stripper

open Text

/-- A comment behind a line of code. -/
def trailing (comment : List Char) : List Char :=
  ' ' :: '/' :: '/' :: comment

/-- Whether a quote is read as the mark of a lifetime or label, but would not be if another
quote stood further on in the line. -/
def isLooseMark (lastInk : Option Char) (following : List Char) : Bool :=
  isLifetimeOrLabel lastInk following && !isLifetimeOrLabel lastInk (following ++ [' ', '\''])

/-- Whether the next character is read as a loose mark. -/
def Reading.atLooseMark (reading : Reading) (char : Char) (following : List Char) : Bool :=
  reading.inCode && char == '\'' && isLooseMark reading.lastInk following

/-- Whether a loose mark is read on the way through the characters ahead. -/
def Reading.passesLooseMark : Reading → List Char → Bool
  | _, [] => false
  | reading, char :: rest =>
      reading.atLooseMark char rest
        || match reading.pass .slash char rest with
          | none => false
          | some next => next.passesLooseMark rest

/-- Whether a line, with the state carried to it, has a loose mark. -/
def hasLooseMark (state : StripState) (line : List Char) : Bool :=
  (Reading.atStart state).passesLooseMark line

/-! ## Looking at a comment -/

theorem marksName_blank (lastInk : Option Char) (first : Char) (after : Option Char)
    (quotedLater : Bool) :
    marksName lastInk first (after.or (some ' ')) quotedLater =
      marksName lastInk first after quotedLater := by
  cases after with
  | some _ => rfl
  | none => rfl

/-- What is a lifetime or label before another quote is one without it too. -/
theorem marksName_of_quoted {lastInk : Option Char} {first : Char} {after : Option Char}
    (marks : marksName lastInk first after true = true) (quotedLater : Bool) :
    marksName lastInk first after quotedLater = true := by
  cases quotedLater with
  | true => exact marks
  | false =>
      unfold marksName at marks ⊢
      split at marks
      · contradiction
      · next isName =>
        rw [if_neg isName]
        split at marks
        · contradiction
        · next notQuote =>
          rw [if_neg notQuote]
          rfl

/-- A name begins with none of the characters that code does not keep as they are. -/
theorem keeps_of_marksName {lastInk : Option Char} {first : Char} {after : Option Char}
    {quotedLater : Bool} (marks : marksName lastInk first after quotedLater = true) :
    first ≠ '/' ∧ first ≠ '#' ∧ first ≠ '"' ∧ first ≠ '\'' ∧ first ≠ '\\' := by
  refine ⟨?_, ?_, ?_, ?_, ?_⟩ <;>
  · rintro rfl
    revert marks
    simp [marksName, isAlphabetic]

theorem isNameChar_of_marksName {lastInk : Option Char} {first : Char} {after : Option Char}
    {quotedLater : Bool} (marks : marksName lastInk first after quotedLater = true) :
    isNameChar first = true := by
  have begins : (isAlphabetic first || first == '_') = true := by
    unfold marksName at marks
    split at marks
    · contradiction
    · next isName => simpa only [Bool.not_eq_true, Bool.not_eq_false'] using isName
  rw [Bool.or_eq_true] at begins
  rw [isNameChar, Bool.or_eq_true]
  refine begins.imp_left fun isLetter => ?_
  unfold isAlphabetic at isLetter
  unfold isAlphanumeric
  split at isLetter
  · next isAscii => simp [isAscii, Char.isAlphanum, isLetter]
  · next notAscii => simp [notAscii, isLetter]

/-- A lifetime or label is no quoted character. -/
theorem isCharLiteral_of_isLifetimeOrLabel {lastInk : Option Char} {following : List Char}
    (isMark : isLifetimeOrLabel lastInk following = true) : isCharLiteral following = false := by
  cases following with
  | nil => rfl
  | cons first rest =>
      rw [isLifetimeOrLabel_cons, List.dropWhile_cons_of_pos (isNameChar_of_marksName isMark)]
        at isMark
      rw [isCharLiteral_cons, if_neg (keeps_of_marksName isMark).2.2.2.2]
      -- a quote behind the first character would end the name at once
      by_contra isQuoted
      obtain ⟨others, rfl⟩ : ∃ others, rest = '\'' :: others := by
        cases rest with
        | nil => simp at isQuoted
        | cons second others => exact ⟨others, by simpa using isQuoted⟩
      have stops : isNameChar '\'' = false := by decide
      rw [List.dropWhile_cons_of_neg (by simp [stops])] at isMark
      simp [marksName] at isMark

section Looks

variable {comment : List Char}

/-- A comment is seen by a mark before it only if the mark is loose. -/
theorem isLifetimeOrLabel_trailing {lastInk : Option Char} {following : List Char}
    (notLoose : '\'' ∈ comment → isLooseMark lastInk following = false) :
    isLifetimeOrLabel lastInk (following ++ trailing comment) =
      isLifetimeOrLabel lastInk following := by
  cases following with
  | nil => rfl
  | cons first rest =>
      have stops : isNameChar ' ' = false := by decide
      unfold isLooseMark at notLoose
      rw [isLifetimeOrLabel_append stops, marksName_blank, isLifetimeOrLabel_cons] at notLoose
      unfold trailing
      rw [isLifetimeOrLabel_append stops, marksName_blank, isLifetimeOrLabel_cons]
      by_cases isQuoted : '\'' ∈ comment
      · have found : (' ' :: '/' :: '/' :: comment).contains '\'' = true := by simp [isQuoted]
        have found' : [' ', '\''].contains '\'' = true := rfl
        have tight := notLoose isQuoted
        rw [found', Bool.or_true] at tight
        rw [found, Bool.or_true]
        generalize isLoud : marksName lastInk first
          ((first :: rest).dropWhile isNameChar).head? true = loud at tight ⊢
        cases loud with
        | true => exact (marksName_of_quoted isLoud _).symm
        | false =>
            rw [Bool.not_false, Bool.and_true] at tight
            exact tight.symm
      · have notFound : (' ' :: '/' :: '/' :: comment).contains '\'' = false := by
          simp [isQuoted]
        rw [notFound, Bool.or_false]

/-- With a quote in the comment a loose mark is read as an opening quote. -/
theorem isLifetimeOrLabel_trailing_of_loose {lastInk : Option Char} {following : List Char}
    (loose : isLooseMark lastInk following = true) (isQuoted : '\'' ∈ comment) :
    isLifetimeOrLabel lastInk (following ++ trailing comment) = false := by
  cases following with
  | nil => rfl
  | cons first rest =>
      have stops : isNameChar ' ' = false := by decide
      have found : (' ' :: '/' :: '/' :: comment).contains '\'' = true := by simp [isQuoted]
      have found' : [' ', '\''].contains '\'' = true := rfl
      unfold isLooseMark at loose
      rw [isLifetimeOrLabel_append stops, found', Bool.or_true, Bool.and_eq_true,
        Bool.not_eq_true'] at loose
      unfold trailing
      rw [isLifetimeOrLabel_append stops, found, Bool.or_true]
      exact loose.2

theorem trailing_noQuote (comment : List Char) :
    ∀ place ≤ 2, (trailing comment)[place]? ≠ some '\'' := by
  intro place near
  match place with
  | 0 | 1 | 2 => simp [trailing]

theorem isCharLiteral_trailing (comment following : List Char) :
    isCharLiteral (following ++ trailing comment) = isCharLiteral following := by
  cases following with
  | nil => rfl
  | cons first rest => exact isCharLiteral_append (trailing_noQuote comment) first rest

/-- A mark that is no blank sees a second and third one only in the line itself. -/
theorem followsTwice_trailing {mark : Char} {following : List Char}
    (noBlank : mark = ' ' → 2 ≤ following.length) :
    followsTwice mark (following ++ trailing comment) = followsTwice mark following := by
  rw [followsTwice_eq, followsTwice_eq]
  match following with
  | [] | [_] =>
      have notBlank : mark ≠ ' ' := fun isBlank => by simpa using noBlank isBlank
      simp [trailing, Ne.symm notBlank]
  | first :: second :: rest => rfl

/-- A move sees a comment behind the line only at a loose mark. -/
theorem move_trailing {state : StripState} {lastInk : Option Char} {char : Char}
    {following : List Char}
    (noBlank : state = .tripleQuote ' ' → 2 ≤ following.length)
    (notLoose : '\'' ∈ comment → state = .code → char = '\'' →
      isLooseMark lastInk following = false) :
    move .slash state lastInk char (following ++ trailing comment) =
      move .slash state lastInk char following := by
  cases state with
  | blockComment =>
      have sameHead : (following ++ trailing comment).head? = some '/' ↔
          following.head? = some '/' := by
        cases following with
        | nil => simp [trailing]
        | cons first rest => exact Iff.rfl
      simp only [move, sameHead]
  | tripleQuote mark =>
      have sameTwice : followsTwice mark (following ++ trailing comment) =
          followsTwice mark following :=
        followsTwice_trailing fun isBlank => noBlank (by rw [isBlank])
      simp only [move, sameTwice]
  | literal mark => rfl
  | code =>
      have atSlash : moveAtSlash .slash lastInk (following ++ trailing comment) =
          moveAtSlash .slash lastInk following := by
        cases following with
        | nil => rfl
        | cons first rest =>
            rw [List.cons_append, moveAtSlash_cons, moveAtSlash_cons]
            rfl
      have atQuote (isQuote : char = '"' ∨ char = '\'') :
          moveAtQuote .slash lastInk char (following ++ trailing comment) =
            moveAtQuote .slash lastInk char following := by
        have notBlank : char = ' ' → 2 ≤ following.length := by
          rintro rfl
          simp at isQuote
        unfold moveAtQuote opensCharLiteral
        rw [followsTwice_trailing notBlank, isCharLiteral_trailing]
        rcases isQuote with isDouble | isSingle
        · simp only [isDouble, true_or]
        · rw [isLifetimeOrLabel_trailing fun isQuoted => notLoose isQuoted rfl isSingle]
      simp only [move, atSlash]
      by_cases isQuote : char = '"' ∨ char = '\''
      · rw [atQuote isQuote]
      · simp only [isQuote, if_false]

end Looks

/-! ## A line that ends in code -/

/-- A triple quote takes three characters to close. -/
theorem two_le_length_of_tripleQuote {mark char : Char} {lastInk : Option Char}
    {kept rest : List Char} {next : Reading}
    (passed : Reading.passAll .slash [] ⟨0, .tripleQuote mark, lastInk, kept⟩ (char :: rest) =
      some next) (isCode : next.inCode = true) : 2 ≤ rest.length := by
  by_contra short
  have stays : next.state = .tripleQuote mark := by
    match rest, short with
    | [], _ | [_], _ =>
        simp [Reading.passAll_cons, Reading.pass, move, followsTwice_eq] at passed
        rw [← passed]
    | _ :: _ :: _, short => simp at short
  rw [Reading.inCode_iff, stays] at isCode
  simp at isCode

/-- In a line that ends in code, each step but one at a loose mark is the same with a comment
behind the line. -/
theorem pass_trailing {comment rest : List Char} {char : Char} {reading next : Reading}
    (passed : reading.passAll .slash [] (char :: rest) = some next) (isCode : next.inCode = true)
    (notLoose : '\'' ∈ comment → reading.atLooseMark char rest = false) :
    ∃ between, reading.pass .slash char rest = some between
      ∧ reading.pass .slash char (rest ++ trailing comment) = some between
      ∧ between.passAll .slash [] rest = some next := by
  obtain ⟨skip, state, lastInk, kept⟩ := reading
  have samePass : Reading.pass .slash ⟨skip, state, lastInk, kept⟩ char (rest ++ trailing comment) =
      Reading.pass .slash ⟨skip, state, lastInk, kept⟩ char rest := by
    cases skip with
    | succ skip => rfl
    | zero =>
        have noBlank : state = .tripleQuote ' ' → 2 ≤ rest.length := by
          rintro rfl
          exact two_le_length_of_tripleQuote passed isCode
        have tight : '\'' ∈ comment → state = .code → char = '\'' →
            isLooseMark lastInk rest = false := by
          rintro isQuoted rfl rfl
          simpa [Reading.atLooseMark, Reading.inCode] using notLoose isQuoted
        simp only [Reading.pass, move_trailing noBlank tight]
  rw [Reading.passAll_cons, Option.bind_eq_some_iff] at passed
  obtain ⟨between, isBetween, passed⟩ := passed
  rw [List.append_nil] at isBetween
  exact ⟨between, isBetween, samePass.trans isBetween, passed⟩

/-- A line without loose marks is read the same way with a comment behind it. -/
theorem passAll_trailing {comment line : List Char} {reading next : Reading}
    (passed : reading.passAll .slash [] line = some next) (isCode : next.inCode = true)
    (notLoose : '\'' ∈ comment → reading.passesLooseMark line = false) :
    reading.passAll .slash (trailing comment) line = some next := by
  induction line generalizing reading with
  | nil => exact passed
  | cons char rest inductionHypothesis =>
      have notHere : '\'' ∈ comment → reading.atLooseMark char rest = false := by
        intro isQuoted
        have nowhere := notLoose isQuoted
        rw [Reading.passesLooseMark, Bool.or_eq_false_iff] at nowhere
        exact nowhere.1
      obtain ⟨between, alone, before, passed⟩ := pass_trailing passed isCode notHere
      have notLater : '\'' ∈ comment → between.passesLooseMark rest = false := by
        intro isQuoted
        have nowhere := notLoose isQuoted
        rw [Reading.passesLooseMark, alone, Bool.or_eq_false_iff] at nowhere
        exact nowhere.2
      rw [Reading.passAll_cons, before]
      exact inductionHypothesis passed notLater

/-- The comment itself leaves a blank. -/
theorem finish_trailing (lastInk : Option Char) (kept comment : List Char) :
    Reading.finish .slash ⟨0, .code, lastInk, kept⟩ (trailing comment) = (' ' :: kept, .code) := by
  have blank : Reading.pass .slash ⟨0, .code, lastInk, kept⟩ ' ' ('/' :: '/' :: comment) =
      some ⟨0, .code, passInk lastInk ' ', ' ' :: kept⟩ := by
    simp [Reading.pass, move]
  have cut (ink : Option Char) :
      Reading.pass .slash ⟨0, .code, ink, ' ' :: kept⟩ '/' ('/' :: comment) = none := by
    simp [Reading.pass, move, moveAtSlash_cons, opensLineComment]
  rw [trailing, Reading.finish_cons, blank]
  simp only
  rw [Reading.finish_cons, cut]

/-! ## Trimmed code -/

theorem trim_append_blank (code : List Char) : trim (code ++ [' ']) = trim code := by
  have dropsBlank (text : List Char) : trimEnd (text ++ [' ']) = trimEnd text := by
    simp [trimEnd, dropEndWhile, isSpace]
  unfold trim trimStart
  rw [List.dropWhile_append]
  split
  · next isBlank =>
    rw [List.isEmpty_iff.mp isBlank]
    rfl
  · exact dropsBlank _

theorem trimEnd_append_ink {ink : Char} (isInk : isSpace ink = false) (front back : List Char) :
    trimEnd (front ++ ink :: back) = front ++ ink :: trimEnd back := by
  unfold trimEnd dropEndWhile
  rw [List.reverse_append, List.reverse_cons, List.append_assoc, List.singleton_append,
    dropWhile_append_cons isInk, List.reverse_append, List.reverse_cons, List.reverse_reverse,
    List.append_assoc, List.singleton_append]

/-- Trimming keeps apart what differs behind a quote. -/
theorem trim_append_quote_ne (front : List Char) {first : Char} (notQuote : first ≠ '\'')
    (back back' : List Char) :
    trim (front ++ '\'' :: '\'' :: back) ≠ trim (front ++ '\'' :: first :: back') := by
  have isInk : isSpace '\'' = false := by decide
  intro same
  unfold trim trimStart at same
  rw [dropWhile_append_cons isInk, dropWhile_append_cons isInk, trimEnd_append_ink isInk,
    trimEnd_append_ink isInk, List.append_cancel_left_eq, List.cons.injEq] at same
  have doubled := trimEnd_append_ink isInk [] back
  rw [List.nil_append, List.nil_append] at doubled
  have isFirst := head?_of_trimEnd (same.2.symm.trans doubled)
  exact notQuote (Option.some.inj isFirst)

/-! ## A line with a loose mark -/

/-- What was kept stays. -/
theorem exists_finish_append (syntax_ : CommentSyntax) (reading : Reading) (ahead : List Char) :
    ∃ more, (reading.finish syntax_ ahead).1 = more ++ reading.kept := by
  induction ahead generalizing reading with
  | nil => exact ⟨[], by rw [Reading.finish_nil]; rfl⟩
  | cons char rest inductionHypothesis =>
      rw [Reading.finish_cons]
      cases isNext : reading.pass syntax_ char rest with
      | none => exact ⟨[], rfl⟩
      | some next =>
          obtain ⟨more, isMore⟩ := inductionHypothesis next
          have keeps : ∃ code, next.kept = code ++ reading.kept := by
            obtain ⟨skip, state, lastInk, kept⟩ := reading
            cases skip with
            | succ skip =>
                cases isNext
                exact ⟨[], rfl⟩
            | zero =>
                unfold Reading.pass at isNext
                simp only at isNext
                split at isNext
                · contradiction
                · cases isNext
                  exact ⟨_, rfl⟩
          obtain ⟨code, isCode⟩ := keeps
          exact ⟨more ++ code, by simp [isMore, isCode]⟩

/-- Behind a loose mark the line alone keeps its name, and the line with a quote in its
comment has the two quotes of a literal there. -/
theorem finish_looseMark {lastInk : Option Char} {rest comment : List Char} (kept : List Char)
    (loose : isLooseMark lastInk rest = true) (isQuoted : '\'' ∈ comment) :
    ∃ first more more', first ≠ '\'' ∧
      (Reading.finish .slash ⟨0, .code, lastInk, kept⟩ ('\'' :: (rest ++ trailing comment))).1 =
        more ++ '\'' :: '\'' :: kept ∧
      (Reading.finish .slash ⟨0, .code, lastInk, kept⟩ ('\'' :: rest)).1 =
        more' ++ first :: '\'' :: kept := by
  have isMark : isLifetimeOrLabel lastInk rest = true := (Bool.and_eq_true_iff.mp loose).1
  cases rest with
  | nil => contradiction
  | cons first others =>
      obtain ⟨notSlash, notHash, notDouble, notQuote, notEscape⟩ := keeps_of_marksName isMark
      have notTwice (behind : List Char) : followsTwice '\'' (first :: behind) = false := by
        simp [followsTwice_eq, notQuote]
      have isOpened : isLifetimeOrLabel lastInk (first :: (others ++ trailing comment)) = false :=
        isLifetimeOrLabel_trailing_of_loose loose isQuoted
      have opened : Reading.pass .slash ⟨0, .code, lastInk, kept⟩ '\''
          (first :: others ++ trailing comment) =
            some ⟨0, .literal '\'', some '\'', '\'' :: '\'' :: kept⟩ := by
        simp [Reading.pass, move, moveAtQuote, notTwice, opensCharLiteral, isOpened, passInk,
          isSpace]
      have marked : Reading.pass .slash ⟨0, .code, lastInk, kept⟩ '\'' (first :: others) =
          some ⟨0, .code, some '\'', '\'' :: kept⟩ := by
        simp [Reading.pass, move, moveAtQuote, notTwice, opensCharLiteral, isMark,
          isCharLiteral_of_isLifetimeOrLabel isMark, passInk, isSpace]
      have named : Reading.pass .slash ⟨0, .code, some '\'', '\'' :: kept⟩ first others =
          some ⟨0, .code, passInk (some '\'') first, first :: '\'' :: kept⟩ := by
        simp [Reading.pass, move, notSlash, notHash, notDouble, notQuote]
      obtain ⟨more, isMore⟩ := exists_finish_append .slash
        ⟨0, .literal '\'', some '\'', '\'' :: '\'' :: kept⟩ (first :: others ++ trailing comment)
      obtain ⟨more', isMore'⟩ := exists_finish_append .slash
        ⟨0, .code, passInk (some '\'') first, first :: '\'' :: kept⟩ others
      refine ⟨first, more, more', notQuote, ?_, ?_⟩
      · rw [Reading.finish_cons, opened]
        exact isMore
      · rw [Reading.finish_cons, marked]
        simp only
        rw [Reading.finish_cons, named]
        exact isMore'

/-- A line with a loose mark is read apart from the same line with a quote in its comment. -/
theorem finish_ne_of_loose {comment line : List Char} {reading next : Reading}
    (passed : reading.passAll .slash [] line = some next) (isCode : next.inCode = true)
    (loose : reading.passesLooseMark line = true) (isQuoted : '\'' ∈ comment) :
    trim (reading.finish .slash (line ++ trailing comment)).1.reverse ≠
      trim (reading.finish .slash line).1.reverse := by
  induction line generalizing reading with
  | nil => contradiction
  | cons char rest inductionHypothesis =>
      by_cases isHere : reading.atLooseMark char rest = true
      · rw [Reading.atLooseMark, Bool.and_eq_true, Bool.and_eq_true, beq_iff_eq] at isHere
        obtain ⟨⟨inCode, rfl⟩, looseHere⟩ := isHere
        obtain ⟨skip, state, lastInk, kept⟩ := reading
        obtain ⟨rfl, rfl⟩ := Reading.inCode_iff.mp inCode
        obtain ⟨first, more, more', notQuote, opened, marked⟩ :=
          finish_looseMark kept looseHere isQuoted
        rw [List.cons_append, opened, marked]
        simpa using trim_append_quote_ne kept.reverse notQuote more.reverse more'.reverse
      · rw [Bool.not_eq_true] at isHere
        obtain ⟨between, alone, before, passed⟩ := pass_trailing passed isCode fun _ => isHere
        rw [Reading.passesLooseMark, isHere, alone, Bool.false_or] at loose
        rw [List.cons_append, Reading.finish_cons, Reading.finish_cons, before, alone]
        exact inductionHypothesis passed loose

/-! ## Lines with a comment behind them -/

/-- Behind a line that ends in plain code, a comment leaves the code and the state that is
carried on exactly as they are without it, unless it has a single quote and the line has a
loose mark. -/
theorem stripLine_trailing_iff {state : StripState} {line : List Char}
    (inCode : comesToInCode .slash state line [] = true) (comment : List Char) :
    (trim (stripLine .slash state (line ++ trailing comment)).1 =
          trim (stripLine .slash state line).1
        ∧ (stripLine .slash state (line ++ trailing comment)).2 =
          (stripLine .slash state line).2) ↔
      ('\'' ∈ comment → hasLooseMark state line = false) := by
  obtain ⟨lastInk, kept, passed⟩ := comesToInCode_iff.mp inCode
  constructor
  · rintro ⟨sameCode, _⟩ isQuoted
    by_contra loose
    exact finish_ne_of_loose passed rfl (by simpa [hasLooseMark] using loose) isQuoted sameCode
  · intro notLoose
    have passed' := passAll_trailing passed rfl notLoose
    have alone := Reading.finish_append passed
    rw [List.append_nil, Reading.finish_nil] at alone
    rw [stripLine_eq, stripLine_eq, Reading.finish_append passed', finish_trailing, alone]
    exact ⟨by simpa using trim_append_blank kept.reverse, rfl⟩

/-- A generic header with two lifetimes, and a comment with a quote behind it. -/
theorem stripLine_trailing_iff_lifetimes :
    let line := "fn pick<'a>(x: &'a str) -> &'a str \x7b".toList
    let comment := "it's borrowed".toList
    comesToInCode .slash .code line [] = true ∧
      ((trim (stripLine .slash .code (line ++ trailing comment)).1 =
            trim (stripLine .slash .code line).1
          ∧ (stripLine .slash .code (line ++ trailing comment)).2 =
            (stripLine .slash .code line).2) ↔
        ('\'' ∈ comment → hasLooseMark .code line = false)) := by
  intro line comment
  have inCode : comesToInCode .slash .code line [] = true := by decide +kernel
  exact ⟨inCode, stripLine_trailing_iff inCode comment⟩

/-- A comment can change the code before it: a label loses its name and its opening brace to
the literal that the quote in the comment seems to close. -/
theorem trailing_changes_code :
    ¬∀ (state : StripState) (line comment : List Char),
      comesToInCode .slash state line [] = true → '\n' ∉ comment →
        trim (stripLine .slash state (line ++ trailing comment)).1 =
            trim (stripLine .slash state line).1
          ∧ (stripLine .slash state (line ++ trailing comment)).2 =
            (stripLine .slash state line).2 := by
  intro always
  have same := always .code "'outer: for x in xs \x7b".toList "don't stop".toList
    (by decide +kernel) (by decide)
  have before : trim (stripLine .slash .code "'outer: for x in xs \x7b".toList).1 =
      "'outer: for x in xs \x7b".toList := by
    decide +kernel
  have after : trim (stripLine .slash .code
      ("'outer: for x in xs \x7b".toList ++ trailing "don't stop".toList)).1 =
        "''t stop".toList := by
    decide +kernel
  rw [before, after] at same
  exact absurd same.1 (by decide)

end GrowthEstimate.Stripper
