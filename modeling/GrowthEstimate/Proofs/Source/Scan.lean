import Mathlib.Data.List.Basic
import Mathlib.Data.List.TakeWhile
import GrowthEstimate.Proofs.Source.Padding
import GrowthEstimate.Proofs.Text.Lines
import GrowthEstimate.Source.Normalized

/-!
Contract: the stripper at a place inside a line, and over texts that hold nothing but comments.

Owns: what the stripper has read up to a place, the step from one place to the next with the rest of
the line in sight, the passage over the front of a line, the code of a line as that of its front
continued, and what looking ahead reads of a line; the grammar of texts of blanks and comments, and
that normalizing one leaves no code.

Does **not** own: which rests of a line the stripper can tell apart.
-/

set_option autoImplicit false

namespace GrowthEstimate

/-! ## Places of a line

A step looks ahead: what the stripper does at a character may depend on everything behind
it.  So a passage over a front is always a passage in sight of what stands behind it. -/

namespace Stripper

open Text

/-- What the stripper has read of a line up to a place in it. -/
structure Reading where
  /-- How many of the characters ahead belong to what was read last. -/
  skip : Nat
  state : StripState
  lastInk : Option Char
  /-- The code found so far, last character first. -/
  kept : List Char

namespace Reading

/-- The reading at the start of a line to which a state was carried. -/
def atStart (state : StripState) : Reading :=
  ⟨0, state, none, []⟩

/-- Whether the next character is read as code: the place is in no comment and no literal,
and the character does not belong to what was read last. -/
def inCode (reading : Reading) : Bool :=
  reading.skip == 0 && reading.state == .code

/-- The reading behind one more character, with what stands behind it in sight; none if a
comment cuts the line at the character. -/
def pass (syntax_ : CommentSyntax) (reading : Reading) (char : Char) (following : List Char) :
    Option Reading :=
  match reading.skip with
  | skip + 1 => some { reading with skip, lastInk := passInk reading.lastInk char }
  | 0 =>
      match move syntax_ reading.state reading.lastInk char following with
      | .stop => none
      | .go state code skip =>
          some ⟨skip, state, passInk reading.lastInk char, code.reverse ++ reading.kept⟩

/-- The reading behind a front of the line, with what stands behind it in sight; none if a
comment cuts the line before. -/
def passAll (syntax_ : CommentSyntax) (behind : List Char) : Reading → List Char → Option Reading
  | reading, [] => some reading
  | reading, char :: rest =>
      (reading.pass syntax_ char (rest ++ behind)).bind fun next => passAll syntax_ behind next rest

/-- All the code of the line, last character first, and the state at its end, with the
characters that are still ahead. -/
def finish (syntax_ : CommentSyntax) (reading : Reading) (ahead : List Char) :
    List Char × StripState :=
  stripFrom syntax_ reading.skip reading.state reading.lastInk reading.kept ahead

variable {syntax_ : CommentSyntax} {reading next : Reading} {behind : List Char}

theorem inCode_iff : reading.inCode = true ↔ reading.skip = 0 ∧ reading.state = .code := by
  simp [inCode]

@[simp] theorem passAll_nil : reading.passAll syntax_ behind [] = some reading :=
  rfl

theorem passAll_cons (char : Char) (rest : List Char) :
    reading.passAll syntax_ behind (char :: rest) =
      (reading.pass syntax_ char (rest ++ behind)).bind fun next =>
        next.passAll syntax_ behind rest :=
  rfl

theorem finish_nil : reading.finish syntax_ [] = (reading.kept, reading.state) := by
  unfold finish stripFrom
  rfl

theorem finish_cons (char : Char) (rest : List Char) :
    reading.finish syntax_ (char :: rest) =
      match reading.pass syntax_ char rest with
      | none => (reading.kept, reading.state)
      | some next => next.finish syntax_ rest := by
  obtain ⟨skip, state, lastInk, kept⟩ := reading
  cases skip with
  | zero =>
      simp only [finish, stripFrom, pass]
      cases move syntax_ state lastInk char rest <;> rfl
  | succ skip => rfl

/-- The code of a line is that of its front, continued from there. -/
theorem finish_append {front : List Char}
    (passed : reading.passAll syntax_ behind front = some next) :
    reading.finish syntax_ (front ++ behind) = next.finish syntax_ behind := by
  induction front generalizing reading with
  | nil =>
      rw [passAll_nil, Option.some.injEq] at passed
      rw [List.nil_append, passed]
  | cons char rest inductionHypothesis =>
      rw [passAll_cons, Option.bind_eq_some_iff] at passed
      obtain ⟨between, isBetween, passed⟩ := passed
      rw [List.cons_append, finish_cons, isBetween]
      exact inductionHypothesis passed

end Reading

theorem stripLine_eq (syntax_ : CommentSyntax) (state : StripState) (line : List Char) :
    stripLine syntax_ state line =
      (((Reading.atStart state).finish syntax_ line).1.reverse,
        ((Reading.atStart state).finish syntax_ line).2.carried) :=
  rfl

/-- Whether the stripper, with a state carried to a line that begins with `front`, comes to
what stands behind it in plain code: no comment has cut the line, and the place is inside of
no comment, no triple quote and no literal. -/
def comesToInCode (syntax_ : CommentSyntax) (state : StripState) (front behind : List Char) :
    Bool :=
  ((Reading.atStart state).passAll syntax_ behind front).any Reading.inCode

theorem comesToInCode_iff {syntax_ : CommentSyntax} {state : StripState}
    {front behind : List Char} :
    comesToInCode syntax_ state front behind = true ↔
      ∃ lastInk kept, (Reading.atStart state).passAll syntax_ behind front =
        some ⟨0, .code, lastInk, kept⟩ := by
  unfold comesToInCode
  rw [Option.any_eq_true]
  constructor
  · rintro ⟨⟨skip, state, lastInk, kept⟩, isReading, isCode⟩
    obtain ⟨rfl, rfl⟩ := Reading.inCode_iff.mp isCode
    exact ⟨lastInk, kept, isReading⟩
  · rintro ⟨lastInk, kept, isReading⟩
    exact ⟨_, isReading, rfl⟩

/-- The state carried behind some lines. -/
def carriedBehind (syntax_ : CommentSyntax) (state : StripState) (earlier : List (List Char)) :
    StripState :=
  earlier.foldl (fun carried line => (stripLine syntax_ carried line).2) state

/-- Whether the stripper, behind the lines of `before` and then the front of a line, comes to
the rest of a source in plain code.  It sees no further than to the end of the line. -/
def reachesInCode (syntax_ : CommentSyntax) (before front behind : List Char) : Bool :=
  comesToInCode syntax_ (carriedBehind syntax_ .code (lines before)) front (firstLine behind)

/-! ### Looking ahead -/

/-- A search that a character ends does not go on behind it. -/
theorem dropWhile_append_cons {passes : Char → Bool} {stop : Char} (stops : passes stop = false)
    (front more : List Char) :
    (front ++ stop :: more).dropWhile passes = front.dropWhile passes ++ stop :: more := by
  induction front with
  | nil => simp [stops]
  | cons char rest inductionHypothesis =>
      rw [List.cons_append, List.dropWhile_cons, List.dropWhile_cons, inductionHypothesis]
      split <;> rfl

/-- A triple quote is told by the two characters behind its first mark. -/
theorem followsTwice_eq (mark : Char) (following : List Char) :
    followsTwice mark following = (following[0]? == some mark && following[1]? == some mark) := by
  match following with
  | [] => rfl
  | [only] =>
      by_cases isMark : mark = only <;> simp [followsTwice, opensWith, stripFront, isMark]
  | first :: second :: rest =>
      by_cases isMark : mark = first
      · subst isMark
        by_cases isMark' : mark = second
        · simp [followsTwice, opensWith, stripFront, isMark']
        · simp [followsTwice, opensWith, stripFront, isMark', Ne.symm isMark']
      · simp [followsTwice, opensWith, stripFront, isMark, Ne.symm isMark]

theorem isCharLiteral_cons (first : Char) (rest : List Char) :
    isCharLiteral (first :: rest) =
      if first = '\\' then rest[1]? == some '\'' || rest[2]? == some '\''
      else rest[0]? == some '\'' := by
  unfold isCharLiteral
  split
  · contradiction
  · next isEscape => rw [if_pos (List.cons.inj isEscape).1, (List.cons.inj isEscape).2]
  · next notEscape same =>
    obtain ⟨rfl, rfl⟩ := List.cons.inj same
    rw [if_neg notEscape, List.head?_eq_getElem?]

/-- A quoted character is told by at most four characters; of those behind a front the
first three matter, and only whether they are quotes. -/
theorem isCharLiteral_append {behind : List Char}
    (noQuote : ∀ place ≤ 2, behind[place]? ≠ some '\'') (first : Char) (rest : List Char) :
    isCharLiteral (first :: rest ++ behind) = isCharLiteral (first :: rest) := by
  have sameAt (place : Nat) (near : place ≤ 2) :
      ((rest ++ behind)[place]? == some '\'') = (rest[place]? == some '\'') := by
    rw [List.getElem?_append]
    split
    · rfl
    · next isBehind =>
      have nothing : rest[place]? = none := List.getElem?_eq_none (Nat.le_of_not_lt isBehind)
      have notQuote := noQuote (place - rest.length) (by omega)
      rw [nothing, beq_eq_false_iff_ne.mpr notQuote]
      rfl
  rw [List.cons_append, isCharLiteral_cons, isCharLiteral_cons, sameAt 0 (by omega),
    sameAt 1 (by omega), sameAt 2 (by omega)]

theorem moveAtSlash_cons (syntax_ : CommentSyntax) (lastInk : Option Char) (first : Char)
    (rest : List Char) :
    moveAtSlash syntax_ lastInk (first :: rest) =
      if first = '/' then
        if opensLineComment syntax_ lastInk rest then .stop else .go .code ['/', '/'] 1
      else if first = '*' ∧ syntax_ ≠ .hash then .go .blockComment [] 1
      else .go .code ['/'] 0 := by
  unfold moveAtSlash
  split
  · next isSlash => rw [if_pos (List.cons.inj isSlash).1, (List.cons.inj isSlash).2]
  · next isStar =>
    rw [(List.cons.inj isStar).1]
    by_cases isHash : syntax_ = .hash <;> simp [isHash]
  · next notSlash notStar =>
    have firstNotSlash : first ≠ '/' := fun isSlash => notSlash rest (by rw [isSlash])
    have firstNotStar : first ≠ '*' := fun isStar => notStar rest (by rw [isStar])
    rw [if_neg firstNotSlash, if_neg (fun both => firstNotStar both.1)]

/-- Whether a quote before a name is a lifetime or a label: the name begins with `first`,
`after` stands behind it, and `quoted` says if a quote follows further on. -/
def marksName (lastInk : Option Char) (first : Char) (after : Option Char) (quoted : Bool) :
    Bool :=
  if !(isAlphabetic first || first == '_') then false
  else if after == some '\'' then false
  else if !quoted then true
  else
    match lastInk with
    | some ',' => after == some ',' || after == some '>'
    | some ink => ink == '<' || ink == '&' || ink == '+' || ink == ':'
    | none => false

theorem isLifetimeOrLabel_cons (lastInk : Option Char) (first : Char) (rest : List Char) :
    isLifetimeOrLabel lastInk (first :: rest) =
      marksName lastInk first ((first :: rest).dropWhile isNameChar).head?
        (((first :: rest).dropWhile isNameChar).contains '\'') :=
  rfl

/-- A lifetime or label is told by its own characters, by the first character behind them
and by whether a quote follows. -/
theorem isLifetimeOrLabel_append {stop : Char} (stops : isNameChar stop = false)
    (lastInk : Option Char) (first : Char) (rest more : List Char) :
    isLifetimeOrLabel lastInk (first :: rest ++ stop :: more) =
      marksName lastInk first (((first :: rest).dropWhile isNameChar).head?.or (some stop))
        (((first :: rest).dropWhile isNameChar).contains '\'' || (stop :: more).contains '\'') := by
  rw [List.cons_append, isLifetimeOrLabel_cons, ← List.cons_append,
    dropWhile_append_cons stops, List.head?_append, List.contains_append]
  rfl

end Stripper

/-! ## Commentary

The grammar knows two places only, inside of a block comment and outside.  Outside of one
the stripper also asks what stands before two slashes.  On these texts that is nothing or the
slash that closed a comment, and neither is an operand that they could divide. -/

open Text

/-! ### Commentary -/

/-- Whether the end of a line of blanks and comments is inside of a block comment, if its start
is so or not; none if there is anything else on the line. -/
def endsInComment? (syntax_ : CommentSyntax) : Bool → List Char → Option Bool
  | inside, [] => some inside
  | true, '*' :: '/' :: rest => endsInComment? syntax_ false rest
  | true, _ :: rest => endsInComment? syntax_ true rest
  | false, '#' :: _ => some false
  | false, '/' :: '/' :: _ => if syntax_ = .hash then none else some false
  | false, '/' :: '*' :: rest => if syntax_ = .hash then none else endsInComment? syntax_ true rest
  | false, char :: rest => if isSpace char then endsInComment? syntax_ false rest else none

/-- Whether lines hold nothing but blanks and comments, the first one starting inside of a block
comment or not. -/
def isCommentary (syntax_ : CommentSyntax) : Bool → List (List Char) → Bool
  | _, [] => true
  | inside, line :: rest =>
      match endsInComment? syntax_ inside line with
      | none => false
      | some outside => isCommentary syntax_ outside rest

/-! ### What the stripper reads of it -/

namespace Stripper

/-- The state of the stripper inside of a block comment, or outside of every comment. -/
def commentState (inside : Bool) : StripState :=
  if inside then .blockComment else .code

theorem commentState_true : commentState true = .blockComment :=
  rfl

theorem commentState_false : commentState false = .code :=
  rfl

theorem commentState_carried (inside : Bool) :
    (commentState inside).carried = commentState inside := by
  cases inside <;> rfl

theorem move_blank {char : Char} (isBlank : isSpace char = true) (syntax_ : CommentSyntax)
    (lastInk : Option Char) (following : List Char) :
    move syntax_ .code lastInk char following = .go .code [char] 0 := by
  have noSlash : char ≠ '/' := by
    rintro rfl
    exact absurd isBlank (by decide)
  have noHash : char ≠ '#' := by
    rintro rfl
    exact absurd isBlank (by decide)
  have noQuote : ¬(char = '"' ∨ char = '\'') := by
    rintro (rfl | rfl) <;> exact absurd isBlank (by decide)
  simp only [move]
  rw [if_neg noSlash, if_neg noHash, if_neg noQuote]

theorem opensLineComment_of_noOperand {syntax_ : CommentSyntax} {lastInk : Option Char}
    (notHash : syntax_ ≠ .hash) (noOperand : lastInk.any endsOperand = false)
    (following : List Char) : opensLineComment syntax_ lastInk following = true := by
  cases syntax_ with
  | hash => contradiction
  | slash => rfl
  | mixed => simp [opensLineComment, betweenOperands, noOperand]

/-- A line of blanks and comments leaves blanks. -/
theorem finish_commentary {syntax_ : CommentSyntax} {inside outside : Bool} {line : List Char}
    (ends : endsInComment? syntax_ inside line = some outside) (lastInk : Option Char)
    (noOperand : inside = false → lastInk.any endsOperand = false) {kept : List Char}
    (keptBlank : ∀ char ∈ kept, isSpace char = true) :
    ∃ left, (∀ char ∈ left, isSpace char = true) ∧
      (⟨0, commentState inside, lastInk, kept⟩ : Reading).finish syntax_ line =
        (left, commentState outside) := by
  fun_induction endsInComment? syntax_ inside line generalizing lastInk kept with
  | case1 inside =>
      rw [Option.some.inj ends]
      exact ⟨kept, keptBlank, Reading.finish_nil⟩
  | case2 rest inductionHypothesis =>
      obtain ⟨left, leftBlank, finished⟩ :=
        inductionHypothesis ends (some '/') (fun _ => by decide) keptBlank
      exact ⟨left, leftBlank, finished⟩
  | case3 char rest notClosing inductionHypothesis =>
      obtain ⟨left, leftBlank, finished⟩ :=
        inductionHypothesis ends (passInk lastInk char) (fun isCode => by contradiction)
          keptBlank
      refine ⟨left, leftBlank, ?_⟩
      have goesOn : ¬(char = '*' ∧ rest.head? = some '/') := by
        rintro ⟨isStar, isSlash⟩
        obtain ⟨behind, isRest⟩ := List.head?_eq_some_iff.mp isSlash
        exact notClosing behind isStar isRest
      rw [Reading.finish_cons]
      simp only [Reading.pass, commentState_true, move]
      rw [if_neg goesOn]
      exact finished
  | case4 =>
      rw [← Option.some.inj ends]
      exact ⟨kept, keptBlank, rfl⟩
  | case5 => contradiction
  | case6 rest notHash =>
      have opens := opensLineComment_of_noOperand notHash (noOperand rfl) rest
      rw [← Option.some.inj ends]
      refine ⟨kept, keptBlank, ?_⟩
      rw [Reading.finish_cons]
      simp [Reading.pass, commentState_false, move, moveAtSlash, opens]
  | case7 => contradiction
  | case8 rest notHash inductionHypothesis =>
      obtain ⟨left, leftBlank, finished⟩ :=
        inductionHypothesis ends (some '*') (fun isCode => by contradiction) keptBlank
      refine ⟨left, leftBlank, ?_⟩
      rw [Reading.finish_cons]
      simp only [Reading.pass, commentState_false, move, moveAtSlash, notHash, if_false, if_true]
      exact finished
  | case9 char rest _ _ _ isBlank inductionHypothesis =>
      have inkKept : passInk lastInk char = lastInk := if_pos isBlank
      have blanks : ∀ other ∈ char :: kept, isSpace other = true := by
        rw [List.forall_mem_cons]
        exact ⟨isBlank, keptBlank⟩
      obtain ⟨left, leftBlank, finished⟩ := inductionHypothesis ends lastInk noOperand blanks
      refine ⟨left, leftBlank, ?_⟩
      rw [Reading.finish_cons]
      simp only [Reading.pass, commentState_false, move_blank isBlank, inkKept]
      exact finished
  | case10 => contradiction

theorem stripLine_commentary {syntax_ : CommentSyntax} {inside outside : Bool}
    {line : List Char} (ends : endsInComment? syntax_ inside line = some outside) :
    trim (stripLine syntax_ (commentState inside) line).1 = [] ∧
      (stripLine syntax_ (commentState inside) line).2 = commentState outside := by
  obtain ⟨left, leftBlank, finished⟩ :=
    finish_commentary ends none (fun _ => rfl) (List.forall_mem_nil _)
  have allBlank : left.reverse.dropWhile isSpace = [] := by
    apply List.dropWhile_eq_nil_iff.mpr
    intro char isChar
    exact leftBlank char (List.mem_reverse.mp isChar)
  rw [stripLine_eq, Reading.atStart, finished]
  refine ⟨?_, commentState_carried outside⟩
  show trimEnd (left.reverse.dropWhile isSpace) = []
  rw [allBlank]
  rfl

end Stripper

/-! ### Sources -/

namespace NormalizedSource

open Stripper (commentState)

theorem codeLinesFrom_commentary {syntax_ : CommentSyntax} {inside : Bool}
    {raws : List (List Char)} (onlyComments : isCommentary syntax_ inside raws = true)
    (number : Nat) :
    ∀ line ∈ codeLinesFrom syntax_ (commentState inside) number [] raws, line.isBlank = true := by
  induction raws generalizing inside number with
  | nil => simp [codeLinesFrom]
  | cons raw rest inductionHypothesis =>
      rw [isCommentary] at onlyComments
      split at onlyComments
      · contradiction
      · next outside ends =>
        obtain ⟨noCode, next⟩ := Stripper.stripLine_commentary ends
        rw [codeLinesFrom_cons, List.forall_mem_cons, next]
        refine ⟨?_, inductionHypothesis onlyComments (number + 1)⟩
        rw [CodeLine.isBlank, noCode]
        rfl

/-- A text of blanks and comments has no code. -/
theorem ofText_isBlank {text : List Char}
    (onlyComments : isCommentary (.detect text) false (Text.lines text) = true) :
    (ofText text).isBlank = true :=
  List.all_eq_true.mpr (codeLinesFrom_commentary onlyComments 1)

end NormalizedSource

end GrowthEstimate
