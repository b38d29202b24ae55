import Mathlib.Data.List.Basic
import GrowthEstimate.Text.Line

/-!
Contract: the lines of a text, the fragments at its ends, and the bytes that it is written in.

Owns: when a text opens or closes with a fragment, in terms of what is left of it; the bytes of a
text in UTF-8, and that name characters can be told by the first or the last byte of a text; how one
more character in front of a text changes its lines, the lines of texts put together at a line start
or inside a line, which characters lines, pieces and joined lines have, and what trimming leaves of
a line.

Does **not** own: what a line means.
-/

set_option autoImplicit false

namespace GrowthEstimate

namespace Text

/-! ## Fragments -/

theorem stripFront_eq_some_iff {fragment text rest : List Char} :
    stripFront fragment text = some rest ↔ text = fragment ++ rest := by
  fun_induction stripFront fragment text with
  | case1 text => simp [eq_comm]
  | case2 expected fragment => simp
  | case3 fragment char text inductionHypothesis => simp [inductionHypothesis]
  | case4 expected fragment char text different => simp [Ne.symm different]

theorem stripBack_eq_some_iff {fragment text rest : List Char} :
    stripBack fragment text = some rest ↔ text = rest ++ fragment := by
  unfold stripBack
  rw [Option.map_eq_some_iff]
  constructor
  · rintro ⟨reversed, isThere, rfl⟩
    rw [← List.reverse_reverse text, stripFront_eq_some_iff.mp isThere, List.reverse_append,
      List.reverse_reverse]
  · rintro rfl
    exact ⟨rest.reverse, stripFront_eq_some_iff.mpr (List.reverse_append ..),
      List.reverse_reverse rest⟩

/-! ## Bytes -/

/-- The bytes of a text in UTF-8. -/
def bytes (text : List Char) : List UInt8 :=
  text.flatMap String.utf8EncodeChar

theorem toList_toByteArray (text : List Char) :
    (String.ofList text).toByteArray.data.toList = bytes text := by
  rw [String.toByteArray_ofList, List.utf8Encode, List.data_toByteArray]
  rfl

theorem length_bytes (text : List Char) :
    (bytes text).length = (String.ofList text).utf8ByteSize := by
  rw [← toList_toByteArray]
  rfl

/-- The bytes of ASCII letters, ASCII digits and underscores. -/
def isNameByte (byte : UInt8) : Bool :=
  (48 ≤ byte && byte ≤ 57) || (65 ≤ byte && byte ≤ 90) || (97 ≤ byte && byte ≤ 122) || byte == 95

theorem isNameByte_ascii {char : Char} (isAscii : char.toNat < 128) :
    isNameByte (UInt8.ofNat char.toNat) = isAsciiNameChar char := by
  have codes : ∀ code < 128,
      isNameByte (UInt8.ofNat code) = isAsciiNameChar (Char.ofNat code) := by
    decide
  rw [codes char.toNat isAscii, Char.ofNat_toNat]

theorem isNameByte_of_high {byte : UInt8} (high : 128 ≤ byte.toNat) : isNameByte byte = false := by
  simp only [isNameByte, UInt8.le_iff_toNat_le, Bool.or_eq_false_iff, Bool.and_eq_false_iff,
    decide_eq_false_iff_not, beq_eq_false_iff_ne, ne_eq, ← UInt8.toNat_inj, UInt8.reduceToNat]
  omega

theorem utf8EncodeChar_high {char : Char} (notAscii : ¬char.toNat < 128) :
    ∀ byte ∈ String.utf8EncodeChar char, 128 ≤ byte.toNat := by
  have several : ¬char.val.toNat ≤ 127 := fun few => notAscii (Nat.lt_succ_of_le few)
  intro byte isByte
  unfold String.utf8EncodeChar at isByte
  simp only [several, if_false] at isByte
  split_ifs at isByte <;> simp only [List.mem_cons, List.not_mem_nil, or_false] at isByte
  · rcases isByte with rfl | rfl <;> rw [UInt8.toNat_ofNat'] <;> omega
  · rcases isByte with rfl | rfl | rfl <;> rw [UInt8.toNat_ofNat'] <;> omega
  · rcases isByte with rfl | rfl | rfl | rfl <;> rw [UInt8.toNat_ofNat'] <;> omega

/-- Every byte of a character tells whether it is a name character. -/
theorem isNameByte_of_mem {char : Char} {byte : UInt8}
    (isByte : byte ∈ String.utf8EncodeChar char) : isNameByte byte = isAsciiNameChar char := by
  by_cases isAscii : char.toNat < 128
  · have single : String.utf8EncodeChar char = [UInt8.ofNat char.toNat] :=
      if_pos (Nat.le_of_lt_succ isAscii)
    rw [single, List.mem_singleton] at isByte
    rw [isByte, isNameByte_ascii isAscii]
  · rw [isNameByte_of_high (utf8EncodeChar_high isAscii byte isByte)]
    simp [isAsciiNameChar, isAscii]

theorem utf8EncodeChar_ne_nil (char : Char) : String.utf8EncodeChar char ≠ [] := by
  rw [← List.length_pos_iff, String.length_utf8EncodeChar]
  exact Char.utf8Size_pos char

/-- A text begins with a name character just if it does so byte by byte. -/
theorem any_head?_bytes (text : List Char) :
    (bytes text).head?.any isNameByte = text.head?.any isAsciiNameChar := by
  cases text with
  | nil => rfl
  | cons char rest =>
      obtain ⟨first, others, isCons⟩ := List.exists_cons_of_ne_nil (utf8EncodeChar_ne_nil char)
      have isByte : first ∈ String.utf8EncodeChar char := isCons ▸ List.mem_cons_self
      rw [bytes, List.flatMap_cons, isCons]
      exact isNameByte_of_mem isByte

/-- A text ends with a name character just if it does so byte by byte. -/
theorem any_getLast?_bytes (text : List Char) :
    (bytes text).getLast?.any isNameByte = text.getLast?.any isAsciiNameChar := by
  rcases List.eq_nil_or_concat' text with rfl | ⟨front, char, rfl⟩
  · rfl
  · have notEmpty := utf8EncodeChar_ne_nil char
    have isByte := List.getLast_mem notEmpty
    rw [bytes, List.flatMap_append, List.flatMap_singleton,
      List.getLast?_append_of_ne_nil _ notEmpty, List.getLast?_eq_some_getLast notEmpty,
      List.getLast?_concat]
    exact isNameByte_of_mem isByte

/-! ## Lines read from the front -/

/-! ### Pieces -/

theorem splitWhere_cons (separates : Char → Bool) (char : Char) (rest : List Char) :
    splitWhere separates (char :: rest) =
      if separates char then [] :: splitWhere separates rest
      else extendFirst char (splitWhere separates rest) :=
  rfl

theorem splitWhere_ne_nil (separates : Char → Bool) (text : List Char) :
    splitWhere separates text ≠ [] := by
  cases text with
  | nil => exact List.cons_ne_nil _ _
  | cons char rest =>
      rw [splitWhere_cons]
      split
      · exact List.cons_ne_nil _ _
      · unfold extendFirst
        split <;> exact List.cons_ne_nil _ _

/-- Pieces are made of the characters between separators. -/
theorem mem_of_mem_splitWhere {separates : Char → Bool} {text piece : List Char} {char : Char}
    (isPiece : piece ∈ splitWhere separates text) (isIn : char ∈ piece) :
    char ∈ text ∧ separates char = false := by
  induction text generalizing piece with
  | nil =>
      rw [List.mem_singleton.mp isPiece] at isIn
      contradiction
  | cons head rest inductionHypothesis =>
      have later {other : List Char} (isOther : other ∈ splitWhere separates rest)
          (isIn : char ∈ other) : char ∈ head :: rest ∧ separates char = false :=
        (inductionHypothesis isOther isIn).imp_left (List.mem_cons_of_mem head)
      rw [splitWhere_cons] at isPiece
      split at isPiece
      · rcases List.mem_cons.mp isPiece with rfl | isOther
        · contradiction
        · exact later isOther isIn
      · next notSeparator =>
          obtain ⟨first, others, isSplit⟩ :=
            List.exists_cons_of_ne_nil (splitWhere_ne_nil separates rest)
          rw [isSplit] at isPiece later
          rcases List.mem_cons.mp isPiece with rfl | isOther
          · rcases List.mem_cons.mp isIn with rfl | isLater
            · exact ⟨List.mem_cons_self, Bool.eq_false_iff.mpr notSeparator⟩
            · exact later List.mem_cons_self isLater
          · exact later (List.mem_cons_of_mem first isOther) isIn

theorem mem_joinLines {parts : List (List Char)} {char : Char}
    (member : char ∈ joinLines parts) : char = '\n' ∨ ∃ part ∈ parts, char ∈ part := by
  induction parts with
  | nil => contradiction
  | cons part rest inductionHypothesis =>
      cases rest with
      | nil => exact Or.inr ⟨part, List.mem_cons_self, by simpa [joinLines] using member⟩
      | cons next others =>
          have isSplit : char ∈ part ∨ char = '\n' ∨ char ∈ joinLines (next :: others) := by
            simpa [joinLines, List.intercalate] using member
          rcases isSplit with isFirst | isFeed | isLater
          · exact Or.inr ⟨part, List.mem_cons_self, isFirst⟩
          · exact Or.inl isFeed
          · exact (inductionHypothesis isLater).imp_right fun ⟨other, isOther, isIn⟩ =>
              ⟨other, List.mem_cons_of_mem part isOther, isIn⟩

theorem dropReturn_cons_cons (first second : Char) (rest : List Char) :
    dropReturn (first :: second :: rest) = first :: dropReturn (second :: rest) := by
  unfold dropReturn
  rw [List.getLast?_cons_cons, List.dropLast_cons_cons]
  split <;> rfl

/-- The lines that pieces between line feeds stand for. -/
def linesOfPieces (pieces : List (List Char)) : List (List Char) :=
  match pieces.getLast? with
  | none | some [] => pieces.dropLast.map dropReturn
  | some last => pieces.dropLast.map dropReturn ++ [last]

theorem lines_eq (text : List Char) : lines text = linesOfPieces (splitWhere (· == '\n') text) :=
  rfl

/-- A piece before another one is an ended line. -/
theorem linesOfPieces_cons (piece : List Char) {pieces : List (List Char)}
    (more : pieces ≠ []) :
    linesOfPieces (piece :: pieces) = dropReturn piece :: linesOfPieces pieces := by
  obtain ⟨next, others, rfl⟩ := List.exists_cons_of_ne_nil more
  unfold linesOfPieces
  rw [List.getLast?_cons_cons, List.dropLast_cons_cons]
  split <;> simp_all

/-! ### One more character -/

/-- The line that a text begins with. -/
def firstLine (text : List Char) : List Char :=
  (lines text).headD []

/-- A line feed in front of a text is an empty line. -/
theorem lines_feed (rest : List Char) : lines ('\n' :: rest) = [] :: lines rest := by
  rw [lines_eq, lines_eq]
  exact linesOfPieces_cons [] (splitWhere_ne_nil _ rest)

/-- Any other character stands in front of the first line, unless it is the carriage return
of a line feed. -/
theorem lines_cons {char : Char} (notFeed : char ≠ '\n') (rest : List Char) :
    lines (char :: rest) =
      if char = '\r' ∧ rest.head? = some '\n' then lines rest
      else (char :: firstLine rest) :: (lines rest).tail := by
  have isExtended : lines (char :: rest) =
      linesOfPieces (extendFirst char (splitWhere (· == '\n') rest)) := by
    rw [lines_eq, splitWhere_cons, if_neg (by simpa using notFeed)]
  rw [isExtended]
  cases rest with
  | nil => rw [if_neg (by simp)]; rfl
  | cons second behind =>
      by_cases isFeed : second = '\n'
      · subst isFeed
        have ended : linesOfPieces (extendFirst char (splitWhere (· == '\n') ('\n' :: behind))) =
            dropReturn [char] :: lines behind :=
          linesOfPieces_cons [char] (splitWhere_ne_nil _ behind)
        rw [ended, firstLine, lines_feed]
        by_cases isReturn : char = '\r'
        · subst isReturn
          rw [if_pos (by simp)]
          rfl
        · rw [if_neg (by simp [isReturn])]
          simp [dropReturn, isReturn]
      · rw [if_neg (by simp [isFeed]), firstLine, lines_eq, splitWhere_cons,
          if_neg (by simpa using isFeed)]
        obtain ⟨piece, pieces, arePieces⟩ :=
          List.exists_cons_of_ne_nil (splitWhere_ne_nil (· == '\n') behind)
        rw [arePieces]
        simp only [extendFirst]
        cases pieces with
        | nil => rfl
        | cons next others =>
            rw [linesOfPieces_cons _ (List.cons_ne_nil next others),
              linesOfPieces_cons _ (List.cons_ne_nil next others), dropReturn_cons_cons]
            rfl

theorem lines_ne_nil {text : List Char} (notEmpty : text ≠ []) : lines text ≠ [] := by
  induction text with
  | nil => contradiction
  | cons char rest inductionHypothesis =>
      by_cases isFeed : char = '\n'
      · rw [isFeed, lines_feed]
        exact List.cons_ne_nil _ _
      · rw [lines_cons isFeed]
        split
        · next isReturn =>
          apply inductionHypothesis
          rintro rfl
          simp at isReturn
        · exact List.cons_ne_nil _ _

theorem lines_eq_cons {text : List Char} (notEmpty : text ≠ []) :
    lines text = firstLine text :: (lines text).tail := by
  obtain ⟨first, others, areLines⟩ := List.exists_cons_of_ne_nil (lines_ne_nil notEmpty)
  rw [firstLine, areLines]
  rfl

/-! ### Texts put together -/

/-- Whether what follows a text begins a line. -/
def EndsAtLineStart (text : List Char) : Prop :=
  text = [] ∨ text.getLast? = some '\n'

instance (text : List Char) : Decidable (EndsAtLineStart text) :=
  inferInstanceAs (Decidable (_ ∨ _))

theorem EndsAtLineStart.tail {char : Char} {rest : List Char}
    (atStart : EndsAtLineStart (char :: rest)) : EndsAtLineStart rest := by
  cases rest with
  | nil => exact Or.inl rfl
  | cons second behind =>
      right
      rcases atStart with isEmpty | isFeed
      · contradiction
      · rwa [List.getLast?_cons_cons] at isFeed

theorem lines_append_of_lineStart {before : List Char} (atStart : EndsAtLineStart before)
    (rest : List Char) : lines (before ++ rest) = lines before ++ lines rest := by
  induction before with
  | nil => rfl
  | cons char behind inductionHypothesis =>
      have joined := inductionHypothesis atStart.tail
      by_cases isFeed : char = '\n'
      · rw [isFeed, List.cons_append, lines_feed, lines_feed, joined]
        rfl
      · -- the last character is a line feed, so this one is not the last
        have notEmpty : behind ≠ [] := by
          rintro rfl
          rcases atStart with isEmpty | isLast
          · contradiction
          · exact isFeed (by simpa using isLast)
        have sameHead : (behind ++ rest).head? = behind.head? := by
          obtain ⟨next, others, rfl⟩ := List.exists_cons_of_ne_nil notEmpty
          rfl
        have areLines := lines_eq_cons notEmpty
        rw [List.cons_append, lines_cons isFeed, lines_cons isFeed, sameHead, firstLine, joined,
          firstLine, areLines]
        split <;> rfl

/-- Characters in front of a line, of which none ends it, belong to it. -/
theorem lines_append_of_oneLine {front : List Char} (oneLine : '\n' ∉ front) (char : Char)
    (notFeed : char ≠ '\n') (rest : List Char) :
    lines (front ++ char :: rest) =
      (front ++ firstLine (char :: rest)) :: (lines (char :: rest)).tail := by
  induction front with
  | nil => exact lines_eq_cons (List.cons_ne_nil char rest)
  | cons first behind inductionHypothesis =>
      rw [List.mem_cons, not_or] at oneLine
      have noFeed : (behind ++ char :: rest).head? ≠ some '\n' := by
        cases behind with
        | nil => simpa using notFeed
        | cons second others =>
            intro isFeed
            exact oneLine.2 (by simp_all)
      rw [List.cons_append, lines_cons (Ne.symm oneLine.1), if_neg (fun both => noFeed both.2),
        firstLine, inductionHypothesis oneLine.2]
      rfl

/-! ### Characters -/

/-- Lines keep every character that neither ends a line nor belongs to an end. -/
theorem mem_lines_iff (char : Char) (notFeed : char ≠ '\n') (notReturn : char ≠ '\r')
    (text : List Char) : char ∈ text ↔ ∃ line ∈ lines text, char ∈ line := by
  induction text with
  | nil => simp [lines, splitWhere]
  | cons first rest inductionHypothesis =>
      rw [List.mem_cons, inductionHypothesis]
      by_cases isFeed : first = '\n'
      · simp [isFeed, lines_feed, notFeed]
      · rw [lines_cons isFeed]
        split
        · next isReturn => simp [isReturn.1, notReturn]
        · rw [firstLine]
          cases lines rest <;> simp [or_assoc]

/-! ### Blanks -/

theorem prefix_trimEnd (text : List Char) : trimEnd text <+: text := by
  have isSuffix := (List.dropWhile_suffix isSpace (l := text.reverse)).reverse
  rwa [List.reverse_reverse] at isSuffix

theorem head?_of_trimEnd {text rest : List Char} {first : Char}
    (trimmed : trimEnd text = first :: rest) : text.head? = some first := by
  have isPrefix := prefix_trimEnd text
  rw [trimmed] at isPrefix
  obtain ⟨more, rfl⟩ := isPrefix
  rfl

theorem infix_trim (text : List Char) : trim text <:+: text :=
  (prefix_trimEnd (trimStart text)).isInfix.trans (List.dropWhile_suffix isSpace).isInfix

/-- A text that neither begins nor ends with a blank. -/
structure IsTrimmed (text : List Char) : Prop where
  first : ∀ char, text.head? = some char → isSpace char = false
  last : ∀ char, text.getLast? = some char → isSpace char = false

theorem not_isSpace_of_head?_dropWhile (text : List Char) {char : Char}
    (isFirst : (text.dropWhile isSpace).head? = some char) : isSpace char = false := by
  have stops := List.head?_dropWhile_not isSpace text
  rw [isFirst] at stops
  exact stops

theorem trim_isTrimmed (text : List Char) : IsTrimmed (trim text) where
  first char isFirst := by
    obtain ⟨rest, trimmed⟩ := List.head?_eq_some_iff.mp isFirst
    exact not_isSpace_of_head?_dropWhile text (head?_of_trimEnd trimmed)
  last char isLast := by
    apply not_isSpace_of_head?_dropWhile (trimStart text).reverse
    rw [← List.getLast?_reverse]
    exact isLast

end Text

end GrowthEstimate
