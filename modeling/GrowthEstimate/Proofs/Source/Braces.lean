import GrowthEstimate.Proofs.Source.Extent

/-!
Contract: the brace a header leaves open, and the line that closes it.

Owns: balanced texts, the outermost brace that a line leaves open, the line with the brace
that closes it, and that a block reaches to that line exactly if the header opens no brace
before it.

Does **not** own: blocks told by indentation, and blocks whose braces open below the header.

The scan for the end of a block keeps a depth and no texts.  Both are tied together at one
place: a scan that begins inside one brace comes to its end exactly in texts that are
balanced up to a closing brace.
-/

set_option autoImplicit false

namespace GrowthEstimate.Block

/-! ## Balanced texts -/

/-- A text in which each brace that opens is closed, and no other one closes. -/
inductive Balanced : List Char → Prop
  | nil : Balanced []
  | char {char : Char} {rest : List Char} (notOpening : char ≠ '{') (notClosing : char ≠ '}')
      (behind : Balanced rest) : Balanced (char :: rest)
  | pair {inner rest : List Char} (inside : Balanced inner) (behind : Balanced rest) :
      Balanced ('{' :: (inner ++ '}' :: rest))

/-- The text closes a brace that was opened right before it. -/
def Closes (text : List Char) : Prop :=
  ∃ inner back, text = inner ++ '}' :: back ∧ Balanced inner

/-- How many braces a text leaves open, with `depth` of them open before it.  A closing brace
counts only while one is open. -/
def openBraces : Nat → List Char → Nat
  | depth, [] => depth
  | depth, char :: rest =>
      if char = '{' then openBraces (depth + 1) rest
      else if char = '}' then openBraces (depth - 1) rest
      else openBraces depth rest

theorem openBraces_append (depth : Nat) (front back : List Char) :
    openBraces depth (front ++ back) = openBraces (openBraces depth front) back := by
  induction front generalizing depth with
  | nil => rfl
  | cons char rest inductionHypothesis =>
      rw [List.cons_append, openBraces, openBraces]
      split_ifs <;> exact inductionHypothesis _

theorem openBraces_of_noBrace {text : List Char} (noBrace : '{' ∉ text) :
    openBraces 0 text = 0 := by
  induction text with
  | nil => rfl
  | cons char rest inductionHypothesis =>
      rw [List.mem_cons, not_or] at noBrace
      rw [openBraces, if_neg (Ne.symm noBrace.1), inductionHypothesis noBrace.2, ite_self]

theorem openBraces_of_balanced {text : List Char} (balanced : Balanced text) (depth : Nat) :
    openBraces depth text = depth := by
  induction balanced generalizing depth with
  | nil => rfl
  | char notOpening notClosing _ inductionHypothesis =>
      rw [openBraces, if_neg notOpening, if_neg notClosing, inductionHypothesis]
  | pair _ _ inside behind =>
      rw [openBraces, if_pos rfl, openBraces_append, inside, openBraces, if_neg (by decide),
        if_pos rfl, Nat.add_sub_cancel, behind]

/-! ## Following braces -/

theorem followBraces_append (depth : Nat) (front back : List Char) :
    followBraces depth (front ++ back) =
      match followBraces depth front with
      | .closed => .closed
      | .opened deeper => followBraces deeper back := by
  fun_induction followBraces depth front with
  | case1 => rfl
  | case2 depth rest inductionHypothesis =>
      rw [List.cons_append, followBraces_opening, inductionHypothesis]
  | case3 rest _ inductionHypothesis =>
      rw [List.cons_append, followBraces_closing_none, inductionHypothesis]
  | case4 rest => rw [List.cons_append, followBraces_closing_last]
  | case5 rest deeper notZero _ inductionHypothesis =>
      obtain ⟨further, rfl⟩ := Nat.exists_eq_succ_of_ne_zero notZero
      rw [List.cons_append, followBraces_closing_inner, inductionHypothesis]
  | case6 depth char rest notOpening notClosing inductionHypothesis =>
      rw [List.cons_append, followBraces_other _ _ notOpening notClosing, inductionHypothesis]

/-- Braces are followed to the depth that is left open, unless they are closed before. -/
theorem openBraces_of_followBraces {depth deeper : Nat} {text : List Char}
    (isOpen : followBraces depth text = .opened deeper) : openBraces depth text = deeper := by
  fun_induction followBraces depth text with
  | case1 =>
      cases isOpen
      rfl
  | case2 depth rest inductionHypothesis =>
      rw [openBraces, if_pos rfl, inductionHypothesis isOpen]
  | case3 rest notOpening inductionHypothesis =>
      rw [openBraces, if_neg notOpening, if_pos rfl, inductionHypothesis isOpen]
  | case4 => contradiction
  | case5 rest further _ notOpening inductionHypothesis =>
      rw [openBraces, if_neg notOpening, if_pos rfl, Nat.succ_sub_one,
        inductionHypothesis isOpen]
  | case6 depth char rest notOpening notClosing inductionHypothesis =>
      rw [openBraces, if_neg notOpening, if_neg notClosing, inductionHypothesis isOpen]

theorem followBraces_of_balanced {text : List Char} (balanced : Balanced text) (depth : Nat) :
    followBraces (depth + 1) text = .opened (depth + 1) := by
  induction balanced generalizing depth with
  | nil => rfl
  | char notOpening notClosing _ inductionHypothesis =>
      rw [followBraces_other _ _ notOpening notClosing, inductionHypothesis]
  | pair _ _ inside behind =>
      rw [followBraces_opening, followBraces_append, inside]
      simp only
      rw [followBraces_closing_inner, behind]

/-- Inside a brace, what is followed to the end is balanced up to the brace that closes. -/
theorem exists_balanced_of_closed {depth : Nat} {text : List Char}
    (isClosed : followBraces (depth + 1) text = .closed) :
    ∃ inner back, text = inner ++ '}' :: back ∧ Balanced inner
      ∧ (depth = 0 ∨ followBraces depth back = .closed) := by
  induction size : text.length using Nat.strongRecOn generalizing depth text with
  | ind size inductionHypothesis =>
    cases text with
    | nil => contradiction
    | cons char rest =>
      rw [List.length_cons] at size
      by_cases isOpening : char = '{'
      · subst isOpening
        rw [followBraces_opening] at isClosed
        obtain ⟨inner, back, rfl, inside, closedBehind⟩ :=
          inductionHypothesis rest.length (by omega) isClosed rfl
        have stillOpen := closedBehind.resolve_left (Nat.succ_ne_zero depth)
        obtain ⟨inner', back', rfl, inside', closedBehind'⟩ :=
          inductionHypothesis back.length (by simp at size; omega) stillOpen rfl
        exact ⟨'{' :: (inner ++ '}' :: inner'), back', by simp, .pair inside inside', closedBehind'⟩
      · by_cases isClosing : char = '}'
        · subst isClosing
          refine ⟨[], rest, rfl, .nil, ?_⟩
          cases depth with
          | zero => exact .inl rfl
          | succ depth =>
            rw [followBraces_closing_inner] at isClosed
            exact .inr isClosed
        · rw [followBraces_other _ _ isOpening isClosing] at isClosed
          obtain ⟨inner, back, rfl, inside, closedBehind⟩ :=
            inductionHypothesis rest.length (by omega) isClosed rfl
          exact ⟨char :: inner, back, rfl, .char isOpening isClosing inside, closedBehind⟩

theorem followBraces_one_closed_iff {text : List Char} :
    followBraces 1 text = .closed ↔ Closes text := by
  constructor
  · intro isClosed
    obtain ⟨inner, back, isText, inside, _⟩ := exists_balanced_of_closed isClosed
    exact ⟨inner, back, isText, inside⟩
  · rintro ⟨inner, back, rfl, inside⟩
    rw [followBraces_append, followBraces_of_balanced inside 0]
    exact followBraces_closing_last back

/-! ## The brace a line leaves open -/

/-- The outermost brace that a line leaves open stands between `front` and `behind`. -/
structure LeavesOpen (code front behind : List Char) : Prop where
  isCode : code = front ++ '{' :: behind
  /-- No brace is open where it opens. -/
  outermost : openBraces 0 front = 0
  unclosed : ¬Closes behind

theorem exists_leavesOpen {code : List Char} (isOpen : 0 < openBraces 0 code) :
    ∃ front behind, LeavesOpen code front behind := by
  induction size : code.length using Nat.strongRecOn generalizing code with
  | ind size inductionHypothesis =>
    have someBrace : '{' ∈ code := by
      by_contra noBrace
      rw [openBraces_of_noBrace noBrace] at isOpen
      contradiction
    obtain ⟨before, behind, rfl, noneBefore⟩ := List.eq_append_cons_of_mem someBrace
    have free := openBraces_of_noBrace noneBefore
    by_cases closes : Closes behind
    · -- the first pair is closed on the line, so the brace left open stands behind it
      obtain ⟨inner, back, rfl, inside⟩ := closes
      have pairCloses (rest : List Char) :
          openBraces 0 (before ++ '{' :: (inner ++ '}' :: rest)) = openBraces 0 rest := by
        rw [openBraces_append, free, openBraces, if_pos rfl, openBraces_append,
          openBraces_of_balanced inside, openBraces, if_neg (by decide), if_pos rfl]
      rw [pairCloses] at isOpen
      obtain ⟨front, behind, leavesOpen⟩ :=
        inductionHypothesis back.length (by simp at size; omega) isOpen rfl
      refine ⟨before ++ '{' :: (inner ++ '}' :: front), behind, ?_, ?_, leavesOpen.unclosed⟩
      · simp [leavesOpen.isCode]
      · rw [pairCloses, leavesOpen.outermost]
    · exact ⟨before, behind, rfl, free, closes⟩

namespace LeavesOpen

variable {code front behind : List Char} (leavesOpen : LeavesOpen code front behind)

include leavesOpen

/-- A header that closes a brace before the one it leaves open is not followed further. -/
theorem followBraces_closed (someBrace : '{' ∈ front) : followBraces 0 code = .closed := by
  obtain ⟨before, more, rfl, noneBefore⟩ := List.eq_append_cons_of_mem someBrace
  have pairs := leavesOpen.outermost
  rw [openBraces_append, openBraces_of_noBrace noneBefore, openBraces, if_pos rfl] at pairs
  rw [leavesOpen.isCode, followBraces_append, followBraces_append,
    followBraces_of_noBrace noneBefore]
  simp only
  rw [followBraces_opening]
  cases found : followBraces (0 + 1) more with
  | closed => rfl
  | opened deeper =>
      have isDeep := followBraces_deep (Nat.succ_pos 0) found
      rw [openBraces_of_followBraces found] at pairs
      omega

theorem followBraces_opened (noBrace : '{' ∉ front) :
    followBraces 0 code = followBraces 1 behind
      ∧ ∃ depth, followBraces 1 behind = .opened (depth + 1) := by
  constructor
  · rw [leavesOpen.isCode, followBraces_append, followBraces_of_noBrace noBrace]
    exact followBraces_opening 0 behind
  · cases found : followBraces 1 behind with
    | closed => exact absurd (followBraces_one_closed_iff.mp found) leavesOpen.unclosed
    | opened deeper =>
        obtain ⟨depth, rfl⟩ :=
          Nat.exists_eq_succ_of_ne_zero (Nat.ne_of_gt (followBraces_deep Nat.one_pos found))
        exact ⟨depth, rfl⟩

end LeavesOpen

/-! ## The line that closes it -/

/-- The code of some lines, one behind the other. -/
def codeOf (lines : List CodeLine) : List Char :=
  lines.flatMap CodeLine.code

/-- A scan for a closing brace ends with the line that has it, or takes all lines. -/
theorem closedWithin_cases (depth : Nat) (lines : List CodeLine) :
    (∃ before line after deeper, lines = before ++ line :: after
        ∧ followBraces (depth + 1) (codeOf before) = .opened deeper
        ∧ followBraces deeper line.code = .closed
        ∧ closedWithin (depth + 1) lines = ⟨before.length + 1, true⟩)
      ∨ (∃ deeper, followBraces (depth + 1) (codeOf lines) = .opened deeper)
        ∧ closedWithin (depth + 1) lines = ⟨lines.length, false⟩ := by
  induction lines generalizing depth with
  | nil => exact .inr ⟨⟨depth + 1, rfl⟩, rfl⟩
  | cons line rest inductionHypothesis =>
      cases found : followBraces (depth + 1) line.code with
      | closed =>
          exact .inl ⟨[], line, rest, depth + 1, rfl, rfl, found,
            closedWithin_cons_closed rest found⟩
      | opened deeper =>
          obtain ⟨further, rfl⟩ :=
            Nat.exists_eq_succ_of_ne_zero (Nat.ne_of_gt (followBraces_deep depth.succ_pos found))
          have behindLine (lines : List CodeLine) :
              followBraces (depth + 1) (codeOf (line :: lines)) =
                followBraces (further + 1) (codeOf lines) := by
            rw [codeOf, List.flatMap_cons, followBraces_append, found]
            rfl
          rw [closedWithin_cons_opened rest found]
          rcases inductionHypothesis further with
            ⟨before, closing, after, deeper, rfl, isOpen, isClosed, scanned⟩ | ⟨isOpen, scanned⟩
          · refine .inl ⟨line :: before, closing, after, deeper, rfl, ?_, isClosed, ?_⟩
            · rw [behindLine, isOpen]
            · rw [scanned]
              rfl
          · refine .inr ⟨?_, ?_⟩
            · rw [behindLine]
              exact isOpen
            · rw [scanned]
              rfl

/-- A text that closes what was left open before it has the closing brace, and all up to it
is balanced. -/
theorem exists_closing {text code : List Char} {deeper : Nat}
    (isOpen : followBraces 1 text = .opened deeper)
    (isClosed : followBraces deeper code = .closed) :
    ∃ front back, code = front ++ '}' :: back ∧ Balanced (text ++ front) := by
  have together : followBraces 1 (text ++ code) = .closed := by
    rw [followBraces_append, isOpen]
    exact isClosed
  obtain ⟨inner, back, isText, inside⟩ := followBraces_one_closed_iff.mp together
  rcases List.append_eq_append_iff.mp isText with ⟨front, rfl, rfl⟩ | ⟨closing, rfl, isRest⟩
  · exact ⟨front, back, rfl, inside⟩
  · cases closing with
    | nil =>
        rw [List.nil_append] at isRest
        exact ⟨[], back, isRest.symm, by simpa using inside⟩
    | cons char more =>
        -- the brace would have been closed within the text before
        obtain ⟨rfl, _⟩ := List.cons.inj isRest
        rw [followBraces_one_closed_iff.mpr ⟨inner, more, rfl, inside⟩] at isOpen
        contradiction

/-- The line at an index closes the brace that opens before the text `behind` at the end of
the header. -/
def ClosedAt (lines : List CodeLine) (header : Nat) (behind : List Char) (index : Nat) : Prop :=
  header < index ∧ ∃ line front back, lines[index]? = some line
    ∧ line.code = front ++ '}' :: back
    ∧ Balanced (behind ++ codeOf ((lines.take index).drop (header + 1)) ++ front)

/-- The block reaches below its header: to the line that closes the brace before `behind`, or
unbalanced to the limit if no line up to there does. -/
def ReachesBelow (lines : List CodeLine) (header limit : Nat) (behind : List Char)
    (found : Nat × Bool) : Prop :=
  header < found.1
    ∧ (found.1 ≤ limit ∧ found.2 = true ∧ ClosedAt lines header behind found.1
      ∨ found = (limit, false) ∧ ∀ index ≤ limit, ¬ClosedAt lines header behind index)

section Below

variable {lines near : List CodeLine} {header limit : Nat}
  (isNear : (lines.take (limit + 1)).drop (header + 1) = near)

include isNear

/-- A line between the header and the limit parts the lines that the limit leaves. -/
theorem near_eq_of_index {index : Nat} (isBelow : header < index) (inLimit : index ≤ limit)
    {line : CodeLine} (isLine : lines[index]? = some line) :
    ∃ after, near = (lines.take index).drop (header + 1) ++ line :: after := by
  obtain ⟨inLines, isLine⟩ := List.getElem?_eq_some_iff.mp isLine
  have isRest : (lines.take (limit + 1)).drop index =
      line :: (lines.take (limit + 1)).drop (index + 1) := by
    rw [List.drop_eq_getElem_cons (by rw [List.length_take]; omega), List.getElem_take, isLine]
  rw [← isNear, drop_take_parted isBelow (Nat.le_succ_of_le inLimit) inLines.le, isRest]
  exact ⟨_, rfl⟩

/-- A line among those that the limit leaves stands at an index. -/
theorem index_of_near_eq {before after : List CodeLine} {line : CodeLine}
    (parted : near = before ++ line :: after) :
    lines[header + 1 + before.length]? = some line
      ∧ (lines.take (header + 1 + before.length)).drop (header + 1) = before
      ∧ header + 1 + before.length ≤ limit := by
  have isLength := congrArg List.length (isNear.trans parted)
  rw [List.length_drop, List.length_take, List.length_append, List.length_cons] at isLength
  have inLimit : header + 1 + before.length ≤ limit := by omega
  refine ⟨?_, ?_, inLimit⟩
  · rw [← List.getElem?_take_of_lt (Nat.lt_succ_of_le inLimit), ← List.getElem?_drop, isNear,
      parted]
    simp
  · have isFront : near.take before.length = before := by
      rw [parted]
      exact List.take_left
    rw [← isNear, List.take_drop, List.take_take, Nat.min_eq_left (by omega)] at isFront
    exact isFront

/-- The scan that begins inside a brace before `behind` finds the line that closes it. -/
theorem closedWithin_reachesBelow {behind : List Char} {depth : Nat} (inOrder : header < limit)
    (inLines : limit < lines.length) (isOpen : followBraces 1 behind = .opened (depth + 1)) :
    ReachesBelow lines header limit behind
      (header + (closedWithin (depth + 1) near).below,
        (closedWithin (depth + 1) near).balanced) := by
  have goesOn (code : List Char) :
      followBraces 1 (behind ++ code) = followBraces (depth + 1) code := by
    rw [followBraces_append, isOpen]
  rcases closedWithin_cases depth near with
    ⟨before, line, after, deeper, parted, openBefore, closedHere, scanned⟩ |
      ⟨⟨deeper, openTo⟩, scanned⟩
  · obtain ⟨isLine, isBefore, inLimit⟩ := index_of_near_eq isNear parted
    rw [← goesOn] at openBefore
    obtain ⟨front, back, isCode, balanced⟩ := exists_closing openBefore closedHere
    have isBelow : header < header + 1 + before.length := by omega
    rw [scanned, ← Nat.add_assoc, Nat.add_right_comm]
    refine ⟨isBelow, .inl ⟨inLimit, rfl, isBelow, line, front, back, isLine, isCode, ?_⟩⟩
    rw [isBefore]
    exact balanced
  · have nearLength : header + near.length = limit := by
      rw [← isNear, List.length_drop, List.length_take]
      omega
    rw [scanned, nearLength]
    refine ⟨inOrder, .inr ⟨rfl, ?_⟩⟩
    rintro index inLimit ⟨isBelow, line, front, back, isLine, isCode, balanced⟩
    obtain ⟨after, parted⟩ := near_eq_of_index isNear isBelow inLimit isLine
    have closes : Closes (behind ++ codeOf near) :=
      ⟨_, back ++ codeOf after, by simp [parted, codeOf, isCode], balanced⟩
    rw [← followBraces_one_closed_iff, goesOn, openTo] at closes
    contradiction

end Below

/-- A header with a brace left open owns the lines below it up to the one that closes the
outermost such brace, or up to the limit, exactly if it opens no brace before that one.  If
it does, the block ends on the header itself. -/
theorem lastLine_reachesBelow_iff {lines : List CodeLine} {header limit : Nat} {head : CodeLine}
    (inOrder : header < limit) (inLines : limit < lines.length)
    (isHead : lines[header]? = some head)
    (notColon : Text.closesWith [':'] head.code = false)
    (isOpen : 0 < openBraces 0 head.code) :
    ∃ front behind, LeavesOpen head.code front behind
      ∧ (ReachesBelow lines header limit behind (lastLine lines header limit) ↔ '{' ∉ front)
      ∧ ('{' ∈ front → lastLine lines header limit = (header, true)) := by
  obtain ⟨front, behind, leavesOpen⟩ := exists_leavesOpen isOpen
  obtain ⟨head', near, isHeader, nearLength⟩ := exists_header inOrder.le inLines
  have isNear : (lines.take (limit + 1)).drop (header + 1) = near := by
    rw [← List.drop_drop, isHeader]
    rfl
  obtain rfl : head' = head := by
    have isFirst := congrArg List.head? isHeader
    rw [List.head?_drop, List.getElem?_take_of_lt (by omega), isHead] at isFirst
    exact (Option.some.inj isFirst).symm
  have someNear : near ≠ [] := List.ne_nil_of_length_pos (by omega)
  have notColon' : ¬Text.closesWith [':'] head'.code = true := by simp [notColon]
  have found := lastLine_of_header inOrder.le inLines isHeader
  have onHeader (someBrace : '{' ∈ front) : lastLine lines header limit = (header, true) := by
    rw [found, extent_of_closed someNear notColon' (leavesOpen.followBraces_closed someBrace)]
    rfl
  refine ⟨front, behind, leavesOpen, ⟨fun reaches someBrace => ?_, fun noBrace => ?_⟩, onHeader⟩
  · rw [onHeader someBrace] at reaches
    exact Nat.lt_irrefl header reaches.1
  · obtain ⟨sameBraces, depth, openBehind⟩ := leavesOpen.followBraces_opened noBrace
    rw [found, extent_of_opened someNear notColon' (sameBraces.trans openBehind)]
    exact closedWithin_reachesBelow isNear inOrder inLines openBehind

/-- Two braces are left open, and the outer one is closed two lines below. -/
theorem lastLine_reachesBelow_iff_nested :
    let text := "while (a) \x7b if (b) \x7b\n  f();\n\x7d \x7d\ng();".toList
    let lines := (NormalizedSource.ofText text).lines
    let head : CodeLine := ⟨1, "while (a) \x7b if (b) \x7b".toList, 0⟩
    ((0 < 3 ∧ 3 < lines.length) ∧ lines[0]? = some head
        ∧ Text.closesWith [':'] head.code = false ∧ 0 < openBraces 0 head.code)
      ∧ ∃ front behind, LeavesOpen head.code front behind
        ∧ (ReachesBelow lines 0 3 behind (lastLine lines 0 3) ↔ '{' ∉ front)
        ∧ ('{' ∈ front → lastLine lines 0 3 = (0, true)) := by
  intro text lines head
  have inOrder : 0 < 3 := by decide
  have inLines : 3 < lines.length := by decide +kernel
  have isHead : lines[0]? = some head := by decide +kernel
  have notColon : Text.closesWith [':'] head.code = false := by decide +kernel
  have isOpen : 0 < openBraces 0 head.code := by decide +kernel
  exact ⟨⟨⟨inOrder, inLines⟩, isHead, notColon, isOpen⟩,
    lastLine_reachesBelow_iff inOrder inLines isHead notColon isOpen⟩

/-- A pattern in braces in the head of a loop ends the block there, before the brace of the
body. -/
theorem lastLine_onPattern :
    let text := "for (const \x7ba\x7d of xs) \x7b\n    s += a;\n\x7d\n".toList
    let lines := (NormalizedSource.ofText text).lines
    let head : CodeLine := ⟨1, "for (const \x7ba\x7d of xs) \x7b".toList, 0⟩
    ((0 < 2 ∧ 2 < lines.length) ∧ lines[0]? = some head
        ∧ Text.closesWith [':'] head.code = false ∧ 0 < openBraces 0 head.code)
      ∧ ¬0 < (lastLine lines 0 2).1 := by
  intro text lines head
  have inLines : 2 < lines.length := by decide +kernel
  have isHead : lines[0]? = some head := by decide +kernel
  have onHeader : (lastLine lines 0 2).1 = 0 := by decide +kernel
  refine ⟨⟨⟨by decide, inLines⟩, isHead, by decide +kernel, by decide +kernel⟩, ?_⟩
  rw [onHeader]
  exact Nat.lt_irrefl 0

end GrowthEstimate.Block
