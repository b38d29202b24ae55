import Mathlib.Data.List.TakeWhile
import Mathlib.Logic.Relation
import GrowthEstimate.Source.Normalized

/-!
Contract: how far a block can reach, and the limit its end is looked for in.

Owns: what the scans for an extent do line by line and on blank lines, the bound on the extent of a
block by the lines below its header, for each of the ways in which an extent is found, and the last
line of a block by its extent; that the search for the end of a block comes to an end within its
limit, and that a farther limit changes nothing for a block that ends before the nearer one.

Does **not** own: which line closes a block.
-/

set_option autoImplicit false

namespace GrowthEstimate

/-! ## Extents -/

namespace Block

/-! ### Braces -/

section Steps

variable (depth : Nat) (rest : List Char)

theorem followBraces_opening :
    followBraces depth ('{' :: rest) = followBraces (depth + 1) rest := by
  simp [followBraces]

theorem followBraces_closing_none : followBraces 0 ('}' :: rest) = followBraces 0 rest := by
  simp [followBraces]

theorem followBraces_closing_last : followBraces 1 ('}' :: rest) = .closed := by
  simp [followBraces]

theorem followBraces_closing_inner :
    followBraces (depth + 2) ('}' :: rest) = followBraces (depth + 1) rest := by
  simp [followBraces]

variable {char : Char}

theorem followBraces_other (notOpening : char ≠ '{') (notClosing : char ≠ '}') :
    followBraces depth (char :: rest) = followBraces depth rest := by
  simp [followBraces, notOpening, notClosing]

end Steps

/-- Once a brace is open, the text closes it or leaves one open. -/
theorem followBraces_deep {depth deeper : Nat} {code : List Char} (deep : 0 < depth)
    (isOpen : followBraces depth code = .opened deeper) : 0 < deeper := by
  fun_induction followBraces depth code with
  | case1 depth =>
      cases isOpen
      exact deep
  | case2 depth rest inductionHypothesis =>
      exact inductionHypothesis (Nat.succ_pos depth) isOpen
  | case3 => contradiction
  | case4 => contradiction
  | case5 rest further notZero _ inductionHypothesis =>
      exact inductionHypothesis (Nat.pos_of_ne_zero notZero) isOpen
  | case6 depth char rest _ _ inductionHypothesis => exact inductionHypothesis deep isOpen

theorem followBraces_of_blank (depth : Nat) {line : CodeLine} (isBlank : line.isBlank = true) :
    followBraces depth line.code = .opened depth := by
  rw [List.isEmpty_iff.mp isBlank, followBraces]

theorem followBraces_opensWith {deeper : Nat} {code : List Char}
    (opens : Text.opensWith ['{'] code = true)
    (isOpen : followBraces 0 code = .opened deeper) : 0 < deeper := by
  cases code with
  | nil => contradiction
  | cons char rest =>
      by_cases isBrace : char = '{'
      · rw [followBraces, if_pos isBrace] at isOpen
        exact followBraces_deep Nat.one_pos isOpen
      · simp [Text.opensWith, Text.stripFront, Ne.symm isBrace] at opens

theorem closedWithin_cons_closed {depth : Nat} {line : CodeLine} (rest : List CodeLine)
    (found : followBraces depth line.code = .closed) :
    closedWithin depth (line :: rest) = ⟨1, true⟩ := by
  rw [closedWithin, found]

theorem closedWithin_cons_opened {depth deeper : Nat} {line : CodeLine} (rest : List CodeLine)
    (found : followBraces depth line.code = .opened deeper) :
    closedWithin depth (line :: rest) =
      ⟨(closedWithin deeper rest).below + 1, (closedWithin deeper rest).balanced⟩ := by
  rw [closedWithin, found]

theorem closedWithin_of_blank (depth : Nat) {lines : List CodeLine}
    (blank : ∀ line ∈ lines, line.isBlank = true) :
    (closedWithin (depth + 1) lines).balanced = false := by
  induction lines with
  | nil => rfl
  | cons line rest inductionHypothesis =>
      rw [closedWithin_cons_opened rest
        (followBraces_of_blank (depth + 1) (blank line List.mem_cons_self))]
      exact inductionHypothesis fun other isOther => blank other (List.mem_cons_of_mem line isOther)

theorem closedWithin_below_le (depth : Nat) (lines : List CodeLine) :
    (closedWithin depth lines).below ≤ lines.length := by
  induction lines generalizing depth with
  | nil => simp [closedWithin]
  | cons line rest inductionHypothesis =>
      unfold closedWithin
      cases followBraces depth line.code with
      | closed => simp
      | opened deeper => simpa using inductionHypothesis deeper

/-! ### Indentation -/

theorem indentedWithin_of_blank (base : Nat) {lines : List CodeLine}
    (blank : ∀ line ∈ lines, line.isBlank = true) : indentedWithin base lines = 0 := by
  induction lines with
  | nil => rfl
  | cons line rest inductionHypothesis =>
      rw [indentedWithin, if_pos (blank line List.mem_cons_self),
        inductionHypothesis fun other isOther => blank other (List.mem_cons_of_mem line isOther)]

theorem indentedWithin_le (base : Nat) (lines : List CodeLine) :
    indentedWithin base lines ≤ lines.length := by
  induction lines with
  | nil => simp [indentedWithin]
  | cons line rest inductionHypothesis =>
      simp only [indentedWithin, List.length_cons]
      split
      · split
        · exact Nat.zero_le _
        · next further isFurther => omega
      · split
        · exact Nat.zero_le _
        · omega

/-! ### Blocks -/

theorem length_behindBlanks {lines rest : List CodeLine} {next : CodeLine}
    (isNext : lines.dropWhile CodeLine.isBlank = next :: rest) : rest.length < lines.length := by
  have shorter := (List.dropWhile_sublist (p := CodeLine.isBlank) (l := lines)).length_le
  rwa [isNext, List.length_cons] at shorter

section Headers

variable {header : CodeLine} {below : List CodeLine}

theorem extent_of_colon (someLines : below ≠ [])
    (isColon : Text.closesWith [':'] header.code = true) :
    extent header below = ⟨indentedWithin header.indent below, true⟩ := by
  rw [extent, if_neg (by simpa using someLines), if_pos isColon]

theorem extent_of_closed (someLines : below ≠ [])
    (notColon : ¬Text.closesWith [':'] header.code = true)
    (isClosed : followBraces 0 header.code = .closed) : extent header below = ⟨0, true⟩ := by
  rw [extent, if_neg (by simpa using someLines), if_neg notColon, isClosed]

theorem extent_of_opened (someLines : below ≠ [])
    (notColon : ¬Text.closesWith [':'] header.code = true) {depth : Nat}
    (isOpen : followBraces 0 header.code = .opened (depth + 1)) :
    extent header below = closedWithin (depth + 1) below := by
  rw [extent, if_neg (by simpa using someLines), if_neg notColon, isOpen]

/-- A header without a brace or a colon behind it has no lines below if it is a statement or
no code follows. -/
theorem extent_of_alone (notColon : ¬Text.closesWith [':'] header.code = true)
    (noBrace : followBraces 0 header.code = .opened 0)
    (isAlone : Text.closesWith [';'] header.code = true
      ∨ below.dropWhile CodeLine.isBlank = []) : (extent header below).below = 0 := by
  rw [extent, if_neg notColon, noBrace]
  rcases isAlone with isStatement | noCode
  · simp only [if_pos isStatement]
    split <;> rfl
  · split
    · rfl
    · simp only
      split
      · rfl
      · split
        · rfl
        · next next rest isNext => exact absurd (isNext.symm.trans noCode) (by simp)

end Headers

/-- A header without a brace, a colon or a semicolon behind it owns what the first line of
code below it shows. -/
theorem extent_behindBlanks {header next : CodeLine} {below rest : List CodeLine}
    (notColon : ¬Text.closesWith [':'] header.code = true)
    (noBrace : followBraces 0 header.code = .opened 0)
    (notStatement : ¬Text.closesWith [';'] header.code = true)
    (isNext : below.dropWhile CodeLine.isBlank = next :: rest) :
    extent header below =
      if Text.opensWith ['{'] next.code then closedWithin 0 below
      else if header.indent < next.indent then
        ⟨below.length - rest.length + (extent next rest).below, (extent next rest).balanced⟩
      else ⟨0, true⟩ := by
  have someLines : ¬below.isEmpty = true := by
    intro noLines
    rw [List.isEmpty_iff.mp noLines] at isNext
    contradiction
  rw [extent, if_neg someLines, if_neg notColon, noBrace]
  simp only [if_neg notStatement]
  split
  · next noCode => exact absurd (isNext.symm.trans noCode) (by simp)
  · next next' rest' isNext' =>
      obtain ⟨rfl, rfl⟩ := List.cons.inj (isNext.symm.trans isNext')
      rfl

/-- A block never reaches past the lines it may use. -/
theorem extent_below_le (header : CodeLine) (below : List CodeLine) :
    (extent header below).below ≤ below.length := by
  fun_induction extent header below with
  | case1 | case3 | case5 | case6 | case9 => exact Nat.zero_le _
  | case2 => exact indentedWithin_le _ _
  | case4 => exact closedWithin_below_le _ _
  | case7 => exact closedWithin_below_le _ _
  | case8 header below _ _ _ _ next rest behindBlanks _ _ body inductionHypothesis =>
      -- the nested body starts at the first line of code, so blanks are never counted twice
      have shorter := (List.dropWhile_sublist (p := CodeLine.isBlank) (l := below)).length_le
      rw [behindBlanks, List.length_cons] at shorter
      change below.length - rest.length + (extent next rest).below ≤ below.length
      omega

/-- The last line of a block is found from its header and the lines below it that the limit
leaves. -/
theorem lastLine_of_header {lines below : List CodeLine} {head : CodeLine} {header limit : Nat}
    (inOrder : header ≤ limit) (inLines : limit < lines.length)
    (isHeader : (lines.take (limit + 1)).drop header = head :: below) :
    lastLine lines header limit =
      (header + (extent head below).below, (extent head below).balanced) := by
  have sameLimit : min limit (lines.length - 1) = limit := by omega
  simp only [lastLine, sameLimit, Nat.min_eq_left inOrder, isHeader]

/-! ## Limits

A header without braces hands the search on to the header of its body.  Each hand-over goes to a
line further down, which bounds their number by the lines up to the limit.  Whether the block is
balanced does not matter; a header at its limit is judged by its own braces alone. -/

/-! ### Handing on -/

/-- The block of the header at an index ends where that of the line `next` does: the header
has no brace, no colon and no semicolon behind it, and `next` is the first line of code
below it, indented deeper and not beginning with a brace. -/
def HandsOn (lines : List CodeLine) (limit header next : Nat) : Prop :=
  ∃ head blanks body rest,
    (lines.take (limit + 1)).drop header = head :: (blanks ++ body :: rest)
      ∧ next = header + blanks.length + 1
      ∧ (∀ line ∈ blanks, line.isBlank = true) ∧ body.isBlank = false
      ∧ '{' ∉ head.code ∧ Text.closesWith [':'] head.code = false
      ∧ Text.closesWith [';'] head.code = false
      ∧ Text.opensWith ['{'] body.code = false ∧ head.indent < body.indent

theorem followBraces_of_noBrace {code : List Char} (noBrace : '{' ∉ code) :
    followBraces 0 code = .opened 0 := by
  induction code with
  | nil => rfl
  | cons char rest inductionHypothesis =>
      rw [List.mem_cons, not_or] at noBrace
      rw [followBraces, if_neg (Ne.symm noBrace.1), inductionHypothesis noBrace.2, ite_self]

theorem dropWhile_blanks {blanks : List CodeLine} (areBlank : ∀ line ∈ blanks, line.isBlank = true)
    {body : CodeLine} (isCode : body.isBlank = false) (rest : List CodeLine) :
    (blanks ++ body :: rest).dropWhile CodeLine.isBlank = body :: rest := by
  rw [List.dropWhile_append_of_pos areBlank, List.dropWhile_cons_of_neg (by simp [isCode])]

/-- The search goes on further down and finds the same. -/
theorem lastLine_of_handsOn {lines : List CodeLine} {limit header next : Nat}
    (inLines : limit < lines.length) (handsOn : HandsOn lines limit header next) :
    header < next ∧ next ≤ limit ∧ lastLine lines header limit = lastLine lines next limit := by
  obtain ⟨head, blanks, body, rest, isHeader, rfl, areBlank, isCode, noBrace, notColon,
    notStatement, notOpens, isDeeper⟩ := handsOn
  have inLimit := congrArg List.length isHeader
  simp only [List.length_drop, List.length_take, List.length_cons, List.length_append] at inLimit
  have isBody : (lines.take (limit + 1)).drop (header + blanks.length + 1) = body :: rest := by
    rw [Nat.add_assoc, ← List.drop_drop, isHeader, List.drop_succ_cons, List.drop_left]
  have found := extent_behindBlanks (by simp [notColon]) (followBraces_of_noBrace noBrace)
    (by simp [notStatement]) (dropWhile_blanks areBlank isCode rest)
  rw [if_neg (by simp [notOpens]), if_pos isDeeper] at found
  refine ⟨by omega, by omega, ?_⟩
  rw [lastLine_of_header (by omega) inLines isHeader, lastLine_of_header (by omega) inLines isBody,
    found, List.length_append, List.length_cons, Prod.mk.injEq]
  exact ⟨by dsimp only; omega, rfl⟩

/-- The search comes to a header that hands it on no further. -/
theorem exists_handsOn_last {lines : List CodeLine} {limit : Nat} (inLines : limit < lines.length)
    (header : Nat) :
    ∃ last, Relation.ReflTransGen (HandsOn lines limit) header last
      ∧ (∀ next, ¬HandsOn lines limit last next)
      ∧ lastLine lines header limit = lastLine lines last limit := by
  -- the lines left up to the limit become fewer with each hand-over
  induction left : limit - header using Nat.strongRecOn generalizing header with
  | ind left inductionHypothesis =>
      by_cases isLast : ∃ next, HandsOn lines limit header next
      · obtain ⟨next, handsOn⟩ := isLast
        obtain ⟨isBelow, inLimit, sameEnd⟩ := lastLine_of_handsOn inLines handsOn
        obtain ⟨last, reached, settled, sameEnd'⟩ :=
          inductionHypothesis (limit - next) (by omega) next rfl
        exact ⟨last, .head handsOn reached, settled, sameEnd.trans sameEnd'⟩
      · exact ⟨header, .refl, not_exists.mp isLast, rfl⟩

/-! ### Scans that end before a limit -/

theorem closedWithin_of_fits {depth : Nat} {near far : List CodeLine}
    (fits : (closedWithin depth (near ++ far)).below ≤ near.length) :
    (closedWithin depth near).below = (closedWithin depth (near ++ far)).below := by
  induction near generalizing depth with
  | nil => exact (Nat.le_zero.mp fits).symm
  | cons line rest inductionHypothesis =>
      rw [List.cons_append] at fits ⊢
      cases found : followBraces depth line.code with
      | closed => rw [closedWithin_cons_closed _ found, closedWithin_cons_closed _ found]
      | opened deeper =>
          rw [closedWithin_cons_opened _ found, List.length_cons] at fits
          rw [closedWithin_cons_opened _ found, closedWithin_cons_opened _ found]
          exact congrArg (· + 1) (inductionHypothesis (Nat.le_of_succ_le_succ fits))

theorem indentedWithin_of_fits {base : Nat} {near far : List CodeLine}
    (fits : indentedWithin base (near ++ far) ≤ near.length) :
    indentedWithin base near = indentedWithin base (near ++ far) := by
  induction near with
  | nil => exact (Nat.le_zero.mp fits).symm
  | cons line rest inductionHypothesis =>
      rw [List.cons_append, indentedWithin, List.length_cons] at fits
      rw [List.cons_append, indentedWithin, indentedWithin]
      split at fits
      · next isBlank =>
        rw [if_pos isBlank, if_pos isBlank, inductionHypothesis]
        split at fits
        · next none => omega
        · next further isFurther => omega
      · next isCode =>
        rw [if_neg isCode, if_neg isCode]
        split at fits
        · next isShallow => rw [if_pos isShallow, if_pos isShallow]
        · next isDeep =>
          rw [if_neg isDeep, if_neg isDeep, inductionHypothesis (Nat.le_of_succ_le_succ fits)]

/-- A scan for a closing brace passes blank lines, and goes on behind them. -/
theorem closedWithin_behindBlanks {depth : Nat} {blanks : List CodeLine}
    (areBlank : ∀ line ∈ blanks, line.isBlank = true) (rest : List CodeLine) :
    (closedWithin depth (blanks ++ rest)).below =
      blanks.length + (closedWithin depth rest).below := by
  induction blanks with
  | nil => simp
  | cons line others inductionHypothesis =>
      rw [List.forall_mem_cons] at areBlank
      rw [List.cons_append, closedWithin_cons_opened _ (followBraces_of_blank depth areBlank.1)]
      simp only [inductionHypothesis areBlank.2, List.length_cons]
      omega

theorem closedWithin_cons_pos (depth : Nat) (line : CodeLine) (rest : List CodeLine) :
    0 < (closedWithin depth (line :: rest)).below := by
  rw [closedWithin]
  split <;> exact Nat.succ_pos _

/-! ### Blocks that end before a limit -/

/-- The lines below a header are blank, or their first line of code is the same with more
lines behind. -/
theorem blank_or_next {near far rest : List CodeLine} {next : CodeLine}
    (isNext : (near ++ far).dropWhile CodeLine.isBlank = next :: rest) :
    (near.dropWhile CodeLine.isBlank = [] ∧ rest.length < far.length)
      ∨ ∃ nearRest, near.dropWhile CodeLine.isBlank = next :: nearRest
        ∧ rest = nearRest ++ far := by
  rw [List.dropWhile_append] at isNext
  split at isNext
  · next noCode =>
    refine .inl ⟨List.isEmpty_iff.mp noCode, ?_⟩
    have shorter := (List.dropWhile_sublist (p := CodeLine.isBlank) (l := far)).length_le
    rwa [isNext, List.length_cons] at shorter
  · next someCode =>
    obtain ⟨first, nearRest, isFirst⟩ := List.exists_cons_of_ne_nil
      (fun isEmpty => someCode (List.isEmpty_iff.mpr isEmpty))
    rw [isFirst, List.cons_append] at isNext
    obtain ⟨rfl, rfl⟩ := List.cons.inj isNext
    exact .inr ⟨nearRest, isFirst, rfl⟩

section NoBrace

variable {header next : CodeLine} {near far rest : List CodeLine}
  (notColon : ¬Text.closesWith [':'] header.code = true)
  (noBrace : followBraces 0 header.code = .opened 0)
  (notStatement : ¬Text.closesWith [';'] header.code = true)

include notColon noBrace notStatement

/-- The first line of code below a header without braces stands behind the limit, so a block
that ends before the limit has no lines. -/
theorem extent_of_fits_behindLimit
    (isNext : (near ++ far).dropWhile CodeLine.isBlank = next :: rest)
    (noCode : near.dropWhile CodeLine.isBlank = []) (isFar : rest.length < far.length)
    (fits : (extent header (near ++ far)).below ≤ near.length) :
    (extent header (near ++ far)).below = 0 := by
  rw [extent_behindBlanks notColon noBrace notStatement isNext] at fits ⊢
  split at fits
  · obtain ⟨first, others, rfl⟩ := List.exists_cons_of_length_pos (Nat.zero_lt_of_lt isFar)
    have reaches := closedWithin_cons_pos 0 first others
    rw [closedWithin_behindBlanks (List.dropWhile_eq_nil_iff.mp noCode)] at fits
    omega
  · next notOpens =>
    rw [if_neg notOpens]
    split at fits
    · simp only [List.length_append] at fits
      omega
    · next notDeeper => rw [if_neg notDeeper]

/-- The first line of code below a header without braces stands before the limit, and its own
block is the same if that ends before the limit. -/
theorem extent_of_fits_sameNext (isNext : near.dropWhile CodeLine.isBlank = next :: rest)
    (isNext' : (near ++ far).dropWhile CodeLine.isBlank = next :: (rest ++ far))
    (fits : (extent header (near ++ far)).below ≤ near.length)
    (sameBody : (extent next (rest ++ far)).below ≤ rest.length →
      (extent next rest).below = (extent next (rest ++ far)).below) :
    (extent header near).below = (extent header (near ++ far)).below := by
  rw [extent_behindBlanks notColon noBrace notStatement isNext'] at fits ⊢
  rw [extent_behindBlanks notColon noBrace notStatement isNext]
  split at fits
  · next opens =>
    rw [if_pos opens, if_pos opens]
    exact closedWithin_of_fits fits
  · next notOpens =>
    rw [if_neg notOpens, if_neg notOpens]
    split at fits
    · next isDeeper =>
      rw [if_pos isDeeper, if_pos isDeeper]
      have shorter := length_behindBlanks isNext
      simp only [List.length_append] at fits ⊢
      rw [sameBody (by omega)]
      omega
    · next notDeeper => rw [if_neg notDeeper, if_neg notDeeper]

end NoBrace

/-- A block that ends before the limit ends there whatever lines stand behind the limit. -/
theorem extent_of_fits {header : CodeLine} {near far : List CodeLine}
    (fits : (extent header (near ++ far)).below ≤ near.length) :
    (extent header near).below = (extent header (near ++ far)).below := by
  induction count : near.length using Nat.strongRecOn generalizing header near with
  | ind count inductionHypothesis =>
    by_cases someNear : near = []
    · subst someNear
      rw [extent]
      exact (Nat.le_zero.mp fits).symm
    have someLines : near ++ far ≠ [] := by simp [someNear]
    by_cases isColon : Text.closesWith [':'] header.code = true
    · rw [extent_of_colon someLines isColon] at fits ⊢
      rw [extent_of_colon someNear isColon]
      exact indentedWithin_of_fits fits
    cases found : followBraces 0 header.code with
    | closed =>
      rw [extent_of_closed someNear isColon found, extent_of_closed someLines isColon found]
    | opened depth =>
      rcases Nat.eq_zero_or_eq_succ_pred depth with noBrace | isDeep
      · rw [noBrace] at found
        by_cases isStatement : Text.closesWith [';'] header.code = true
        · rw [extent_of_alone isColon found (.inl isStatement),
            extent_of_alone isColon found (.inl isStatement)]
        cases isNext : (near ++ far).dropWhile CodeLine.isBlank with
        | nil =>
          have noCode : near.dropWhile CodeLine.isBlank = [] := by
            rw [List.dropWhile_eq_nil_iff] at isNext ⊢
            exact fun line isLine => isNext line (List.mem_append_left far isLine)
          rw [extent_of_alone isColon found (.inr isNext),
            extent_of_alone isColon found (.inr noCode)]
        | cons next rest =>
          rcases blank_or_next isNext with ⟨noCode, isFar⟩ | ⟨nearRest, isNear, rfl⟩
          · rw [extent_of_alone isColon found (.inr noCode),
              extent_of_fits_behindLimit isColon found isStatement isNext noCode isFar fits]
          · have shorter := length_behindBlanks isNear
            exact extent_of_fits_sameNext isColon found isStatement isNear isNext fits
              fun fitsBody => inductionHypothesis _ (by omega) fitsBody rfl
      · rw [isDeep] at found
        rw [extent_of_opened someLines isColon found] at fits ⊢
        rw [extent_of_opened someNear isColon found]
        exact closedWithin_of_fits fits

/-! ### Limits -/

/-- The lines between two indices are those up to an index between them and those from it
on. -/
theorem drop_take_parted {lines : List CodeLine} {first middle limit : Nat}
    (isBehind : first ≤ middle) (inLimit : middle ≤ limit) (inLines : middle ≤ lines.length) :
    (lines.take limit).drop first =
      (lines.take middle).drop first ++ (lines.take limit).drop middle := by
  have parted := List.take_append_drop middle (lines.take limit)
  rw [List.take_take, Nat.min_eq_left inLimit] at parted
  have starts : first ≤ (lines.take middle).length := by
    rw [List.length_take]
    omega
  rw [← List.drop_append_of_le_length starts, parted]

theorem exists_header {lines : List CodeLine} {header limit : Nat} (inOrder : header ≤ limit)
    (inLines : limit < lines.length) :
    ∃ head below, (lines.take (limit + 1)).drop header = head :: below
      ∧ below.length = limit - header := by
  have isLength : ((lines.take (limit + 1)).drop header).length = limit - header + 1 := by
    rw [List.length_drop, List.length_take]
    omega
  obtain ⟨head, below, isHeader⟩ := List.exists_cons_of_length_eq_add_one isLength
  rw [isHeader, List.length_cons] at isLength
  exact ⟨head, below, isHeader, Nat.succ_injective isLength⟩

/-- The search for the end of a block comes to a header whose block is found without another
one, the end lies between the header and the limit, and it is the same for every farther
limit for which the block ends before the nearer one. -/
theorem lastLine_withinLimit {lines : List CodeLine} {header limit farther : Nat}
    (inOrder : header ≤ limit) (isNearer : limit ≤ farther) (inLines : farther < lines.length) :
    (∃ last, Relation.ReflTransGen (HandsOn lines limit) header last
        ∧ (∀ next, ¬HandsOn lines limit last next)
        ∧ lastLine lines header limit = lastLine lines last limit)
      ∧ (header ≤ (lastLine lines header limit).1 ∧ (lastLine lines header limit).1 ≤ limit)
      ∧ ((lastLine lines header farther).1 ≤ limit →
        (lastLine lines header limit).1 = (lastLine lines header farther).1) := by
  have nearInLines : limit < lines.length := by omega
  obtain ⟨head, near, isHeader, nearLength⟩ := exists_header inOrder nearInLines
  have found := lastLine_of_header inOrder nearInLines isHeader
  refine ⟨exists_handsOn_last nearInLines header, ?_, ?_⟩
  · have bound := extent_below_le head near
    rw [found]
    exact ⟨Nat.le_add_right _ _, by dsimp only; omega⟩
  · -- the lines up to the farther limit are those up to the nearer one and more
    have isFarther : (lines.take (farther + 1)).drop header =
        head :: (near ++ (lines.take (farther + 1)).drop (limit + 1)) := by
      rw [drop_take_parted (Nat.le_succ_of_le inOrder) (Nat.succ_le_succ isNearer) nearInLines,
        isHeader, List.cons_append]
    have found' := lastLine_of_header (by omega) inLines isFarther
    intro fits
    rw [found'] at fits ⊢
    rw [found]
    have inNear : (extent head (near ++ (lines.take (farther + 1)).drop (limit + 1))).below
        ≤ near.length := by
      dsimp only at fits
      omega
    exact congrArg (header + ·) (extent_of_fits inNear)

/-- A loop around a loop around a statement ends with the statement, whether a line behind it
is in sight or not. -/
theorem lastLine_withinLimit_braceless :
    let text := "for (i = 0; i < n; i++)\n  for (j = 0; j < n; j++)\n\n    s++;\nend();".toList
    let lines := (NormalizedSource.ofText text).lines
    ((0 ≤ 3 ∧ 3 ≤ 4 ∧ 4 < lines.length) ∧ (lastLine lines 0 4).1 ≤ 3) ∧
      (lastLine lines 0 3).1 = (lastLine lines 0 4).1 := by
  intro text lines
  have inLines : 4 < lines.length := by decide +kernel
  have fits : (lastLine lines 0 4).1 ≤ 3 := by decide +kernel
  have within : 0 ≤ 3 ∧ 3 ≤ 4 := by decide
  exact ⟨⟨⟨within.1, within.2, inLines⟩, fits⟩,
    (lastLine_withinLimit within.1 within.2 inLines).2.2 fits⟩

end Block

end GrowthEstimate
