import GrowthEstimate.Proofs.Source.Padding
import GrowthEstimate.Proofs.Source.Scan
import GrowthEstimate.Proofs.Text.Lines
import Mathlib.Data.List.Chain

/-!
Contract: normalized code has no mark of a comment in it.

Owns: bare code, that the stripper leaves nothing else, lines that it leaves whole, and the
code line at each index of a source.

Does **not** own: which characters of a line stand in comments and literals.

What one step yields is bare by itself, so a mark could only come about where it meets the
code kept before, across the comment or literal that stood between them.  It does not, since
a slash is kept only in sight of a character that opens no comment with it, and that
character is kept next.
-/

set_option autoImplicit false

namespace GrowthEstimate

open Text

/-- Two characters that open a comment wherever they stand next to each other. -/
def OpensComment (syntax_ : CommentSyntax) (first second : Char) : Prop :=
  first = '/' ∧ (syntax_ = .slash ∧ second = '/' ∨ syntax_ ≠ .hash ∧ second = '*')

/-- Code without a mark that opens a comment. -/
structure IsBare (syntax_ : CommentSyntax) (code : List Char) : Prop where
  noHash : '#' ∉ code
  apart : code.IsChain fun first second => ¬OpensComment syntax_ first second

namespace IsBare

variable {syntax_ : CommentSyntax} {code front back : List Char}

theorem nil : IsBare syntax_ [] :=
  ⟨List.not_mem_nil, List.isChain_nil⟩

theorem singleton {char : Char} (notHash : char ≠ '#') : IsBare syntax_ [char] :=
  ⟨by simpa using Ne.symm notHash, List.isChain_singleton char⟩

theorem pair {first second : Char} (firstNotHash : first ≠ '#') (secondNotHash : second ≠ '#')
    (apart : ¬OpensComment syntax_ first second) : IsBare syntax_ [first, second] :=
  ⟨by simp [Ne.symm firstNotHash, Ne.symm secondNotHash], List.isChain_pair.mpr apart⟩

theorem append (frontBare : IsBare syntax_ front) (backBare : IsBare syntax_ back)
    (apart : ∀ first, front.getLast? = some first → ∀ second, back.head? = some second →
      ¬OpensComment syntax_ first second) : IsBare syntax_ (front ++ back) where
  noHash isIn := (List.mem_append.mp isIn).elim frontBare.noHash backBare.noHash
  apart := List.isChain_append.mpr ⟨frontBare.apart, backBare.apart, apart⟩

theorem of_part (bare : IsBare syntax_ code) {part : List Char} (isPart : part <:+: code) :
    IsBare syntax_ part :=
  ⟨fun isIn => bare.noHash (isPart.subset isIn), List.IsChain.infix bare.apart isPart⟩

theorem noInfix (bare : IsBare syntax_ code) {first second : Char}
    (opens : OpensComment syntax_ first second) : ¬[first, second] <:+: code := by
  intro isPart
  exact List.isChain_pair.mp (bare.of_part isPart).apart opens

end IsBare

/-- In this state a triple quote or a literal is open at a mark that is a quote. -/
def StripState.QuotedByQuotes : StripState → Prop
  | .code | .blockComment => True
  | .tripleQuote mark | .literal mark => mark = '"' ∨ mark = '\''

theorem StripState.QuotedByQuotes.carried {state : StripState} (quotes : state.QuotedByQuotes) :
    state.carried.QuotedByQuotes := by
  cases state with
  | code | blockComment | literal => trivial
  | tripleQuote => exact quotes

namespace Stripper

/-! ## One step -/

/-- The next character is read as code, and opens no comment with a slash before it. -/
def KeepsApart (state : StripState) (skip : Nat) (ahead : List Char) : Prop :=
  state = .code ∧ ∀ next, (ahead.drop skip).head? = some next → next ≠ '/' ∧ next ≠ '*'

/-- What a move yields and goes on with, as far as comment marks are concerned. -/
structure YieldsBare (syntax_ : CommentSyntax) (state : StripState) (char : Char)
    (following : List Char) (next : StripState) (code : List Char) (skip : Nat) : Prop where
  quotes : next.QuotedByQuotes
  bare : IsBare syntax_ code
  /-- In code only a slash can yield nothing, and all else yields itself first. -/
  first : state = .code → code.head? = some char ∨ code = [] ∧ char = '/'
  last : syntax_ ≠ .hash → code.getLast? = some '/' → KeepsApart next skip following

/-- An operator that divides is followed by an operand or a blank. -/
theorem keepsApart_of_betweenOperands {lastInk : Option Char} {following : List Char}
    (between : betweenOperands lastInk following = true) : KeepsApart .code 0 following := by
  refine ⟨rfl, fun next isNext => ?_⟩
  obtain ⟨rest, rfl⟩ := List.head?_eq_some_iff.mp isNext
  have begins : isSpace next = false → beginsOperand next = true := by
    intro isInk
    rw [betweenOperands, trimStart, List.dropWhile_cons_of_neg (by simp [isInk]),
      Bool.and_eq_true] at between
    exact between.2
  constructor
  · rintro rfl
    exact absurd (begins (by decide)) (by decide)
  · rintro rfl
    exact absurd (begins (by decide)) (by decide)

theorem moveAtSlash_yieldsBare {syntax_ : CommentSyntax} {lastInk : Option Char}
    {following : List Char} {next : StripState} {code : List Char} {skip : Nat}
    (moved : moveAtSlash syntax_ lastInk following = .go next code skip) :
    YieldsBare syntax_ .code '/' following next code skip := by
  cases following with
  | nil =>
      cases moved
      exact ⟨trivial, .singleton (by decide), fun _ => .inl rfl, fun _ _ => ⟨rfl, by simp⟩⟩
  | cons first rest =>
      rw [moveAtSlash_cons] at moved
      split at moved
      · next isSlash =>
        split at moved
        · contradiction
        · next divides =>
          cases moved
          have notSlashSyntax : syntax_ ≠ .slash := by
            rintro rfl
            exact divides rfl
          refine ⟨trivial, .pair (by decide) (by decide) ?_, fun _ => .inl rfl, ?_⟩
          · simp [OpensComment, notSlashSyntax]
          · intro notHash _
            cases syntax_ with
            | hash | slash => contradiction
            | mixed =>
                have between : betweenOperands lastInk rest = true := by
                  simpa [opensLineComment] using divides
                exact keepsApart_of_betweenOperands between
      · next notSlash =>
        split at moved
        · cases moved
          exact ⟨trivial, .nil, fun _ => .inr ⟨rfl, rfl⟩, fun _ isLast => by contradiction⟩
        · next notStar =>
          cases moved
          refine ⟨trivial, .singleton (by decide), fun _ => .inl rfl, fun notHash _ => ⟨rfl, ?_⟩⟩
          rintro char isFirst
          cases isFirst
          exact ⟨notSlash, fun isStar => notStar ⟨isStar, notHash⟩⟩

theorem moveAtQuote_yieldsBare {syntax_ : CommentSyntax} {lastInk : Option Char} {mark : Char}
    (isQuote : mark = '"' ∨ mark = '\'') {following : List Char} {next : StripState}
    {code : List Char} {skip : Nat}
    (moved : moveAtQuote syntax_ lastInk mark following = .go next code skip) :
    YieldsBare syntax_ .code mark following next code skip := by
  have notSlash : mark ≠ '/' := by rcases isQuote with rfl | rfl <;> decide
  have notHash : mark ≠ '#' := by rcases isQuote with rfl | rfl <;> decide
  unfold moveAtQuote at moved
  split_ifs at moved <;> cases moved
  · exact ⟨isQuote, .singleton notHash, fun _ => .inl rfl, by simp [notSlash]⟩
  · refine ⟨isQuote, .pair notHash notHash ?_, fun _ => .inl rfl, by simp [notSlash]⟩
    simp [OpensComment, notSlash]
  · exact ⟨trivial, .singleton notHash, fun _ => .inl rfl, by simp [notSlash]⟩

theorem move_yieldsBare {syntax_ : CommentSyntax} {state : StripState} {lastInk : Option Char}
    {char : Char} (quotes : state.QuotedByQuotes) {following : List Char} {next : StripState}
    {code : List Char} {skip : Nat}
    (moved : move syntax_ state lastInk char following = .go next code skip) :
    YieldsBare syntax_ state char following next code skip := by
  cases state with
  | blockComment =>
      unfold move at moved
      simp only at moved
      split at moved <;> cases moved
      · exact ⟨trivial, .nil, by simp, by simp⟩
      · exact ⟨trivial, .nil, by simp, by simp⟩
  | tripleQuote mark =>
      have notSlash : mark ≠ '/' := by rcases quotes with rfl | rfl <;> decide
      have notHash : mark ≠ '#' := by rcases quotes with rfl | rfl <;> decide
      unfold move at moved
      simp only at moved
      split at moved <;> cases moved
      · exact ⟨trivial, .singleton notHash, by simp, by simp [notSlash]⟩
      · exact ⟨quotes, .nil, by simp, by simp⟩
  | literal mark =>
      unfold move at moved
      simp only at moved
      split_ifs at moved <;> cases moved
      · exact ⟨quotes, .nil, by simp, by simp⟩
      · exact ⟨trivial, .nil, by simp, by simp⟩
      · exact ⟨quotes, .nil, by simp, by simp⟩
  | code =>
      unfold move at moved
      simp only at moved
      split at moved
      · next isSlash =>
        subst isSlash
        exact moveAtSlash_yieldsBare moved
      · next notSlash =>
        split_ifs at moved with isHash isQuote
        · exact moveAtQuote_yieldsBare isQuote moved
        · cases moved
          exact ⟨trivial, .singleton isHash, fun _ => .inl rfl, by simp [notSlash]⟩

/-! ## A line -/

/-- The code kept so far is bare, and so it stays with whatever is kept next. -/
structure Reading.KeepsBare (syntax_ : CommentSyntax) (reading : Reading) (ahead : List Char) :
    Prop where
  quotes : reading.state.QuotedByQuotes
  bare : IsBare syntax_ reading.kept.reverse
  apart : syntax_ ≠ .hash → reading.kept.head? = some '/' →
    KeepsApart reading.state reading.skip ahead

variable {syntax_ : CommentSyntax}

theorem Reading.KeepsBare.pass {reading next : Reading} {char : Char} {rest : List Char}
    (keeps : reading.KeepsBare syntax_ (char :: rest))
    (passed : reading.pass syntax_ char rest = some next) : next.KeepsBare syntax_ rest := by
  obtain ⟨skip, state, lastInk, kept⟩ := reading
  cases skip with
  | succ skip =>
      cases passed
      exact ⟨keeps.quotes, keeps.bare, keeps.apart⟩
  | zero =>
      unfold Reading.pass at passed
      simp only at passed
      split at passed
      · contradiction
      · next goesTo code skips moved =>
        cases passed
        have yields := move_yieldsBare keeps.quotes moved
        -- behind a slash the character is read as code, and neither opens a comment with it
        have behindSlash (notHash : syntax_ ≠ .hash) (isLast : kept.head? = some '/') :
            code.head? = some char ∧ char ≠ '/' ∧ char ≠ '*' := by
          obtain ⟨isCode, opensNone⟩ := keeps.apart notHash isLast
          have notOpening := opensNone char rfl
          exact ⟨(yields.first isCode).resolve_right fun none => notOpening.1 none.2, notOpening⟩
        constructor
        case quotes => exact yields.quotes
        case bare =>
          rw [List.reverse_append, List.reverse_reverse]
          refine keeps.bare.append yields.bare ?_
          rintro first isLast second isFirst ⟨rfl, opens⟩
          rw [List.getLast?_reverse] at isLast
          have notHash : syntax_ ≠ .hash := by
            rcases opens with ⟨rfl, _⟩ | ⟨notHash, _⟩
            · decide
            · exact notHash
          obtain ⟨isChar, notSlash, notStar⟩ := behindSlash notHash isLast
          rw [isChar, Option.some.injEq] at isFirst
          rcases opens with ⟨_, isSlash⟩ | ⟨_, isStar⟩
          · exact notSlash (isFirst.trans isSlash)
          · exact notStar (isFirst.trans isStar)
        case apart =>
          intro notHash isLast
          rw [List.head?_append, List.head?_reverse] at isLast
          cases code with
          | nil =>
              have isKept : kept.head? = some '/' := by simpa using isLast
              have isChar := (behindSlash notHash isKept).1
              contradiction
          | cons first more =>
              have isLast' : (first :: more).getLast? = some '/' := by
                simpa [List.getLast?_cons] using isLast
              exact yields.last notHash isLast'

theorem Reading.KeepsBare.finish {reading : Reading} {ahead : List Char}
    (keeps : reading.KeepsBare syntax_ ahead) :
    IsBare syntax_ (reading.finish syntax_ ahead).1.reverse
      ∧ (reading.finish syntax_ ahead).2.QuotedByQuotes := by
  induction ahead generalizing reading with
  | nil =>
      rw [Reading.finish_nil]
      exact ⟨keeps.bare, keeps.quotes⟩
  | cons char rest inductionHypothesis =>
      rw [Reading.finish_cons]
      cases passed : reading.pass syntax_ char rest with
      | none => exact ⟨keeps.bare, keeps.quotes⟩
      | some next => exact inductionHypothesis (keeps.pass passed)

/-- A line leaves bare code, whatever state was carried to it. -/
theorem stripLine_bare {state : StripState} (quotes : state.QuotedByQuotes) (line : List Char) :
    IsBare syntax_ (stripLine syntax_ state line).1
      ∧ (stripLine syntax_ state line).2.QuotedByQuotes := by
  have atStart : (Reading.atStart state).KeepsBare syntax_ line :=
    ⟨quotes, .nil, fun _ isLast => by contradiction⟩
  rw [stripLine_eq]
  exact ⟨atStart.finish.1, atStart.finish.2.carried⟩

theorem carriedBehind_quotedByQuotes (syntax_ : CommentSyntax) {state : StripState}
    (quotes : state.QuotedByQuotes) (earlier : List (List Char)) :
    (carriedBehind syntax_ state earlier).QuotedByQuotes :=
  List.foldlRecOn (motive := StripState.QuotedByQuotes) earlier _ quotes
    fun _ carried line _ => (stripLine_bare carried line).2

/-! ## Lines left whole -/

/-- A line without quotes, number signs and slashes. -/
def IsUnmarked (line : List Char) : Prop :=
  ∀ char ∈ line, char ≠ '"' ∧ char ≠ '\'' ∧ char ≠ '#' ∧ char ≠ '/'

instance (line : List Char) : Decidable (IsUnmarked line) :=
  List.decidableBAll _ line

theorem finish_unmarked {line : List Char} (unmarked : IsUnmarked line) (lastInk : Option Char)
    (kept : List Char) :
    Reading.finish syntax_ ⟨0, .code, lastInk, kept⟩ line = (line.reverse ++ kept, .code) := by
  induction line generalizing lastInk kept with
  | nil => exact Reading.finish_nil
  | cons char rest inductionHypothesis =>
      obtain ⟨notDouble, notSingle, notHash, notSlash⟩ := unmarked char List.mem_cons_self
      have passed : Reading.pass syntax_ ⟨0, .code, lastInk, kept⟩ char rest =
          some ⟨0, .code, passInk lastInk char, char :: kept⟩ := by
        simp [Reading.pass, move, notDouble, notSingle, notHash, notSlash]
      rw [Reading.finish_cons, passed]
      simp only
      have unmarkedRest : IsUnmarked rest := fun other isOther =>
        unmarked other (List.mem_cons_of_mem char isOther)
      rw [inductionHypothesis unmarkedRest, List.reverse_cons, List.append_assoc,
        List.singleton_append]

theorem stripLine_unmarked {line : List Char} (unmarked : IsUnmarked line) :
    stripLine syntax_ .code line = (line, .code) := by
  rw [stripLine_eq, Reading.atStart, finish_unmarked unmarked, List.append_nil,
    List.reverse_reverse]
  rfl

end Stripper

/-! ## Sources -/

namespace NormalizedSource

/-- The code line at an index is its raw line stripped in the state carried to it. -/
theorem codeLinesFrom_getElem? (syntax_ : CommentSyntax) (state : StripState) (number : Nat)
    (raws : List (List Char)) (index : Nat) :
    (codeLinesFrom syntax_ state number [] raws)[index]? =
      raws[index]?.map fun raw =>
        ⟨number + index,
          trim (Stripper.stripLine syntax_
            (Stripper.carriedBehind syntax_ state (raws.take index)) raw).1,
          indentWidth raw⟩ := by
  induction raws generalizing state number index with
  | nil => rfl
  | cons raw rest inductionHypothesis =>
      rw [codeLinesFrom_cons]
      cases index with
      | zero => rfl
      | succ index =>
          rw [List.getElem?_cons_succ, List.getElem?_cons_succ, inductionHypothesis,
            Nat.add_assoc, Nat.add_comm 1 index]
          rfl

theorem trimmed_and_bare_of_line {text : List Char} {line : CodeLine}
    (isLine : line ∈ (ofText text).lines) :
    IsTrimmed line.code ∧ IsBare (ofText text).syntax_ line.code := by
  obtain ⟨index, isLine⟩ := List.mem_iff_getElem?.mp isLine
  rw [ofText, codeLinesFrom_getElem?, Option.map_eq_some_iff] at isLine
  obtain ⟨raw, _, rfl⟩ := isLine
  have atStart : StripState.code.QuotedByQuotes := trivial
  have carried := Stripper.carriedBehind_quotedByQuotes (CommentSyntax.detect text) atStart
    ((Text.lines text).take index)
  exact ⟨trim_isTrimmed _, (Stripper.stripLine_bare carried raw).1.of_part (infix_trim _)⟩

/-- A line that is read as code keeps all but the blanks around it, if it has nothing that
could begin a comment or a literal. -/
theorem code_of_unmarked {text raw : List Char} {index : Nat}
    (isRaw : (Text.lines text)[index]? = some raw)
    (inCode : Stripper.carriedBehind (ofText text).syntax_ .code ((Text.lines text).take index) =
      .code)
    (unmarked : Stripper.IsUnmarked raw) :
    (ofText text).lines[index]? = some ⟨1 + index, trim raw, indentWidth raw⟩ := by
  change Stripper.carriedBehind (.detect text) .code _ = .code at inCode
  rw [ofText, codeLinesFrom_getElem?, isRaw, Option.map_some, inCode,
    Stripper.stripLine_unmarked unmarked]

/-- A text is normalized to as many lines as it has, numbered from one on.  Each has trimmed
code without a number sign, without two slashes where these always open a comment, and
without a slash and a star unless only number signs open comments.  A line that is read as
code and has no quote, number sign and slash keeps all but the blanks around it. -/
theorem ofText_bare (text : List Char) :
    (ofText text).lines.length = (Text.lines text).length
      ∧ NumberedFrom 1 (ofText text).lines
      ∧ (∀ line ∈ (ofText text).lines,
        IsTrimmed line.code
          ∧ '#' ∉ line.code
          ∧ ((ofText text).syntax_ = .slash → ¬['/', '/'] <:+: line.code)
          ∧ ((ofText text).syntax_ ≠ .hash → ¬['/', '*'] <:+: line.code))
      ∧ ∀ index raw, (Text.lines text)[index]? = some raw →
        Stripper.carriedBehind (ofText text).syntax_ .code ((Text.lines text).take index) =
          .code →
        Stripper.IsUnmarked raw →
        ∃ line, (ofText text).lines[index]? = some line ∧ line.code = trim raw := by
  refine ⟨ofText_lines_length text, ofText_numbered text, fun line isLine => ?_, ?_⟩
  · obtain ⟨trimmed, bare⟩ := trimmed_and_bare_of_line isLine
    refine ⟨trimmed, bare.noHash, fun isSlash => ?_, fun notHash => ?_⟩
    · exact bare.noInfix ⟨rfl, .inl ⟨isSlash, rfl⟩⟩
    · exact bare.noInfix ⟨rfl, .inr ⟨notHash, rfl⟩⟩
  · intro index raw isRaw inCode unmarked
    exact ⟨_, code_of_unmarked isRaw inCode unmarked, rfl⟩

/-- Two slashes that divide are kept and the comment behind them is not; the line below the
comment is kept whole. -/
theorem ofText_bare_division :
    let text := "n = (lo + hi) // 2 /* half\n*/ #\n  total = n + 1 ".toList
    let raw := "  total = n + 1 ".toList
    ((Text.lines text)[2]? = some raw
        ∧ Stripper.carriedBehind (ofText text).syntax_ .code ((Text.lines text).take 2) = .code
        ∧ Stripper.IsUnmarked raw)
      ∧ ∃ line, (ofText text).lines[2]? = some line ∧ line.code = trim raw := by
  intro text raw
  have isRaw : (Text.lines text)[2]? = some raw := by decide +kernel
  have inCode : Stripper.carriedBehind (ofText text).syntax_ .code ((Text.lines text).take 2) =
      .code := by
    decide +kernel
  have unmarked : Stripper.IsUnmarked raw := by decide +kernel
  exact ⟨⟨isRaw, inCode, unmarked⟩, (ofText_bare text).2.2.2 2 raw isRaw inCode unmarked⟩

end NormalizedSource

end GrowthEstimate
