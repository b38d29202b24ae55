import GrowthEstimate.Text.Pattern

/-!
Contract: a source as numbered lines of bare code, and the blocks that its headers open.

Owns: the comment syntaxes and the decision between them, code without comments and without the
contents of quoted text, the code line, the normalized source, its lower-cased text and its
identifiers, and the extent of a block, given its header and the lines below it up to the limit
within which it must end.

Every later stage reads this form and nothing else of a source.
-/

set_option autoImplicit false

namespace GrowthEstimate

open Text

/-! ## Comment syntaxes

The syntax is decided once for a whole source. -/

/-- How `//`, `/*` and single quotes are read. -/
inductive CommentSyntax where
  /-- Only `#` opens a comment, `//` divides, and a single quote always quotes. -/
  | hash
  /-- `//` and `/*` open comments, and a single quote may open a lifetime or a label. -/
  | slash
  /-- As `slash`, but `//` between two operands divides. -/
  | mixed
  deriving DecidableEq, Repr, Inhabited

namespace CommentSyntax

open Pattern

/-- A block header that ends with a colon, such as `def f(x):`, `for i in range(n):` or
`else:`, with a comment after it or not. -/
def colonHeader : Pattern :=
  chain [
    .start, blanks,
    oneOf [
      chain [maybe (chain ["async", gap]), "def", gap, word, blanks, "(", zeroOrMore (except "\n")],
      chain ["class", gap, word, zeroOrMore (except "\n")],
      chain [oneOf ["for", "while", "if", "elif", "with"], .wordEdge, zeroOrMore (except "\x7b;")],
      "else",
      "try",
      "finally",
      chain ["except", .wordEdge, zeroOrMore (except "\x7b;")]],
    blanks, ":", blanks,
    maybe (chain ["#", zeroOrMore (except "\n")]),
    .finish]

/-- The syntax of a source: `hash` if some line is a block header with a colon, else
`slash` if a brace or a semicolon occurs, else `mixed`. -/
def detect (source : List Char) : CommentSyntax :=
  if (lines source).any colonHeader.occursIn then hash
  else if source.any (fun char => char == '{' || char == ';') then slash
  else mixed

end CommentSyntax

/-! ## The stripper

The stripper reads a line from left to right and keeps the last character it passed
that was no blank, since a division sign and a quote are told from their other uses
by what stands before them. -/

/-- What the stripper is inside of.  Only block comments and triple quotes carry over
from line to line; other literals end with their line. -/
inductive StripState where
  | code
  | blockComment
  | tripleQuote (mark : Char)
  | literal (mark : Char)
  deriving DecidableEq, Repr, Inhabited

namespace StripState

def carried : StripState → StripState
  | literal _ => code
  | state => state

end StripState

namespace Stripper

def endsOperand (char : Char) : Bool :=
  isAlphanumeric char || char == '_' || char == ')' || char == ']'

/-- Whether a character can begin an operand, or the rest of an assigning operator. -/
def beginsOperand (char : Char) : Bool :=
  isAlphanumeric char || char == '_' || char == '(' || char == '[' || char == '='

/-- Whether an operator stands between two operands: the last character before it that
is no blank ends one, and the first after it begins one. -/
def betweenOperands (lastInk : Option Char) (following : List Char) : Bool :=
  lastInk.any endsOperand && (trimStart following).head?.any beginsOperand

/-- Whether two slashes open a comment, given what stands before and after them. -/
def opensLineComment (syntax_ : CommentSyntax) (lastInk : Option Char) (following : List Char) :
    Bool :=
  match syntax_ with
  | .hash => false
  | .slash => true
  | .mixed => !betweenOperands lastInk following

/-- Whether what follows a single quote is one quoted character, escaped or not. -/
def isCharLiteral (following : List Char) : Bool :=
  match following with
  | [] => false
  | '\\' :: rest => rest[1]? == some '\'' || rest[2]? == some '\''
  | _ :: rest => rest.head? == some '\''

/-- Whether a single quote names a lifetime or a loop label and opens no literal. -/
def isLifetimeOrLabel (lastInk : Option Char) (following : List Char) : Bool :=
  match following with
  | [] => false
  | first :: _ =>
      let behind := following.dropWhile isNameChar
      let after := behind.head?
      if !(isAlphabetic first || first == '_') then false
      else if after == some '\'' then false
      else if !behind.contains '\'' then true
      else
        match lastInk with
        | some ',' => after == some ',' || after == some '>'
        | some ink => ink == '<' || ink == '&' || ink == '+' || ink == ':'
        | none => false

def opensCharLiteral (syntax_ : CommentSyntax) (lastInk : Option Char) (following : List Char) :
    Bool :=
  syntax_ == .hash || isCharLiteral following || !isLifetimeOrLabel lastInk following

/-- The last character passed that is no blank, after passing one more. -/
def passInk (lastInk : Option Char) (char : Char) : Option Char :=
  if isSpace char then lastInk else some char

/-- What the stripper does at one character. -/
inductive Move where
  | stop
  /-- The state behind the character, the code it yields, and how many of the characters
  after it belong to it. -/
  | go (state : StripState) (code : List Char) (skip : Nat)

def moveAtSlash (syntax_ : CommentSyntax) (lastInk : Option Char) (following : List Char) : Move :=
  match following with
  | '/' :: behind =>
      if opensLineComment syntax_ lastInk behind then .stop else .go .code ['/', '/'] 1
  | '*' :: _ => if syntax_ = .hash then .go .code ['/'] 0 else .go .blockComment [] 1
  | _ => .go .code ['/'] 0

def followsTwice (mark : Char) (following : List Char) : Bool :=
  opensWith [mark, mark] following

def moveAtQuote (syntax_ : CommentSyntax) (lastInk : Option Char) (mark : Char)
    (following : List Char) : Move :=
  if followsTwice mark following then .go (.tripleQuote mark) [mark] 2
  else if mark = '"' ∨ opensCharLiteral syntax_ lastInk following then
    .go (.literal mark) [mark, mark] 0
  else .go .code [mark] 0

/-- The move at a character, in a state and with the characters after it. -/
def move (syntax_ : CommentSyntax) (state : StripState) (lastInk : Option Char) (char : Char)
    (following : List Char) : Move :=
  match state with
  | .blockComment =>
      if char = '*' ∧ following.head? = some '/' then .go .code [] 1 else .go .blockComment [] 0
  | .tripleQuote mark =>
      if char = mark ∧ followsTwice mark following then .go .code [mark] 2
      else .go (.tripleQuote mark) [] 0
  | .literal mark =>
      if char = '\\' then .go (.literal mark) [] 1
      else if char = mark then .go .code [] 0
      else .go (.literal mark) [] 0
  | .code =>
      if char = '/' then moveAtSlash syntax_ lastInk following
      else if char = '#' then .stop
      else if char = '"' ∨ char = '\'' then moveAtQuote syntax_ lastInk char following
      else .go .code [char] 0

/-- Strips what is left of a line, its first `skip` characters being passed over.  `kept`
holds the code found so far, last character first.  The answer is all the code in that
order, and the state at the end. -/
def stripFrom (syntax_ : CommentSyntax) :
    Nat → StripState → Option Char → List Char → List Char → List Char × StripState
  | _, state, _, kept, [] => (kept, state)
  | skip + 1, state, lastInk, kept, char :: rest =>
      stripFrom syntax_ skip state (passInk lastInk char) kept rest
  | 0, state, lastInk, kept, char :: rest =>
      match move syntax_ state lastInk char rest with
      | .stop => (kept, state)
      | .go next code skip =>
          stripFrom syntax_ skip next (passInk lastInk char) (code.reverse ++ kept) rest

/-- Strips one line in the state carried to it: its code, and the state it carries on. -/
def stripLine (syntax_ : CommentSyntax) (state : StripState) (line : List Char) :
    List Char × StripState :=
  let (kept, last) := stripFrom syntax_ 0 state none [] line
  (kept.reverse, last.carried)

end Stripper

/-! ## Normalized sources -/

/-- A line of code without comments, literal contents and surrounding blanks. -/
structure CodeLine where
  /-- The number of the line, counted from one. -/
  number : Nat
  code : List Char
  /-- The width of the blanks before the line's first other character; a tab counts as
  four. -/
  indent : Nat
  deriving DecidableEq, Repr, Inhabited

namespace CodeLine

def isBlank (line : CodeLine) : Bool :=
  line.code.isEmpty

def opens (line : CodeLine) : Nat :=
  line.code.count '{'

def closes (line : CodeLine) : Nat :=
  line.code.count '}'

def lowered (line : CodeLine) : List Char :=
  lower line.code

end CodeLine

def indentWidth (raw : List Char) : Nat :=
  (raw.takeWhile isSpace).foldl (fun width char => width + if char = '\t' then 4 else 1) 0

structure NormalizedSource where
  lines : List CodeLine
  syntax_ : CommentSyntax
  deriving DecidableEq, Repr, Inhabited

namespace NormalizedSource

/-- The raw lines as code lines, numbered from `number` on, the stripper starting in
`state`.  `done` holds the lines before them, last line first. -/
def codeLinesFrom (syntax_ : CommentSyntax) :
    StripState → Nat → List CodeLine → List (List Char) → List CodeLine
  | _, _, done, [] => done.reverse
  | state, number, done, raw :: rest =>
      let (code, next) := Stripper.stripLine syntax_ state raw
      codeLinesFrom syntax_ next (number + 1)
        (⟨number, trim code, indentWidth raw⟩ :: done) rest

def ofText (source : List Char) : NormalizedSource :=
  let syntax_ := CommentSyntax.detect source
  ⟨codeLinesFrom syntax_ .code 1 [] (Text.lines source), syntax_⟩

def isBlank (source : NormalizedSource) : Bool :=
  source.lines.all CodeLine.isBlank

/-- The lower-cased code of all lines, joined by line feeds. -/
def lowered (source : NormalizedSource) : List Char :=
  joinLines (source.lines.map CodeLine.lowered)

/-- The lower-cased code of the lines at indices from `first` to `last`, both counted
from zero and included. -/
def loweredRange (source : NormalizedSource) (first last : Nat) : List Char :=
  joinLines (((source.lines.take (last + 1)).drop first).map CodeLine.lowered)

/-- The identifiers of a lower-cased code text: its words of ASCII letters, digits and
underscores that do not begin with a digit. -/
def identifiersIn (text : List Char) : List (List Char) :=
  (splitWhere (fun char => !isAsciiNameChar char) text).filter fun word =>
    match word with
    | [] => false
    | first :: _ => !first.isDigit

def identifiers (source : NormalizedSource) : List (List Char) :=
  identifiersIn source.lowered

def hasIdentifier (source : NormalizedSource) (identifier : List Char) : Bool :=
  source.identifiers.contains identifier

end NormalizedSource

/-! ## Blocks

A header that ends with a colon owns the lines indented deeper than itself.  Any
other header that leaves a brace open owns the lines up to the matching brace.  A
header without a brace owns the statement below it if that is indented deeper, and
the braces below it if they open at the start of the next line of code. -/

structure BlockExtent where
  /-- The number of lines below the header that belong to the block. -/
  below : Nat
  /-- False if a brace that the block opened is never closed. -/
  balanced : Bool
  deriving DecidableEq, Repr, Inhabited

namespace Block

/-- What the braces of a text leave behind. -/
inductive BraceState where
  | opened (depth : Nat)
  | closed
  deriving DecidableEq, Repr, Inhabited

/-- Follows the braces of a code text until the outermost one is closed.  A closing
brace counts only while one is open. -/
def followBraces : Nat → List Char → BraceState
  | depth, [] => .opened depth
  | depth, char :: rest =>
      if char = '{' then followBraces (depth + 1) rest
      else if char = '}' then
        match depth with
        | 0 => followBraces 0 rest
        | 1 => .closed
        | deeper + 1 => followBraces deeper rest
      else followBraces depth rest

/-- How many of the lines it takes to close the braces that are open, or all of them. -/
def closedWithin : Nat → List CodeLine → BlockExtent
  | depth, [] => ⟨0, depth == 0⟩
  | depth, line :: rest =>
      match followBraces depth line.code with
      | .closed => ⟨1, true⟩
      | .opened deeper =>
          let further := closedWithin deeper rest
          ⟨further.below + 1, further.balanced⟩

/-- How many of the lines belong to a block indented deeper than `base`.  Blank lines
belong to it if a line of the block follows. -/
def indentedWithin (base : Nat) : List CodeLine → Nat
  | [] => 0
  | line :: rest =>
      if line.isBlank then
        match indentedWithin base rest with
        | 0 => 0
        | further + 1 => further + 2
      else if line.indent ≤ base then 0
      else indentedWithin base rest + 1

/-- The extent of the block of a header, with the lines below it up to the limit. -/
def extent (header : CodeLine) (below : List CodeLine) : BlockExtent :=
  if below.isEmpty then ⟨0, header.opens ≤ header.closes⟩
  else if Text.closesWith [':'] header.code then ⟨indentedWithin header.indent below, true⟩
  else
    match followBraces 0 header.code with
    | .closed => ⟨0, true⟩
    | .opened (depth + 1) => closedWithin (depth + 1) below
    | .opened 0 =>
        if Text.closesWith [';'] header.code then ⟨0, true⟩
        else
          match _unfolding : below.dropWhile CodeLine.isBlank with
          | [] => ⟨0, true⟩
          | next :: rest =>
              if Text.opensWith ['{'] next.code then closedWithin 0 below
              else if header.indent < next.indent then
                let body := extent next rest
                ⟨below.length - rest.length + body.below, body.balanced⟩
              else ⟨0, true⟩
termination_by below.length
decreasing_by
  have shorter := (List.dropWhile_sublist (p := CodeLine.isBlank) (l := below)).length_le
  rw [_unfolding, List.length_cons] at shorter
  exact shorter

/-- The last line and the balance of the block whose header stands at an index, within
the lines up to the index `limit`.  A header at or past the limit has its block on the
last line it may use. -/
def lastLine (lines : List CodeLine) (header limit : Nat) : Nat × Bool :=
  let limit := min limit (lines.length - 1)
  match (lines.take (limit + 1)).drop (min header limit) with
  | [] => (min header limit, true)
  | head :: below =>
      let found := extent head below
      (min header limit + found.below, found.balanced)

end Block

end GrowthEstimate
