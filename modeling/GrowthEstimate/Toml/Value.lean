import GrowthEstimate.Number.Scalar

/-!
Contract: the values of a TOML document and their notation.

Owns: the values, the table of a document, and the numbers that a real number and an integer of a
document can be read as; the notation of booleans, integers, real numbers, dates and times, and of
texts in quotes.

Does **not** own: which values a document may hold.
-/

set_option autoImplicit false

namespace GrowthEstimate

/-! ## Values -/

namespace Toml

abbrev Key := List Char

/-- A real number as it is written. -/
inductive Real where
  /-- `mantissa` times ten to the power `exponent`. -/
  | finite (negative : Bool) (mantissa : Nat) (exponent : Int)
  | infinite (negative : Bool)
  | undefined
  deriving DecidableEq, Repr

inductive Value where
  | boolean (value : Bool)
  | integer (value : Int)
  | real (value : Real)
  | text (value : List Char)
  /-- A date, a time of day or both; which one it is has no use. -/
  | moment
  | list (items : List Value)
  | table (entries : List (Key × Value))

abbrev Table := List (Key × Value)

/-! ### Numbers -/

/-- The highest power of ten, up or down, at which digits are looked at: far beyond the
range of doubles. -/
def farthestPower : Int :=
  400

/-- The number nearest to a written one; none if that is beyond all finite numbers. -/
def Real.toScalar? {α : Type} [Scalar α] : Real → Option α
  | undefined => some Scalar.undefined
  | infinite negative =>
      let size : α := 1.0 / 0.0
      some (if negative then 0.0 - size else size)
  | finite negative mantissa exponent =>
      let top := (Nat.toDigits 10 mantissa).length + exponent
      let size? : Option α :=
        if mantissa = 0 || top < -farthestPower then some 0.0
        else if farthestPower < top then none
        else some (OfScientific.ofScientific mantissa (exponent < 0) exponent.natAbs)
      size?.bind fun size =>
        if Scalar.isFinite size then some (if negative then 0.0 - size else size) else none

/-- Whether an integer can be written with 128 bits, as more have no meaning. -/
def isWritable (value : Int) : Bool :=
  -Int.ofNat (Nat.pow 2 127) ≤ value && value < Int.ofNat (Nat.pow 2 128)

def isCount (value : Int) : Bool :=
  0 ≤ value && value < Int.ofNat (Nat.pow 2 64)

/-- Whether an integer is one of 64 bits, with or without a sign. -/
def isWord (value : Int) : Bool :=
  -Int.ofNat (Nat.pow 2 63) ≤ value && value < Int.ofNat (Nat.pow 2 64)

mutual

def Value.isReadable (α : Type) [Scalar α] : Value → Bool
  | .boolean _ | .text _ | .moment => true
  | .integer value => isWritable value
  | .real value => (value.toScalar? : Option α).isSome
  | .list items => itemsReadable α items
  | .table entries => entriesReadable α entries

def itemsReadable (α : Type) [Scalar α] : List Value → Bool
  | [] => true
  | item :: rest => item.isReadable α && itemsReadable α rest

def entriesReadable (α : Type) [Scalar α] : List (Key × Value) → Bool
  | [] => true
  | (_, value) :: rest => value.isReadable α && entriesReadable α rest

end

end Toml

/-! ## Values without quotes or brackets

Underscores may stand between two digits and nowhere else.  Decimal integers have no
leading zero; those of another base have a prefix and no sign.  Dates and times are
checked against the calendar. -/

namespace Toml.Bare

/-! ### Digits -/

def isDecimal (char : Char) : Bool :=
  '0' ≤ char && char ≤ '9'

def digitValue (char : Char) : Nat :=
  if isDecimal char then char.toNat - '0'.toNat
  else if 'a' ≤ char && char ≤ 'f' then char.toNat - 'a'.toNat + 10
  else if 'A' ≤ char && char ≤ 'F' then char.toNat - 'A'.toNat + 10
  else 16

def isDigit (base : Nat) (char : Char) : Bool :=
  digitValue char < base

/-- The digits of a text whose underscores all stand between two digits. -/
def digits? (base : Nat) : List Char → Option (List Char)
  | [] => none
  | [char] => if isDigit base char then some [char] else none
  | char :: '_' :: rest =>
      if isDigit base char then (digits? base rest).map (char :: ·) else none
  | char :: rest => if isDigit base char then (digits? base rest).map (char :: ·) else none

def valueOf (base : Nat) (digits : List Char) : Nat :=
  digits.foldl (fun value digit => value * base + digitValue digit) 0

/-- The digits of a decimal integer, which begin with a zero only if there is no more. -/
def wholeDigits? (text : List Char) : Option (List Char) :=
  match digits? 10 text with
  | some ('0' :: _ :: _) => none
  | found => found

/-- Whether a text is negative, and the text behind its sign. -/
def splitSign : List Char → Bool × List Char
  | '+' :: rest => (false, rest)
  | '-' :: rest => (true, rest)
  | text => (false, text)

/-! ### Numbers -/

def integer? : List Char → Option Int
  | '0' :: 'x' :: rest => (digits? 16 rest).map fun digits => (valueOf 16 digits : Int)
  | '0' :: 'o' :: rest => (digits? 8 rest).map fun digits => (valueOf 8 digits : Int)
  | '0' :: 'b' :: rest => (digits? 2 rest).map fun digits => (valueOf 2 digits : Int)
  | text =>
      let (negative, body) := splitSign text
      (wholeDigits? body).map fun digits =>
        let size : Int := valueOf 10 digits
        if negative then -size else size

def opensExponent (char : Char) : Bool :=
  char == 'e' || char == 'E'

def exponent? (text : List Char) : Option Int :=
  let (negative, body) := splitSign text
  (digits? 10 body).map fun digits =>
    let size : Int := valueOf 10 digits
    if negative then -size else size

def assemble (negative : Bool) (whole places : List Char) (exponent : Int) : Real :=
  .finite negative (valueOf 10 (whole ++ places)) (exponent - places.length)

/-- A real number without sign, which has places, an exponent or both. -/
def unsignedReal? (negative : Bool) (text : List Char) : Option Real := do
  let whole ← wholeDigits? (text.takeWhile fun char => char != '.' && !opensExponent char)
  match text.dropWhile fun char => char != '.' && !opensExponent char with
  | '.' :: rest =>
      let places ← digits? 10 (rest.takeWhile fun char => !opensExponent char)
      match rest.dropWhile fun char => !opensExponent char with
      | [] => some (assemble negative whole places 0)
      | _ :: written => (exponent? written).map (assemble negative whole places)
  | _ :: written => (exponent? written).map (assemble negative whole [])
  | [] => none

def real? (text : List Char) : Option Real :=
  let (negative, body) := splitSign text
  if body = "inf".toList then some (.infinite negative)
  else if body = "nan".toList then some .undefined
  else unsignedReal? negative body

/-! ### Dates and times -/

/-- The number that exactly `count` leading digits stand for, and the text behind them. -/
def leading? (count : Nat) (text : List Char) : Option (Nat × List Char) :=
  let digits := text.take count
  if digits.length == count && digits.all isDecimal then
    some (valueOf 10 digits, text.drop count)
  else none

def daysIn (year month : Nat) : Nat :=
  if month = 2 then
    if year % 4 = 0 && (year % 100 != 0 || year % 400 = 0) then 29 else 28
  else if month = 4 || month = 6 || month = 9 || month = 11 then 30
  else 31

def afterDate? (text : List Char) : Option (List Char) := do
  let (year, rest) ← leading? 4 text
  let ('-' :: rest) := rest | none
  let (month, rest) ← leading? 2 rest
  let ('-' :: rest) := rest | none
  let (day, rest) ← leading? 2 rest
  if 1 ≤ month && month ≤ 12 && 1 ≤ day && day ≤ daysIn year month then some rest else none

def afterMinute? (text : List Char) : Option (List Char) := do
  let (hour, rest) ← leading? 2 text
  let (':' :: rest) := rest | none
  let (minute, rest) ← leading? 2 rest
  if hour ≤ 23 && minute ≤ 59 then some rest else none

/-- The text behind the seconds of a time, which may be missing, as may their fraction. -/
def afterSecond? : List Char → Option (List Char)
  | ':' :: text => do
      let (second, rest) ← leading? 2 text
      if 60 < second then none
      else
        match rest with
        | '.' :: fraction =>
            if fraction.head?.any isDecimal then some (fraction.dropWhile isDecimal) else none
        | _ => some rest
  | text => some text

def afterTime? (text : List Char) : Option (List Char) :=
  (afterMinute? text).bind afterSecond?

/-- Whether the text is a distance from universal time. -/
def isOffset : List Char → Bool
  | ['Z'] | ['z'] => true
  | '+' :: rest | '-' :: rest => afterMinute? rest == some []
  | _ => false

def joinsDate (char : Char) : Bool :=
  char == 'T' || char == 't' || char == ' '

/-- Whether the text is a date, a time of day, or a date and a time, the latter with or
without an offset. -/
def isMoment (text : List Char) : Bool :=
  match afterDate? text with
  | some [] => true
  | some (joint :: time) =>
      joinsDate joint && (afterTime? time).any fun rest => rest.isEmpty || isOffset rest
  | none => afterTime? text == some []

/-! ### Values -/

def value? (text : List Char) : Option Value :=
  if text = "true".toList then some (.boolean true)
  else if text = "false".toList then some (.boolean false)
  else
    match integer? text with
    | some value => some (.integer value)
    | none =>
        match real? text with
        | some value => some (.real value)
        | none => if isMoment text then some .moment else none

def isBareValueChar (char : Char) : Bool :=
  char.isAlphanum || char == '+' || char == '-' || char == '_' || char == '.' || char == ':'

/-- The text of a value without quotes, and what comes behind it.  A blank between a date
and a time belongs to it. -/
def split (text : List Char) : List Char × List Char :=
  let first := text.takeWhile isBareValueChar
  match text.dropWhile isBareValueChar with
  | ' ' :: rest =>
      if (afterDate? first == some []) && rest.head?.any isDecimal then
        (first ++ ' ' :: rest.takeWhile isBareValueChar, rest.dropWhile isBareValueChar)
      else (first, ' ' :: rest)
  | rest => (first, rest)

end Toml.Bare

/-! ## Texts in quotes

A text on several lines stands between triple quotes.  A line feed right behind the
opening quotes is not part of it, and up to two quotes may stand right before the
closing ones. -/

namespace Toml.Quoted

abbrev Read (β : Type) := Option (β × List Char)

def withChar (char : Char) (found : Read (List Char)) : Read (List Char) :=
  found.map fun (text, rest) => (char :: text, rest)

def isPrintable (char : Char) : Bool :=
  char == '\t' || (32 ≤ char.toNat && char.toNat != 127)

/-! ### Escapes -/

/-- The character that exactly `count` hexadecimal digits stand for. -/
def codePoint? (count : Nat) (text : List Char) : Option Char :=
  let digits := text.take count
  let code := Bare.valueOf 16 digits
  if digits.length == count && digits.all (Bare.isDigit 16) && code.isValidChar then
    some (Char.ofNat code)
  else none

/-- The character that the text behind a backslash stands for, and how long that text
is. -/
def escape? : List Char → Option (Char × Nat)
  | 'b' :: _ => some ('\x08', 1)
  | 't' :: _ => some ('\t', 1)
  | 'n' :: _ => some ('\n', 1)
  | 'f' :: _ => some ('\x0c', 1)
  | 'r' :: _ => some ('\r', 1)
  | 'e' :: _ => some ('\x1b', 1)
  | '"' :: _ => some ('"', 1)
  | '\\' :: _ => some ('\\', 1)
  | 'x' :: rest => (codePoint? 2 rest).map fun char => (char, 3)
  | 'u' :: rest => (codePoint? 4 rest).map fun char => (char, 5)
  | 'U' :: rest => (codePoint? 8 rest).map fun char => (char, 9)
  | _ => none

def blankCount (text : List Char) : Nat :=
  (text.takeWhile fun char => char == ' ' || char == '\t').length

def layoutCount (text : List Char) : Nat :=
  (text.takeWhile fun char => char == ' ' || char == '\t' || char == '\n' || char == '\r').length

def atLineEnd : List Char → Bool
  | '\n' :: _ => true
  | '\r' :: '\n' :: _ => true
  | _ => false

/-- How many characters a backslash at the end of a line leaves out: all blanks and line
breaks up to the next character. -/
def joinCount? (text : List Char) : Option Nat :=
  if atLineEnd (text.drop (blankCount text)) then some (layoutCount text) else none

/-! ### Texts on one line -/

/-- A text with escapes, behind its opening quote. -/
def basic (text : List Char) : Read (List Char) :=
  match text with
  | [] => none
  | '"' :: rest => some ([], rest)
  | '\\' :: rest =>
      match escape? rest with
      | some (char, count) => withChar char (basic (rest.drop count))
      | none => none
  | char :: rest => if isPrintable char then withChar char (basic rest) else none
termination_by text.length
decreasing_by all_goals simp only [List.length_drop, List.length_cons]; omega

/-- A text without escapes, behind its opening quote. -/
def verbatim : List Char → Read (List Char)
  | [] => none
  | '\'' :: rest => some ([], rest)
  | char :: rest => if isPrintable char then withChar char (verbatim rest) else none

/-! ### Texts on several lines -/

/-- The end of a text behind three closing quotes: up to two more quotes belong to it. -/
def closing (quote : Char) (rest : List Char) : Read (List Char) :=
  let extra := (rest.take 2).takeWhile (· == quote)
  some (extra, rest.drop extra.length)

/-- The text behind a line break, if there is one. -/
def dropLineBreak : List Char → List Char
  | '\n' :: rest => rest
  | '\r' :: '\n' :: rest => rest
  | text => text

/-- Whether the character may stand for itself in a text on several lines, given what
comes behind it. -/
def mayStand (char : Char) (rest : List Char) : Bool :=
  isPrintable char || char == '\n' || (char == '\r' && rest.head? == some '\n')

/-- A text with escapes on several lines, behind its opening quotes and the first line
break. -/
def basicLines (text : List Char) : Read (List Char) :=
  match text with
  | [] => none
  | '"' :: '"' :: '"' :: rest => closing '"' rest
  | '\\' :: rest =>
      match joinCount? rest with
      | some count => basicLines (rest.drop count)
      | none =>
          match escape? rest with
          | some (char, count) => withChar char (basicLines (rest.drop count))
          | none => none
  | char :: rest => if mayStand char rest then withChar char (basicLines rest) else none
termination_by text.length
decreasing_by all_goals simp only [List.length_drop, List.length_cons]; omega

/-- A text without escapes on several lines, behind its opening quotes and the first line
break. -/
def verbatimLines : List Char → Read (List Char)
  | [] => none
  | '\'' :: '\'' :: '\'' :: rest => closing '\'' rest
  | char :: rest => if mayStand char rest then withChar char (verbatimLines rest) else none

/-! ### Values -/

/-- A text in quotes, if the text opens with a quote. -/
def value? : List Char → Option (Read (List Char))
  | '"' :: '"' :: '"' :: rest => some (basicLines (dropLineBreak rest))
  | '\'' :: '\'' :: '\'' :: rest => some (verbatimLines (dropLineBreak rest))
  | '"' :: rest => some (basic rest)
  | '\'' :: rest => some (verbatim rest)
  | _ => none

end Toml.Quoted

end GrowthEstimate
