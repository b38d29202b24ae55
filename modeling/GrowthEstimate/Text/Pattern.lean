import GrowthEstimate.Text.Line

/-!
Contract: text patterns and their leftmost match.

Owns: the pattern language, the matcher, and the three questions asked of a
pattern: whether it occurs, what its leftmost occurrence captures, and what all
its occurrences capture.

Does **not** own: any particular pattern.

## Which occurrence is found

An occurrence that starts further left wins.  Among occurrences that start at the
same place the first alternative wins over the later ones, a greedy repetition
takes as much as lets the rest match, and a reluctant one as little.

## Termination

The matcher follows the pattern, and what comes after a part is passed down as a
function.  Only the repetition of a compound part needs a bound, and the number of
characters that are left is one, since a round that takes nothing ends it.
-/

set_option autoImplicit false

namespace GrowthEstimate.Text

inductive Pattern where
  | empty
  | exactly (fragment : List Char)
  | one (accepts : Char → Bool)
  /-- Any number of characters of a class, as many as possible if greedy. -/
  | run (accepts : Char → Bool) (greedy : Bool)
  | both (first second : Pattern)
  | either (first second : Pattern)
  /-- Any number of rounds of a part, as many as possible. -/
  | rounds (body : Pattern)
  | keep (slot : Nat) (body : Pattern)
  | wordEdge
  | start
  | finish

namespace Pattern

/-- A place in a text: the character before it, the characters after it, and how many
they are. -/
structure Place where
  before : Option Char
  rest : List Char
  remaining : Nat

namespace Place

def ofText (text : List Char) : Place :=
  ⟨none, text, text.length⟩

/-- The place after the first character, if it is accepted. -/
def step? (accepts : Char → Bool) : Place → Option Place
  | ⟨_, [], _⟩ => none
  | ⟨_, char :: rest, remaining⟩ =>
      if accepts char then some ⟨some char, rest, remaining - 1⟩ else none

def skip? : List Char → Place → Option Place
  | [], place => some place
  | expected :: fragment, place =>
      match place.step? (· == expected) with
      | none => none
      | some next => skip? fragment next

/-- The place at `before`, and those after each accepted character from there on, put
in front of `found`, so that the furthest place comes first. -/
def spread (accepts : Char → Bool) :
    List Char → Option Char → Nat → List Place → List Place
  | [], before, remaining, found => ⟨before, [], remaining⟩ :: found
  | char :: rest, before, remaining, found =>
      let here : Place := ⟨before, char :: rest, remaining⟩
      if accepts char then spread accepts rest (some char) (remaining - 1) (here :: found)
      else here :: found

/-- The places that a run of accepted characters can reach, the furthest first. -/
def reached (accepts : Char → Bool) (place : Place) : List Place :=
  spread accepts place.rest place.before place.remaining []

def atWordEdge (place : Place) : Bool :=
  (place.before.any isWord) != (place.rest.head?.any isWord)

def textUpTo (place later : Place) : List Char :=
  place.rest.take (place.remaining - later.remaining)

end Place

/-- The texts kept so far, by slot, the latest first. -/
abbrev Kept := List (Nat × List Char)

/-- Where an occurrence ends, and what it kept. -/
structure Occurrence where
  finish : Place
  kept : Kept

def Occurrence.slot? (occurrence : Occurrence) (slot : Nat) : Option (List Char) :=
  occurrence.kept.lookup slot

abbrev Continuation := Place → Kept → Option Occurrence

/-- Any number of rounds, more of them first; a round that takes nothing is no round. -/
def roundsOf (body : Place → Kept → Continuation → Option Occurrence) :
    Nat → Place → Kept → Continuation → Option Occurrence
  | 0, place, kept, next => next place kept
  | bound + 1, place, kept, next =>
      match body place kept (fun after afterKept =>
          if after.remaining < place.remaining then
            roundsOf body bound after afterKept next
          else none) with
      | some found => some found
      | none => next place kept

def matchAt : Pattern → Place → Kept → Continuation → Option Occurrence
  | empty, place, kept, next => next place kept
  | exactly fragment, place, kept, next =>
      match place.skip? fragment with
      | none => none
      | some after => next after kept
  | one accepts, place, kept, next =>
      match place.step? accepts with
      | none => none
      | some after => next after kept
  | run accepts greedy, place, kept, next =>
      let places := place.reached accepts
      (if greedy then places else places.reverse).findSome? fun after => next after kept
  | both first second, place, kept, next =>
      first.matchAt place kept fun after afterKept => second.matchAt after afterKept next
  | either first second, place, kept, next =>
      match first.matchAt place kept next with
      | some found => some found
      | none => second.matchAt place kept next
  | rounds body, place, kept, next =>
      roundsOf (fun from_ fromKept following => body.matchAt from_ fromKept following)
        place.remaining place kept next
  | keep slot body, place, kept, next =>
      body.matchAt place kept fun after afterKept =>
        next after ((slot, place.textUpTo after) :: afterKept)
  | wordEdge, place, kept, next => if place.atWordEdge then next place kept else none
  | start, place, kept, next => if place.before.isNone then next place kept else none
  | finish, place, kept, next => if place.rest.isEmpty then next place kept else none

/-- The leftmost occurrence from a place on. -/
def findFrom (pattern : Pattern) :
    List Char → Option Char → Nat → Option Occurrence
  | [], before, remaining =>
      pattern.matchAt ⟨before, [], remaining⟩ [] fun at_ kept => some ⟨at_, kept⟩
  | char :: rest, before, remaining =>
      match
        pattern.matchAt ⟨before, char :: rest, remaining⟩ [] fun at_ kept => some ⟨at_, kept⟩
      with
      | some found => some found
      | none => findFrom pattern rest (some char) (remaining - 1)

def isAnchored : Pattern → Bool
  | start => true
  | both first _ => first.isAnchored
  | either first second => first.isAnchored && second.isAnchored
  | _ => false

def find? (pattern : Pattern) (text : List Char) : Option Occurrence :=
  if pattern.isAnchored then
    pattern.matchAt (Place.ofText text) [] fun at_ kept => some ⟨at_, kept⟩
  else pattern.findFrom text none text.length

def occursIn (pattern : Pattern) (text : List Char) : Bool :=
  (pattern.find? text).isSome

def capture? (pattern : Pattern) (slot : Nat) (text : List Char) : Option (List Char) :=
  match pattern.find? text with
  | none => none
  | some occurrence => occurrence.slot? slot

/-- The occurrences from a place on, each starting where the one before it ended, and
at most `bound` of them. -/
def findAllFrom (pattern : Pattern) : Nat → Place → List Occurrence
  | 0, _ => []
  | bound + 1, place =>
      match pattern.findFrom place.rest place.before place.remaining with
      | none => []
      | some occurrence => occurrence :: findAllFrom pattern bound occurrence.finish

/-- All occurrences of a pattern that never matches the empty text, from left to right
and without overlap. -/
def findAll (pattern : Pattern) (text : List Char) : List Occurrence :=
  pattern.findAllFrom text.length (Place.ofText text)

/-! ## Building patterns -/

instance : Coe String Pattern where
  coe fragment := exactly fragment.toList

def chain : List Pattern → Pattern
  | [] => empty
  | [part] => part
  | part :: parts => both part (chain parts)

/-- The first of the alternatives that lets the rest match. -/
def oneOf : List Pattern → Pattern
  | [] => empty
  | [part] => part
  | part :: parts => either part (oneOf parts)

def maybe (part : Pattern) : Pattern :=
  either part empty

/-- Any number of characters of a class, as many as possible. -/
def zeroOrMore (accepts : Char → Bool) : Pattern :=
  run accepts true

/-- At least one character of a class, and as many as possible. -/
def oneOrMore (accepts : Char → Bool) : Pattern :=
  both (one accepts) (run accepts true)

def blanks : Pattern :=
  zeroOrMore isSpace

def gap : Pattern :=
  oneOrMore isSpace

def word : Pattern :=
  oneOrMore isWord

def wordRest : Pattern :=
  zeroOrMore isWord

/-- An ASCII letter or underscore, and word characters after it. -/
def identifier : Pattern :=
  both (one isAsciiNameStart) wordRest

def among (characters : String) : Char → Bool :=
  fun char => characters.toList.contains char

def except (characters : String) : Char → Bool :=
  fun char => !characters.toList.contains char

end Pattern

end GrowthEstimate.Text
