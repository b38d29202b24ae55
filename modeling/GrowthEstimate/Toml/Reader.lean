import GrowthEstimate.Toml.Value

/-!
Contract: TOML documents.

Owns: how a table came to be, the rules on which tables may still be extended, and the insertion of
values, tables and lists of tables; blanks, comments and line breaks, keys, the lists and tables in
brackets, the statements of a document, and the reading of a whole document.
-/

set_option autoImplicit false

namespace GrowthEstimate

/-! ## Tables while a document is read

A table with a header of its own, a table that a header further down implies, and a
table that a dotted key made are told apart: the first takes no dotted keys from
outside, the second may still get its header, and the third never gets one.  Tables and
lists in brackets are closed. -/

namespace Toml

inductive Origin where
  | header
  | implied
  | dotted
  deriving DecidableEq, Repr

/-- What a key holds while a document is read. -/
inductive Item where
  | closed (value : Value)
  | table (origin : Origin) (entries : List (Key × Item))
  /-- Tables under one header, the last one first. -/
  | series (tables : List (List (Key × Item)))

namespace Item

abbrev Entries := List (Key × Item)

/-! ### Values -/

mutual

def value : Item → Value
  | closed value => value
  | table _ entries => .table (entryValues entries)
  | series tables => .list (tableValues tables).reverse

def entryValues : List (Key × Item) → List (Key × Value)
  | [] => []
  | (key, item) :: rest => (key, item.value) :: entryValues rest

def tableValues : List (List (Key × Item)) → List Value
  | [] => []
  | entries :: rest => .table (entryValues entries) :: tableValues rest

end

/-! ### Insertion -/

/-- The entries with an item under a key, in the place of an earlier one or else at the
end. -/
def put (key : Key) (item : Item) : Entries → Entries
  | [] => [(key, item)]
  | (other, found) :: rest =>
      if other = key then (key, item) :: rest else (other, found) :: put key item rest

/-- Changes the table at the end of a path.  Missing tables on the way are made: by dotted
keys, or implied by a header.  In a list of tables the last one is meant. -/
def changeAt (dotted : Bool) (change : Origin → Entries → Option Entries) :
    Origin → List Key → Entries → Option Entries
  | origin, [], entries => change origin entries
  | _, key :: path, entries =>
      match entries.lookup key with
      | none =>
          let origin := if dotted then Origin.dotted else .implied
          (changeAt dotted change origin path []).map fun inner =>
            put key (table origin inner) entries
      | some (table origin inner) =>
          if dotted && origin == .header then none
          else
            (changeAt dotted change origin path inner).map fun changed =>
              put key (table origin changed) entries
      | some (series (last :: earlier)) =>
          (changeAt dotted change .header path last).map fun changed =>
            put key (series (changed :: earlier)) entries
      | some (series []) | some (closed _) => none

/-- The entries with a value under a dotted key.  The key must be new, and its table one
that dotted keys made. -/
def assign (path : List Key) (key : Key) (value : Value) (entries : Entries) : Option Entries :=
  changeAt true
    (fun origin inner =>
      if origin == .dotted && (inner.lookup key).isNone then some (inner ++ [(key, closed value)])
      else none)
    .dotted path entries

/-- The entries with a table under a header, which is new or was only implied so far. -/
def openTable (path : List Key) (key : Key) (entries : Entries) : Option Entries :=
  changeAt false
    (fun _ inner =>
      match inner.lookup key with
      | none => some (inner ++ [(key, table .header [])])
      | some (table .implied found) => some (put key (table .header found) inner)
      | some _ => none)
    .header path entries

def openSeries (path : List Key) (key : Key) (entries : Entries) : Option Entries :=
  changeAt false
    (fun _ inner =>
      match inner.lookup key with
      | none => some (inner ++ [(key, series [[]])])
      | some (series tables) => some (put key (series ([] :: tables)) inner)
      | some _ => none)
    .header path entries

end Item

/-! ### Statements -/

/-- A statement of a document.  A path names the tables above the key. -/
inductive Statement where
  | header (path : List Key) (key : Key)
  | series (path : List Key) (key : Key)
  | assignment (path : List Key) (key : Key) (value : Value)

/-- A document while it is read: its entries, and where assignments go. -/
structure OpenDocument where
  entries : Item.Entries
  current : List Key

namespace OpenDocument

def empty : OpenDocument :=
  ⟨[], []⟩

def add (document : OpenDocument) : Statement → Option OpenDocument
  | .header path key =>
      (Item.openTable path key document.entries).map fun entries => ⟨entries, path ++ [key]⟩
  | .series path key =>
      (Item.openSeries path key document.entries).map fun entries => ⟨entries, path ++ [key]⟩
  | .assignment path key value =>
      (Item.changeAt false (fun _ inner => Item.assign path key value inner) .header
        document.current document.entries).map fun entries => { document with entries }

end OpenDocument

def tableOfStatements (statements : List Statement) : Option Table :=
  (statements.foldlM OpenDocument.add OpenDocument.empty).map fun document =>
    Item.entryValues document.entries

def tableOfAssignments (assignments : List (List Key × Key × Value)) : Option Table :=
  (assignments.foldlM
    (fun entries (path, key, value) => Item.assign path key value entries) []).map
    Item.entryValues

end Toml

/-! ## Documents

Tables in braces may have line breaks, comments and a comma behind their last entry.
Brackets may be nested eighty deep. -/

namespace Toml

/-! ### Blanks and comments -/

def skipBlanks (text : List Char) : List Char :=
  text.dropWhile fun char => char == ' ' || char == '\t'

/-- The text behind a comment that began already, at the end of its line. -/
def afterComment? : List Char → Option (List Char)
  | [] => some []
  | '\n' :: rest => some ('\n' :: rest)
  | '\r' :: '\n' :: rest => some ('\r' :: '\n' :: rest)
  | char :: rest => if Quoted.isPrintable char then afterComment? rest else none

/-- The text of the next line, if blanks and a comment are all that is left of this
one. -/
def afterLine? (text : List Char) : Option (List Char) := do
  let ended ← match skipBlanks text with
    | '#' :: rest => afterComment? rest
    | rest => some rest
  match ended with
  | [] => some []
  | '\n' :: rest => some rest
  | '\r' :: '\n' :: rest => some rest
  | _ => none

/-- The text behind blanks, line breaks and comments; `inComment` tells whether a comment
is being read. -/
def skipLayout (inComment : Bool) : List Char → Option (List Char)
  | [] => some []
  | '\n' :: rest => skipLayout false rest
  | '\r' :: '\n' :: rest => skipLayout false rest
  | char :: rest =>
      if inComment then if Quoted.isPrintable char then skipLayout true rest else none
      else if char == ' ' || char == '\t' then skipLayout false rest
      else if char == '#' then skipLayout true rest
      else some (char :: rest)

/-! ### Keys -/

def isKeyChar (char : Char) : Bool :=
  char.isAlphanum || char == '_' || char == '-'

def key : List Char → Option (Key × List Char)
  | '"' :: rest => Quoted.basic rest
  | '\'' :: rest => Quoted.verbatim rest
  | text =>
      let found := text.takeWhile isKeyChar
      if found.isEmpty then none else some (found, text.dropWhile isKeyChar)

/-- A dotted key as the keys before its last dot and the key behind it, and the text
behind the blanks that follow. -/
def dottedKey (text : List Char) : Option ((List Key × Key) × List Char) := do
  let (first, rest) ← key text
  match skipBlanks rest with
  | '.' :: later =>
      let next := skipBlanks later
      if next.length < text.length then
        let ((path, last), rest) ← dottedKey next
        some ((first :: path, last), rest)
      else none
  | rest => some (([], first), rest)
termination_by text.length

/-! ### Values -/

def listItems (element : List Char → Option (Value × List Char)) (text : List Char) :
    Option (List Value × List Char) := do
  match ← skipLayout false text with
  | ']' :: rest => some ([], rest)
  | inner =>
      let (first, rest) ← element inner
      match ← skipLayout false rest with
      | ']' :: rest => some ([first], rest)
      | ',' :: rest =>
          if rest.length < text.length then
            let (items, rest) ← listItems element rest
            some (first :: items, rest)
          else none
      | _ => none
termination_by text.length

def assignment (element : List Char → Option (Value × List Char)) (text : List Char) :
    Option ((List Key × Key × Value) × List Char) := do
  let ((path, last), rest) ← dottedKey text
  match rest with
  | '=' :: rest =>
      let (value, rest) ← element (skipBlanks rest)
      some ((path, last, value), rest)
  | _ => none

/-- The assignments of a table in braces behind its opening one. -/
def tableItems (element : List Char → Option (Value × List Char)) (text : List Char) :
    Option (List (List Key × Key × Value) × List Char) := do
  match ← skipLayout false text with
  | '\x7d' :: rest => some ([], rest)
  | inner =>
      let (first, rest) ← assignment element inner
      match ← skipLayout false rest with
      | '\x7d' :: rest => some ([first], rest)
      | ',' :: rest =>
          if rest.length < text.length then
            let (items, rest) ← tableItems element rest
            some (first :: items, rest)
          else none
      | _ => none
termination_by text.length

def plainValue (text : List Char) : Option (Value × List Char) :=
  match Quoted.value? text with
  | some found => found.map fun (written, rest) => (.text written, rest)
  | none =>
      let (written, rest) := Bare.split text
      (Bare.value? written).map fun value => (value, rest)

/-- A value whose brackets are nested less deep than `depth`. -/
def value : Nat → List Char → Option (Value × List Char)
  | 0, _ => none
  | depth + 1, '[' :: rest =>
      (listItems (value depth) rest).map fun (items, rest) => (.list items, rest)
  | depth + 1, '\x7b' :: rest => do
      let (assignments, rest) ← tableItems (value depth) rest
      let entries ← tableOfAssignments assignments
      some (.table entries, rest)
  | _ + 1, text => plainValue text

def deepestNesting : Nat :=
  80

/-! ### Statements -/

/-- A header, of a table or of one more table in a list. -/
def header : List Char → Option (Statement × List Char)
  | '[' :: '[' :: text => do
      let ((path, last), rest) ← dottedKey (skipBlanks text)
      match rest with
      | ']' :: ']' :: rest => some (.series path last, rest)
      | _ => none
  | '[' :: text => do
      let ((path, last), rest) ← dottedKey (skipBlanks text)
      match rest with
      | ']' :: rest => some (.header path last, rest)
      | _ => none
  | _ => none

/-- The statement on a line, if it has one, and the text of the next line. -/
def statement (text : List Char) : Option (Option Statement × List Char) := do
  match skipBlanks text with
  | '[' :: rest =>
      let (found, rest) ← header ('[' :: rest)
      some (some found, ← afterLine? rest)
  | line =>
      match afterLine? line with
      | some next => some (none, next)
      | none =>
          let ((path, last, found), rest) ← assignment (value (deepestNesting + 1)) line
          some (some (.assignment path last found), ← afterLine? rest)

def statements (text : List Char) : Option (List Statement) := do
  if text.isEmpty then some []
  else
    let (found, rest) ← statement text
    if rest.length < text.length then
      let later ← statements rest
      some (found.toList ++ later)
    else none
termination_by text.length

/-- The table of a document, which may open with a byte order mark. -/
def read (document : List Char) : Option Table :=
  let text := match document with
    | '\ufeff' :: rest => rest
    | other => other
  (statements text).bind tableOfStatements

end Toml

end GrowthEstimate
