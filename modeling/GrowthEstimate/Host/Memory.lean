import GrowthEstimate.Text.Line

/-!
Contract: what the commands need from the system that they run on, and a system in memory.

Owns: the operations of a system, and why one of them fails; paths as texts; directories and files
as a list, how paths are walked through them, and the operations on such a system.

Does **not** own: the system that the program is started on.
-/

set_option autoImplicit false

namespace GrowthEstimate

/-! ## Operations -/

/-- Why an operation on files fails. -/
inductive HostFault where
  | notFound
  | notDirectory
  | isDirectory
  /-- A file or the standard input is not UTF-8. -/
  | notText
  | other (message : String)
  deriving DecidableEq, Repr

def HostFault.message : HostFault → String
  | notFound => "No such file or directory (os error 2)"
  | notDirectory => "Not a directory (os error 20)"
  | isDirectory => "Is a directory (os error 21)"
  | notText => "stream did not contain valid UTF-8"
  | other message => message

/-- A system, whose operations are computations of `m`. -/
structure Host (m : Type → Type) where
  directory : m (List Char)
  pathExists : List Char → m Bool
  readFile : List Char → m (Except HostFault String)
  readInput : m (Except HostFault String)
  /-- Gives a file a text, whether it was there or not. -/
  writeFile : List Char → String → m (Except HostFault Unit)
  print : String → m Unit
  colours : m Bool
  freshSeed : m Nat

/-! ## Paths

A path is taken apart at slashes only; nothing is looked up.  Empty steps and steps to
the same directory count for nothing, except that a path may open with a dot. -/

namespace Path

/-- The front of a path, which is a slash or a dot that opens it, and its steps. -/
def split : List Char → List Char × List (List Char)
  | '/' :: rest => (['/'], Text.splitWhere (· == '/') rest)
  | ['.'] => (['.'], [])
  | '.' :: '/' :: rest => (['.'], Text.splitWhere (· == '/') ('/' :: rest))
  | text => ([], Text.splitWhere (· == '/') text)

def isIdle (step : List Char) : Bool :=
  step.isEmpty || step == ['.']

/-- Steps, the last one first, without the idle ones that come first. -/
def dropIdle (backwards : List (List Char)) : List (List Char) :=
  backwards.dropWhile isIdle

/-- The path of a front and of steps, the last step first. -/
def join (front : List Char) (backwards : List (List Char)) : List Char :=
  front ++ ['/'].intercalate backwards.reverse

/-- The path without its last step; the root and the empty path have none. -/
def parent? (path : List Char) : Option (List Char) :=
  let (front, steps) := split path
  match dropIdle steps.reverse with
  | _ :: rest => some (join front (dropIdle rest))
  | [] => if front = ['.'] then some [] else none

/-- A path and the paths above it, at most `count` of them, the nearest first. -/
def ancestors : Nat → List Char → List (List Char)
  | 0, _ => []
  | count + 1, path =>
      path :: match parent? path with
        | some parent => ancestors count parent
        | none => []

def inDirectory (directory name : List Char) : List Char :=
  if directory.isEmpty then name
  else if directory.getLast? = some '/' then directory ++ name
  else directory ++ '/' :: name

end Path

/-! ## A system in memory

A step of a path leaves from a directory; leaving from anything else fails. -/

abbrev Place := List (List Char)

/-- What a system holds in memory. -/
structure MemoryHost where
  /-- The places of all directories but the root. -/
  directories : List Place
  /-- The texts of files; one that is not UTF-8 has none. -/
  files : List (Place × Option String)
  current : Place
  input : String
  colours : Bool
  printed : List String

namespace MemoryHost

def empty : MemoryHost :=
  ⟨[], [], [], "", false, []⟩

/-! ### Building a system -/

/-- All places from just below the root to a place. -/
def placesTo (place : Place) : List Place :=
  (List.range place.length).map fun count => place.take (count + 1)

def withDirectory (host : MemoryHost) (place : Place) : MemoryHost :=
  { host with directories :=
      host.directories
        ++ (placesTo place).filter fun above => !host.directories.contains above }

/-- The system with a file, in the place of an earlier one. -/
def put (host : MemoryHost) (place : Place) (content : Option String) : MemoryHost :=
  { host with files := (host.files.filter fun file => file.1 != place) ++ [(place, content)] }

def withFile (host : MemoryHost) (place : Place) (content : Option String) : MemoryHost :=
  (host.withDirectory place.dropLast).put place content

/-! ### Walking -/

def isDirectory (host : MemoryHost) (place : Place) : Bool :=
  place.isEmpty || host.directories.contains place

def contentAt? (host : MemoryHost) (place : Place) : Option (Option String) :=
  host.files.lookup place

/-- Why nothing can be found below a place that is no directory. -/
def faultBelow (host : MemoryHost) (place : Place) : HostFault :=
  if (host.contentAt? place).isSome then .notDirectory else .notFound

/-- The place one step away from a directory. -/
def step (host : MemoryHost) (place : Place) (name : List Char) : Except HostFault Place :=
  if !host.isDirectory place then .error (host.faultBelow place)
  else if name.isEmpty || name == ['.'] then .ok place
  else if name == ['.', '.'] then .ok place.dropLast
  else .ok (place ++ [name])

def stepsOf (host : MemoryHost) : List Char → Place × List (List Char)
  | '/' :: rest => ([], Text.splitWhere (· == '/') rest)
  | path => (host.current, Text.splitWhere (· == '/') path)

/-- The place that a path leads to, whether anything is there or not. -/
def locate (host : MemoryHost) (path : List Char) : Except HostFault Place :=
  let (start, steps) := host.stepsOf path
  steps.foldlM host.step start

/-- The place where a path would make a file.  A path that ends with a slash or with dots
names a directory. -/
def locateNew (host : MemoryHost) (path : List Char) : Except HostFault Place := do
  let (start, steps) := host.stepsOf path
  let named := steps.reverse.dropWhile List.isEmpty
  let parent ← named.tail.reverse.foldlM host.step start
  if !host.isDirectory parent then throw (host.faultBelow parent)
  let name := named.headD []
  let place := parent ++ [name]
  if named.length < steps.length || name == ['.'] || name == ['.', '.'] || name.isEmpty
      || host.isDirectory place then throw .isDirectory
  return place

/-! ### Operations -/

def hasPath (host : MemoryHost) (path : List Char) : Bool :=
  match host.locate path with
  | .ok place => host.isDirectory place || (host.contentAt? place).isSome
  | .error _ => false

def textOf (host : MemoryHost) (path : List Char) : Except HostFault String := do
  let place ← host.locate path
  if host.isDirectory place then throw .isDirectory
  match host.contentAt? place with
  | some (some text) => return text
  | some none => throw .notText
  | none => throw .notFound

def written (host : MemoryHost) (path : List Char) (text : String) :
    Except HostFault MemoryHost := do
  return host.put (← host.locateNew path) (some text)

/-- The text of a place, with a slash in front of each step. -/
def pathOf (place : Place) : List Char :=
  if place.isEmpty then ['/'] else place.flatMap fun name => '/' :: name

def operations : Host (StateM MemoryHost) where
  directory := return pathOf (← get).current
  pathExists path := return (← get).hasPath path
  readFile path := return (← get).textOf path
  readInput := return .ok (← get).input
  writeFile path text := do
    match (← get).written path text with
    | .ok after => set after; return .ok ()
    | .error fault => return .error fault
  print text := modify fun host => { host with printed := host.printed ++ [text] }
  colours := return (← get).colours
  freshSeed := return 0

def output (host : MemoryHost) : String :=
  String.join host.printed

def changedSince (host before : MemoryHost) : List (Place × Option String) :=
  host.files.filter fun (place, content) => before.contentAt? place != some content

end MemoryHost

end GrowthEstimate
