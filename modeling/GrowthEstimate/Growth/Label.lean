import GrowthEstimate.Growth.Class
import GrowthEstimate.Text.Line

/-!
Contract: free-form labels of growth classes, such as `O(n^2)` or `n log n`.

Owns: the key of a label, the spellings of each class, and the reader `ofLabel?`,
which looks at the key alone; what is said about a label that it refuses.
-/

set_option autoImplicit false

namespace GrowthEstimate.GrowthClass

/-- A label without blanks, asterisks and middle dots, in lower case. -/
def labelKey (label : List Char) : List Char :=
  (Text.lower label).filter fun char => !(Text.isSpace char || char == '*' || char == '·')

/-- The argument of a key of the form `o(…)` or `θ(…)`; any other key as it is. -/
def labelArgument (key : List Char) : List Char :=
  let opened :=
    match Text.stripFront "o(".toList key with
    | some rest => some rest
    | none => Text.stripFront "θ(".toList key
  match opened with
  | none => key
  | some rest => (Text.stripBack [')'] rest).getD key

def spellings : GrowthClass → List String
  | const => ["1", "c", "const", "constant"]
  | log => ["logn", "log(n)", "log", "logarithmic"]
  | sqrt => ["sqrtn", "sqrt(n)", "√n", "n^0.5", "sqrt"]
  | linear => ["n", "linear"]
  | linearithmic => ["nlogn", "nlog(n)", "linearithmic"]
  | quadratic => ["n^2", "n²", "n2", "quadratic"]
  | cubic => ["n^3", "n³", "n3", "cubic"]
  | exponential => ["2^n", "exponential", "exp"]
  | factorial => ["n!", "factorial"]
  | unknown => ["unknown", "?"]

def ofSpelling? (argument : List Char) : Option GrowthClass :=
  (canonical ++ [unknown]).find? fun growth =>
    growth.spellings.any fun spelling => spelling.toList == argument

def ofLabel? (label : List Char) : Option GrowthClass :=
  ofSpelling? (labelArgument (labelKey label))

/-- The class of a label, or a complaint that quotes the label as it was given. -/
def readLabel (label : List Char) : Except String GrowthClass :=
  match ofLabel? label with
  | some growth => .ok growth
  | none => .error ("unrecognized growth label: " ++ String.ofList label)

end GrowthEstimate.GrowthClass
