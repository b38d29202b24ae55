import GrowthEstimate.CommandLine.Run
import GrowthEstimate.Number.Binary64

/-!
Contract: the program on the command line.

Owns: the operations of the system that the program is started on, the help that it
prints, and its exit status.

Does **not** own: what the commands do, which `CommandLine.Run` says for any system.
-/

set_option autoImplicit false

namespace GrowthEstimate.Program

/-! ## The system -/

def faultOf : IO.Error → HostFault
  | .noFileOrDirectory _ _ _ => .notFound
  | .inappropriateType _ 21 _ => .isDirectory
  | .inappropriateType _ 20 _ => .notDirectory
  | error => .other (toString error)

def textOf (bytes : ByteArray) : Except HostFault String :=
  match String.fromUTF8? bytes with
  | some text => .ok text
  | none => .error .notText

def attempted {β : Type} (operation : IO β) : IO (Except HostFault β) := do
  try
    return .ok (← operation)
  catch error =>
    return .error (faultOf error)

partial def readToEnd (stream : IO.FS.Stream) (before : ByteArray) : IO ByteArray := do
  let more ← stream.read 65536
  if more.isEmpty then return before else readToEnd stream (before ++ more)

def pathExists (path : List Char) : IO Bool := do
  match ← attempted (IO.FS.Handle.mk (String.ofList path) .read) with
  | .error .notFound | .error .notDirectory => return false
  | _ => return true

/-- Whether the standard output is to have colours: as the environment says, and else if
it is a terminal. -/
def wantsColours : IO Bool := do
  if ((← IO.getEnv "CLICOLOR_FORCE").getD "0") != "0" then return true
  if (← IO.getEnv "NO_COLOR").isSome then return false
  if ((← IO.getEnv "CLICOLOR").getD "1") == "0" then return false
  (← IO.getStdout).isTty

def randomSeed : IO Nat := do
  return (← IO.getRandomBytes 8).foldl (fun value byte => value * 256 + byte.toNat) 0

def system : Host IO where
  directory := return (← IO.currentDir).toString.toList
  pathExists := pathExists
  readFile path := do
    return (← attempted (IO.FS.readBinFile (String.ofList path))).bind textOf
  readInput := do
    return (← attempted (do readToEnd (← IO.getStdin) ByteArray.empty)).bind textOf
  writeFile path text := attempted (IO.FS.writeFile (String.ofList path) text)
  print := fun text => IO.print text
  colours := wantsColours
  freshSeed := randomSeed

/-! ## Answers -/

def helpText : String :=
  String.join ([
    "Asymptotic complexity estimator for source snippets",
    "",
    "Usage: growthmap [-v]... COMMAND",
    "",
    "Commands:",
    "  analyze PATH  Estimate the time and space growth of a source file, or of stdin for -",
    "  init          Write a default .growthmap.toml in the current directory",
    "",
    "Options of analyze:",
    "  -f, --format FORMAT      json, markdown or terminal",
    "  -o, --output FILE        write the report to a file",
    "      --no-sampling        rely on structure alone",
    "      --sizes SIZES        input sizes to sample at, ascending, between commas",
    "      --seed SEED          a fixed seed for sampling",
    "      --ceiling-ms MS      how long sampling may go on",
    "      --no-cases           omit best, average and worst cases",
    "      --precedence POLICY  pattern-first, structure-first or strongest",
    "      --max-bytes BYTES    the largest input that is accepted",
    "",
    "Options of init:",
    "  -f, --force              overwrite an existing file"].map fun line => line ++ "\n")

def versionText : String :=
  "growthmap 0.1.0\n"

/-- Answers a command line that is not carried out. -/
def reportUsage (fault : UsageFault) : IO UInt32 := do
  match fault with
  | .helpWanted => IO.print helpText
  | .versionWanted => IO.print versionText
  | other => IO.eprint ("error: " ++ other.name ++ "\n\n" ++ helpText)
  return fault.exitStatus.toUInt32

/-- What is said about a failure: what was tried, and what went wrong. -/
def failureText : Command.Failure → String
  | [] => "Error\n"
  | [only] => "Error: " ++ only ++ "\n"
  | first :: causes =>
      "Error: " ++ first ++ "\n\nCaused by:\n"
        ++ String.join (causes.map fun cause => "    " ++ cause ++ "\n")

def carryOut (command : Command) : IO UInt32 := do
  match ← (Command.run Float system command).run with
  | .ok () => return 0
  | .error failure =>
      IO.eprint (failureText failure)
      return 1

def run (arguments : List String) : IO UInt32 := do
  match Invocation.ofArguments (arguments.map String.toList) with
  | .ok invocation => carryOut invocation.command
  | .error fault => reportUsage fault

end GrowthEstimate.Program

def main (arguments : List String) : IO UInt32 :=
  GrowthEstimate.Program.run arguments
