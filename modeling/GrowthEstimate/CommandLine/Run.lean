import GrowthEstimate.Analysis.Run
import GrowthEstimate.CommandLine.Arguments
import GrowthEstimate.Host.Memory
import GrowthEstimate.Settings.Configuration

/-!
Contract: what the commands do on a system.

Owns: the choice of a configuration for a directory, the steps of each command, and what
is said when one fails: the messages of a failure go from what was tried to what went
wrong.
-/

set_option autoImplicit false

namespace GrowthEstimate

def configurationName : List Char :=
  ".growthmap.toml".toList

namespace Configuration

def directoriesSearched : Nat :=
  10

/-- The paths where the configuration of a directory may be, the nearest first. -/
def candidatePaths (directory : List Char) : List (List Char) :=
  (Path.ancestors directoriesSearched directory).map fun found =>
    Path.inDirectory found configurationName

/-- The configuration of a directory, given the texts of files. -/
def ofDirectory {α : Type} [Scalar α] (textAt : List Char → Option (List Char))
    (directory : List Char) : Configuration α :=
  firstUsable ((candidatePaths directory).map textAt)

end Configuration

namespace Command

/-- The messages of a failure, from what was tried to what went wrong. -/
abbrev Failure := List String

/-- An analysis with the settings of a configuration and of a command line. -/
def outcome {α : Type} [Scalar α] (configuration : Configuration α) (overrides : Overrides)
    (freshSeed : Nat) (source : List Char) : Except AnalysisError (AnalysisReport α) :=
  Analysis.outcome
    { options := overrides.apply configuration.options
      thresholds := configuration.thresholds
      model := none
      cancellation := .never
      freshSeed }
    source

def attempt (verb : String) (path : List Char) : String :=
  "Failed to " ++ verb ++ " " ++ String.ofList path

/-- What an operation gave, with what was tried by it. -/
def tried {β : Type} (description : String) : Except HostFault β → Except Failure β
  | .ok result => .ok result
  | .error fault => .error [description, fault.message]

section Steps

variable {m : Type → Type} [Monad m]

def loadConfiguration (α : Type) [Scalar α] (host : Host m) : m (Configuration α) := do
  let paths := Configuration.candidatePaths (← host.directory)
  let texts ← paths.mapM fun path => do
    return (← host.readFile path).toOption.map String.toList
  return Configuration.firstUsable texts

def readSource (host : Host m) (path : List Char) : ExceptT Failure m String := do
  if path = ['-'] then
    tried "Failed to read source from stdin" (← host.readInput)
  else tried (attempt "read" path) (← host.readFile path)

def runAnalyze (α : Type) [Scalar α] (host : Host m) (command : AnalyzeCommand) :
    ExceptT Failure m Unit := do
  let configuration ← ExceptT.lift (loadConfiguration α host)
  let source ← readSource host command.path
  let freshSeed ← host.freshSeed
  match outcome configuration command.overrides freshSeed source.toList with
  | .error error => throw [attempt "analyze" command.path, error.message]
  | .ok report =>
      let text := report.written command.format (← host.colours)
      match command.output with
      | some path => tried (attempt "create" path) (← host.writeFile path text)
      | none => host.print text

/-- The text of the file that `init` writes. -/
def initialText (α : Type) [Scalar α] : String :=
  "# Growthmap configuration\n\n" ++ (Configuration.standard : Configuration α).text

def runInit (α : Type) [Scalar α] (host : Host m) (force : Bool) : ExceptT Failure m Unit := do
  let path := Path.inDirectory ['.'] configurationName
  let found ← host.pathExists path
  if found && !force then
    throw ["Configuration file already exists. Use --force to overwrite."]
  tried (attempt "write" path) (← host.writeFile path (initialText α))
  host.print ("Created " ++ String.ofList configurationName ++ " configuration file\n")

def run (α : Type) [Scalar α] (host : Host m) : Command → ExceptT Failure m Unit
  | .analyze command => runAnalyze α host command
  | .init force => runInit α host force

end Steps

end Command

end GrowthEstimate
