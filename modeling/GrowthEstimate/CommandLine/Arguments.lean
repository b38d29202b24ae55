import GrowthEstimate.Render.Format
import GrowthEstimate.Settings.Options

/-!
Contract: the command line of the program.

Owns: why a command line is not carried out, the notation of options, what each kind of option does
to the settings of a command, the two commands and their options, the settings that a command line
lays over those of a configuration, and the reading of a whole command line.
-/

set_option autoImplicit false

namespace GrowthEstimate

/-! ## Refusals

Asking for help or for the version is one of the causes. -/

/-- Why a command line is not carried out. -/
inductive UsageFault where
  | helpWanted
  | versionWanted
  | nothingGiven
  | missingCommand
  | unknownCommand
  | unknownArgument
  | missingArgument
  /-- An option has no value, an empty one, or none of those that it may have. -/
  | invalidValue
  | unreadableValue
  | valueNotTaken
  | givenTwice
  deriving DecidableEq, Repr

namespace UsageFault

def name : UsageFault → String
  | helpWanted => "DisplayHelp"
  | versionWanted => "DisplayVersion"
  | nothingGiven => "DisplayHelpOnMissingArgumentOrSubcommand"
  | missingCommand => "MissingSubcommand"
  | unknownCommand => "InvalidSubcommand"
  | unknownArgument => "UnknownArgument"
  | missingArgument => "MissingRequiredArgument"
  | invalidValue => "InvalidValue"
  | unreadableValue => "ValueValidation"
  | valueNotTaken => "TooManyValues"
  | givenTwice => "ArgumentConflict"

/-- The exit status: only what was asked for is a success. -/
def exitStatus : UsageFault → Nat
  | helpWanted | versionWanted => 0
  | _ => 2

end UsageFault

/-! ## Options and values

`--name` and `-n` are options; several of one letter may share a dash.  The value of an
option follows it as the next argument, after an equals sign, or directly after its
letter.  Behind `--` there are only values.  A value is looked at when the next option
or value comes, or at the end. -/

namespace CommandLine

/-- A change of settings, which may be refused. -/
abbrev Change (σ : Type) := σ → Except UsageFault σ

inductive OptionEffect (σ : Type) where
  | toggle (change : Change σ)
  | assign (change : List Char → Change σ)

/-- The options and values of a command. -/
structure Grammar (σ : Type) where
  letter : Char → Option (OptionEffect σ)
  word : List Char → Option (OptionEffect σ)
  /-- What the values do that belong to no option, in their order. -/
  values : List (List Char → Change σ)

/-- What an argument before left to be done. -/
inductive Pending (σ : Type) where
  | nothing
  | awaiting (change : List Char → Change σ)
  /-- A value was given and is not looked at yet. -/
  | given (change : Change σ)

structure Progress (σ : Type) where
  settings : σ
  pending : Pending σ

namespace Progress

variable {σ : Type}

def settle (progress : Progress σ) : Except UsageFault σ :=
  match progress.pending with
  | .nothing => .ok progress.settings
  | .awaiting _ => .error .invalidValue
  | .given change => change progress.settings

/-- Does what is left to be done, and then a change. -/
def apply (progress : Progress σ) (change : Change σ) : Except UsageFault (Progress σ) := do
  return ⟨← change (← progress.settle), .nothing⟩

/-- Does what is left to be done, and leaves something new. -/
def leave (progress : Progress σ) (pending : Pending σ) : Except UsageFault (Progress σ) := do
  return ⟨← progress.settle, pending⟩

end Progress

namespace Grammar

variable {σ : Type}

def splitWord (word : List Char) : List Char × Option (List Char) :=
  match word.dropWhile (· != '=') with
  | _ :: value => (word.takeWhile (· != '='), some value)
  | [] => (word, none)

def readWord (grammar : Grammar σ) (progress : Progress σ) (word : List Char) :
    Except UsageFault (Progress σ) :=
  let (name, value) := splitWord word
  match grammar.word name, value with
  | none, _ => .error .unknownArgument
  | some (.toggle _), some _ => .error .valueNotTaken
  | some (.toggle change), none => progress.apply change
  | some (.assign change), some value => progress.apply (change value)
  | some (.assign change), none => progress.leave (.awaiting change)

/-- Reads options of one letter each; behind one that takes a value the rest is its value. -/
def readLetters (grammar : Grammar σ) :
    List Char → Progress σ → Except UsageFault (Progress σ)
  | [], progress => .ok progress
  | letter :: rest, progress =>
      match grammar.letter letter with
      | none => .error .unknownArgument
      | some (.toggle change) => do grammar.readLetters rest (← progress.apply change)
      | some (.assign change) =>
          match rest with
          | [] => progress.leave (.awaiting change)
          | '=' :: value => progress.apply (change value)
          | value => progress.apply (change value)

/-- Reads an argument that is written as an option; a single dash is none. -/
def readOption? (grammar : Grammar σ) (progress : Progress σ) :
    List Char → Option (Except UsageFault (Progress σ))
  | '-' :: '-' :: word => some (grammar.readWord progress word)
  | '-' :: letter :: rest => some (grammar.readLetters (letter :: rest) progress)
  | _ => none

/-- Reads a value that belongs to no option. -/
def readValue (progress : Progress σ) (value : List Char) :
    List (List Char → Change σ) →
      Except UsageFault (Progress σ × List (List Char → Change σ))
  | [] => .error .unknownArgument
  | change :: later => do return (← progress.leave (.given (change value)), later)

/-- Reads the arguments of a command; `onlyValues` tells whether `--` was among those
before, and `open_` are the values that may still come. -/
def readFrom (grammar : Grammar σ) (onlyValues : Bool) (open_ : List (List Char → Change σ))
    (progress : Progress σ) : List (List Char) → Except UsageFault σ
  | [] => progress.settle
  | argument :: later =>
      if onlyValues then do
        let (next, open_) ← readValue progress argument open_
        grammar.readFrom true open_ next later
      else if argument = ['-', '-'] then grammar.readFrom true open_ progress later
      else
        match grammar.readOption? progress argument, progress.pending with
        | some result, _ => do grammar.readFrom false open_ (← result) later
        | none, .awaiting change =>
            grammar.readFrom false open_ ⟨progress.settings, .given (change argument)⟩ later
        | none, _ => do
            let (next, open_) ← readValue progress argument open_
            grammar.readFrom false open_ next later

def read (grammar : Grammar σ) (settings : σ) (arguments : List (List Char)) :
    Except UsageFault σ :=
  grammar.readFrom false grammar.values ⟨settings, .nothing⟩ arguments

end Grammar

end CommandLine

/-! ## Commands

How talkative the program is can be said before or after the command; what is said after
it counts. -/

open CommandLine (Change Grammar OptionEffect Progress)

/-- What a command line says about options; what it does not say stays as it is. -/
structure Overrides where
  noSampling : Bool
  sizes : Option (List Nat)
  seed : Option Nat
  ceilingMs : Option Nat
  noCases : Bool
  precedence : Option PatternPrecedence
  maxBytes : Option Nat
  deriving DecidableEq, Repr, Inhabited

namespace Overrides

def none : Overrides :=
  ⟨false, .none, .none, .none, false, .none, .none⟩

def apply (overrides : Overrides) (options : AnalysisOptions) : AnalysisOptions where
  enableSampling := options.enableSampling && !overrides.noSampling
  sampleSizes := overrides.sizes.getD options.sampleSizes
  ceilingMs := overrides.ceilingMs.getD options.ceilingMs
  includeCases := options.includeCases && !overrides.noCases
  maxInputBytes := overrides.maxBytes.getD options.maxInputBytes
  precedence := overrides.precedence.getD options.precedence
  seed := overrides.seed.or options.seed

end Overrides

/-- What is to be analyzed, and how the report is to be written. -/
structure AnalyzeCommand where
  /-- The file, or a dash for the standard input. -/
  path : List Char
  format : OutputFormat
  output : Option (List Char)
  overrides : Overrides
  deriving DecidableEq, Repr, Inhabited

inductive Command where
  | analyze (command : AnalyzeCommand)
  /-- Writes the standard configuration, even over an existing one if forced. -/
  | init (force : Bool)
  deriving DecidableEq, Repr

structure Invocation where
  verbosity : Nat
  command : Command
  deriving DecidableEq, Repr

def logDirective : Nat → String
  | 0 => "growthmap=warn"
  | 1 => "growthmap=info"
  | 2 => "growthmap=debug"
  | _ => "growthmap=trace"

namespace CommandLine

/-! ### Values -/

/-- A count of 64 bits in decimal digits, which may have a plus sign. -/
def countOf? (text : List Char) : Option Nat :=
  let digits := match text with
    | '+' :: rest => rest
    | other => other
  if digits.isEmpty || !digits.all Char.isDigit then none
  else
    let value := digits.foldl (fun value digit => value * 10 + (digit.toNat - '0'.toNat)) 0
    if value < Nat.pow 2 64 then some value else none

/-- A value that can be read, or the refusal of one that cannot. -/
def readable {β : Type} : Option β → Except UsageFault β
  | some value => .ok value
  | none => .error .unreadableValue

def once {β : Type} : Option β → Except UsageFault Unit
  | some _ => .error .givenTwice
  | none => .ok ()

def pathOf (text : List Char) : Except UsageFault (List Char) :=
  if text.isEmpty then .error .invalidValue else .ok text

def formatOf (text : List Char) : Except UsageFault OutputFormat :=
  match OutputFormat.all.find? fun format => format.name.toList == text with
  | some format => .ok format
  | none => .error .invalidValue

/-! ### Verbosity -/

def greatestVerbosity : Nat :=
  255

def louder (verbosity : Option Nat) : Option Nat :=
  some (min greatestVerbosity (verbosity.getD 0 + 1))

/-! ### Settings of the commands -/

/-- What was read of the arguments of `analyze`. -/
structure AnalyzeSettings where
  verbosity : Option Nat
  path : Option (List Char)
  format : Option OutputFormat
  output : Option (List Char)
  overrides : Overrides

/-- What was read of the arguments of `init`. -/
structure InitSettings where
  verbosity : Option Nat
  force : Bool

/-- What was read of the arguments before the command. -/
structure RootSettings where
  verbosity : Option Nat

def help {σ : Type} : OptionEffect σ :=
  .toggle fun _ => .error .helpWanted

/-- A change of overrides, as one of the settings of `analyze`. -/
def overriding (change : Change Overrides) : Change AnalyzeSettings := fun settings => do
  return { settings with overrides := ← change settings.overrides }

namespace AnalyzeSettings

def verbose : OptionEffect AnalyzeSettings :=
  .toggle fun settings => .ok { settings with verbosity := louder settings.verbosity }

def formatOption : OptionEffect AnalyzeSettings :=
  .assign fun value settings => do
    once settings.format
    return { settings with format := some (← formatOf value) }

def outputOption : OptionEffect AnalyzeSettings :=
  .assign fun value settings => do
    once settings.output
    return { settings with output := some (← pathOf value) }

def pathValue (value : List Char) : Change AnalyzeSettings := fun settings => do
  return { settings with path := some (← pathOf value) }

/-- Sizes, separated by commas; each occurrence adds to those before. -/
def addSizes (value : List Char) : Change Overrides := fun overrides => do
  let more ← readable ((Text.splitWhere (· == ',') value).mapM countOf?)
  return { overrides with sizes := some (overrides.sizes.getD [] ++ more) }

def word (name : List Char) : Option (OptionEffect AnalyzeSettings) :=
  match String.ofList name with
  | "help" => some help
  | "verbose" => some verbose
  | "format" => some formatOption
  | "output" => some outputOption
  | "no-sampling" => some (.toggle (overriding fun overrides =>
      if overrides.noSampling then .error .givenTwice
      else .ok { overrides with noSampling := true }))
  | "sizes" => some (.assign fun value => overriding (addSizes value))
  | "seed" => some (.assign fun value => overriding fun overrides => do
      once overrides.seed
      return { overrides with seed := some (← readable (countOf? value)) })
  | "ceiling-ms" => some (.assign fun value => overriding fun overrides => do
      once overrides.ceilingMs
      return { overrides with ceilingMs := some (← readable (countOf? value)) })
  | "no-cases" => some (.toggle (overriding fun overrides =>
      if overrides.noCases then .error .givenTwice
      else .ok { overrides with noCases := true }))
  | "precedence" => some (.assign fun value => overriding fun overrides => do
      once overrides.precedence
      return { overrides with
        precedence := some (← readable (PatternPrecedence.ofLabel value).toOption) })
  | "max-bytes" => some (.assign fun value => overriding fun overrides => do
      once overrides.maxBytes
      return { overrides with maxBytes := some (← readable (countOf? value)) })
  | _ => none

def letter : Char → Option (OptionEffect AnalyzeSettings)
  | 'h' => some help
  | 'v' => some verbose
  | 'f' => some formatOption
  | 'o' => some outputOption
  | _ => none

def grammar : Grammar AnalyzeSettings :=
  ⟨letter, word, [pathValue]⟩

def initial : AnalyzeSettings :=
  ⟨none, none, none, none, .none⟩

/-- The command; the path must have been given. -/
def command (settings : AnalyzeSettings) : Except UsageFault Command :=
  match settings.path with
  | some path =>
      .ok (.analyze ⟨path, settings.format.getD .terminal, settings.output, settings.overrides⟩)
  | none => .error .missingArgument

end AnalyzeSettings

namespace InitSettings

def verbose : OptionEffect InitSettings :=
  .toggle fun settings => .ok { settings with verbosity := louder settings.verbosity }

def forceOption : OptionEffect InitSettings :=
  .toggle fun settings =>
    if settings.force then .error .givenTwice else .ok { settings with force := true }

def word (name : List Char) : Option (OptionEffect InitSettings) :=
  match String.ofList name with
  | "help" => some help
  | "verbose" => some verbose
  | "force" => some forceOption
  | _ => none

def letter : Char → Option (OptionEffect InitSettings)
  | 'h' => some help
  | 'v' => some verbose
  | 'f' => some forceOption
  | _ => none

def grammar : Grammar InitSettings :=
  ⟨letter, word, []⟩

end InitSettings

namespace RootSettings

def verbose : OptionEffect RootSettings :=
  .toggle fun settings => .ok ⟨louder settings.verbosity⟩

def version : OptionEffect RootSettings :=
  .toggle fun _ => .error .versionWanted

def word (name : List Char) : Option (OptionEffect RootSettings) :=
  match String.ofList name with
  | "help" => some help
  | "version" => some version
  | "verbose" => some verbose
  | _ => none

def letter : Char → Option (OptionEffect RootSettings)
  | 'h' => some help
  | 'V' => some version
  | 'v' => some verbose
  | _ => none

def grammar : Grammar RootSettings :=
  ⟨letter, word, []⟩

end RootSettings

/-! ### The command -/

def commandNames : List (List Char) :=
  ["analyze".toList, "init".toList, "help".toList]

def helpOn : List (List Char) → UsageFault
  | [] => .helpWanted
  | [name] => if commandNames.contains name then .helpWanted else .unknownCommand
  | _ => .unknownCommand

/-- The command of a name with its arguments, if there is such a command. -/
def commandOf? (verbosity : Option Nat) (name : List Char) (arguments : List (List Char)) :
    Option (Except UsageFault Invocation) :=
  match String.ofList name with
  | "analyze" => some do
      let settings ← AnalyzeSettings.grammar.read .initial arguments
      return ⟨(settings.verbosity.or verbosity).getD 0, ← settings.command⟩
  | "init" => some do
      let settings ← InitSettings.grammar.read ⟨none, false⟩ arguments
      return ⟨(settings.verbosity.or verbosity).getD 0, .init settings.force⟩
  | "help" => some (.error (helpOn arguments))
  | _ => none

/-- What is wrong with a command line that ends before its command. -/
def unfinished (verbosity : Option Nat) : UsageFault :=
  if verbosity.isSome then .missingCommand else .nothingGiven

/-- What is wrong with a value before the command.  Behind `--` no command is looked
for. -/
def strayValue (onlyValues : Bool) (value : List Char) : UsageFault :=
  if onlyValues && commandNames.contains value then .unknownArgument else .unknownCommand

/-- Reads a command line from before the command on. -/
def readRoot (verbosity : Option Nat) : List (List Char) → Except UsageFault Invocation
  | [] => .error (unfinished verbosity)
  | argument :: later =>
      match commandOf? verbosity argument later with
      | some result => result
      | none =>
          if argument = ['-', '-'] then
            match later with
            | [] => .error (unfinished verbosity)
            | value :: _ => .error (strayValue true value)
          else
            match RootSettings.grammar.readOption? ⟨⟨verbosity⟩, .nothing⟩ argument with
            | some (.ok progress) => readRoot progress.settings.verbosity later
            | some (.error fault) => .error fault
            | none => .error (strayValue false argument)

end CommandLine

def Invocation.ofArguments (arguments : List (List Char)) : Except UsageFault Invocation :=
  CommandLine.readRoot none arguments

end GrowthEstimate
