import GrowthEstimate.Analysis.Context
import GrowthEstimate.Settings.Options
import GrowthEstimate.Settings.Thresholds
import GrowthEstimate.Toml.Reader

/-!
Contract: configurations, and the files that hold them.

Owns: the two sections of a configuration, how each is read from a TOML value, why a
file is refused, the text of a configuration, and which of several files counts.

Keys that mean nothing are passed over.  A section may also be given as a list of its
values in the order of their declaration.  A whole number may stand where a real one is
expected, but not the other way round.
-/

set_option autoImplicit false

namespace GrowthEstimate

open Toml (Value)

structure Configuration (α : Type) where
  options : AnalysisOptions
  thresholds : Thresholds α

/-- Why a configuration file is refused. -/
inductive ConfigurationFault (α : Type) where
  /-- The file is no TOML, or a value has the wrong type. -/
  | unreadable
  | options (fault : OptionsFault)
  | thresholds (fault : ThresholdsFault α)

def ConfigurationFault.message {α : Type} [Scalar α] : ConfigurationFault α → String
  | unreadable => "Failed to parse .growthmap.toml"
  | options fault =>
      "Invalid [analysis] section: " ++ (AnalysisError.configuration fault.message).message
  | thresholds fault => "Invalid [thresholds] section: " ++ fault.message

/-! ## Values of fields -/

namespace Toml.Value

def flag? : Value → Option Bool
  | boolean value => some value
  | _ => none

def count? : Value → Option Nat
  | integer value => if isCount value then some value.toNat else none
  | _ => none

def counts? : Value → Option (List Nat)
  | list items => items.mapM count?
  | _ => none

def number? {α : Type} [Scalar α] : Value → Option α
  | integer value =>
      if !isWord value then none
      else if 0 ≤ value then some (Scalar.ofCount value.natAbs)
      else some (0.0 - Scalar.ofCount value.natAbs)
  | real value => value.toScalar?
  | _ => none

def isEmpty : Value → Bool
  | list items => items.isEmpty
  | table entries => entries.isEmpty
  | _ => false

/-- A policy, by its name, or as a table whose only key is its name and holds nothing. -/
def precedence? : Value → Option PatternPrecedence
  | text name => named name
  | table [(name, content)] => if content.isEmpty then named name else none
  | _ => none
where
  named (name : Key) : Option PatternPrecedence :=
    PatternPrecedence.all.find? fun policy => policy.name.toList == name

end Toml.Value

/-! ## Sections -/

abbrev SectionFields := List (String × Value)

namespace SectionFields

variable {α β : Type}

/-- The fields of a section with these names.  A date has none of them. -/
def ofValue? (α : Type) [Scalar α] (names : List String) : Value → Option SectionFields
  | .table entries =>
      let named := entries.map fun (key, value) => (String.ofList key, value)
      if (named.filter fun field => !names.contains field.1).all fun field =>
          field.2.isReadable α then
        some (named.filter fun field => names.contains field.1)
      else none
  | .list items => some (names.zip items)
  | .moment => some []
  | _ => none

/-- The value of a field, or the standard one if the field is missing. -/
def read? (fields : SectionFields) (name : String) (value? : Value → Option β) (standard : β) :
    Option β :=
  match fields.lookup name with
  | some value => value? value
  | none => some standard

end SectionFields

/-- The names of the options, in the order of their declaration. -/
def AnalysisOptions.fieldNames : List String :=
  ["enable_sampling", "sample_sizes", "sampling_time_ceiling_ms", "include_case_analysis",
    "max_input_bytes", "precedence", "seed"]

def AnalysisOptions.ofFields? (fields : SectionFields) : Option AnalysisOptions := do
  let base := AnalysisOptions.standard
  return {
    enableSampling := ← fields.read? "enable_sampling" Value.flag? base.enableSampling
    sampleSizes := ← fields.read? "sample_sizes" Value.counts? base.sampleSizes
    ceilingMs := ← fields.read? "sampling_time_ceiling_ms" Value.count? base.ceilingMs
    includeCases := ← fields.read? "include_case_analysis" Value.flag? base.includeCases
    maxInputBytes := ← fields.read? "max_input_bytes" Value.count? base.maxInputBytes
    precedence := ← fields.read? "precedence" Value.precedence? base.precedence
    seed := ← fields.read? "seed" (fun value => value.count?.map some) base.seed }

namespace Thresholds

variable {α : Type} [Scalar α]

/-- The names of the thresholds, in the order of their declaration. -/
def fieldNames : List String :=
  ["high_confidence_cap", "medium_discount", "low_confidence_cap", "conflict_confidence",
    "medium_steps", "conflict_steps", "structural_valid_confidence",
    "regression_valid_r_squared", "regression_min_samples"]

def ofFields? (fields : SectionFields) : Option (Thresholds α) := do
  let base : Thresholds α := .standard
  return {
    highConfidenceCap := ← fields.read? "high_confidence_cap" Value.number? base.highConfidenceCap
    mediumDiscount := ← fields.read? "medium_discount" Value.number? base.mediumDiscount
    lowConfidenceCap := ← fields.read? "low_confidence_cap" Value.number? base.lowConfidenceCap
    conflictConfidence :=
      ← fields.read? "conflict_confidence" Value.number? base.conflictConfidence
    mediumSteps := ← fields.read? "medium_steps" Value.count? base.mediumSteps
    conflictSteps := ← fields.read? "conflict_steps" Value.count? base.conflictSteps
    structuralValidConfidence :=
      ← fields.read? "structural_valid_confidence" Value.number? base.structuralValidConfidence
    regressionValidRSquared :=
      ← fields.read? "regression_valid_r_squared" Value.number? base.regressionValidRSquared
    regressionMinSamples :=
      ← fields.read? "regression_min_samples" Value.count? base.regressionMinSamples }

end Thresholds

namespace Configuration

variable {α : Type} [Scalar α]

/-- The configuration that holds where there is no file. -/
def standard : Configuration α :=
  ⟨.standard, .standard⟩

/-! ## Reading -/

def ofTable? (table : Toml.Table) : Option (Configuration α) := do
  let sections ← SectionFields.ofValue? α ["analysis", "thresholds"] (.table table)
  return {
    options := ← sections.read? "analysis"
      (fun value => (SectionFields.ofValue? α AnalysisOptions.fieldNames value).bind
        AnalysisOptions.ofFields?)
      .standard
    thresholds := ← sections.read? "thresholds"
      (fun value => (SectionFields.ofValue? α Thresholds.fieldNames value).bind
        Thresholds.ofFields?)
      .standard }

/-- The first fault of a configuration; options are looked at before thresholds. -/
def fault? (configuration : Configuration α) : Option (ConfigurationFault α) :=
  match configuration.options.fault?, configuration.thresholds.fault? with
  | some fault, _ => some (.options fault)
  | none, some fault => some (.thresholds fault)
  | none, none => none

def ofText (text : List Char) : Except (ConfigurationFault α) (Configuration α) :=
  match (Toml.read text).bind ofTable? with
  | none => .error .unreadable
  | some configuration =>
      match configuration.fault? with
      | some fault => .error fault
      | none => .ok configuration

/-! ## Choice of a file -/

/-- The configuration of a file, if there is one and it is not refused. -/
def usable? : Option (List Char) → Option (Configuration α)
  | none => none
  | some text => (ofText text).toOption

/-- The configuration of the first file that can be used. -/
def firstUsable (files : List (Option (List Char))) : Configuration α :=
  (files.findSome? usable?).getD .standard

/-! ## Writing -/

def setting (name value : String) : String :=
  name ++ " = " ++ value

def flagText (value : Bool) : String :=
  if value then "true" else "false"

def numberText (value : α) : String :=
  (Scalar.markedText? value).getD (Scalar.plainText value)

def countLines (name : String) (values : List Nat) : List String :=
  [setting name "["] ++ values.map (fun value => "    " ++ toString value ++ ",") ++ ["]"]

def optionLines (options : AnalysisOptions) : List String :=
  [setting "enable_sampling" (flagText options.enableSampling)]
  ++ countLines "sample_sizes" options.sampleSizes
  ++ [setting "sampling_time_ceiling_ms" (toString options.ceilingMs),
      setting "include_case_analysis" (flagText options.includeCases),
      setting "max_input_bytes" (toString options.maxInputBytes),
      setting "precedence" ("\"" ++ options.precedence.name ++ "\"")]
  ++ options.seed.toList.map (fun seed => setting "seed" (toString seed))

def thresholdLines (thresholds : Thresholds α) : List String :=
  [setting "high_confidence_cap" (numberText thresholds.highConfidenceCap),
    setting "medium_discount" (numberText thresholds.mediumDiscount),
    setting "low_confidence_cap" (numberText thresholds.lowConfidenceCap),
    setting "conflict_confidence" (numberText thresholds.conflictConfidence),
    setting "medium_steps" (toString thresholds.mediumSteps),
    setting "conflict_steps" (toString thresholds.conflictSteps),
    setting "structural_valid_confidence" (numberText thresholds.structuralValidConfidence),
    setting "regression_valid_r_squared" (numberText thresholds.regressionValidRSquared),
    setting "regression_min_samples" (toString thresholds.regressionMinSamples)]

def text (configuration : Configuration α) : String :=
  String.join ((["[analysis]"] ++ optionLines configuration.options ++ ["", "[thresholds]"]
    ++ thresholdLines configuration.thresholds).map fun line => line ++ "\n")

end Configuration

end GrowthEstimate
