import GrowthEstimate.CommandLine.Arguments
import GrowthEstimate.Document.Report
import GrowthEstimate.Settings.Configuration

/-!
Contract: settings and command lines, as documents.
-/

set_option autoImplicit false

namespace GrowthEstimate

variable {α : Type}

/-! ## Settings -/

def AnalysisOptions.document (options : AnalysisOptions) : Document α :=
  .object ([
    ("enable_sampling", .bool options.enableSampling),
    ("sample_sizes", .each .count options.sampleSizes),
    ("sampling_time_ceiling_ms", .count options.ceilingMs),
    ("include_case_analysis", .bool options.includeCases),
    ("max_input_bytes", .count options.maxInputBytes),
    ("precedence", .text options.precedence.name)]
    ++ Document.field? "seed" .count options.seed)

def Thresholds.document (thresholds : Thresholds α) : Document α :=
  .object [
    ("high_confidence_cap", .real thresholds.highConfidenceCap),
    ("medium_discount", .real thresholds.mediumDiscount),
    ("low_confidence_cap", .real thresholds.lowConfidenceCap),
    ("conflict_confidence", .real thresholds.conflictConfidence),
    ("medium_steps", .count thresholds.mediumSteps),
    ("conflict_steps", .count thresholds.conflictSteps),
    ("structural_valid_confidence", .real thresholds.structuralValidConfidence),
    ("regression_valid_r_squared", .real thresholds.regressionValidRSquared),
    ("regression_min_samples", .count thresholds.regressionMinSamples)]

def Configuration.document (configuration : Configuration α) : Document α :=
  .object [
    ("analysis", configuration.options.document),
    ("thresholds", configuration.thresholds.document)]

/-! ## Command lines -/

/-- The document of a command line, with the options that it makes of given ones. -/
def Invocation.document (invocation : Invocation) (options : AnalysisOptions) : Document α :=
  match invocation.command with
  | .init force =>
      .object [
        ("command", .text "init"),
        ("verbosity", .count invocation.verbosity),
        ("force", .bool force)]
  | .analyze command =>
      .object [
        ("command", .text "analyze"),
        ("verbosity", .count invocation.verbosity),
        ("path", .ofChars command.path),
        ("format", .text command.format.name),
        ("output", .orNull .ofChars command.output),
        ("no_sampling", .bool command.overrides.noSampling),
        ("sizes", .orNull (.each .count) command.overrides.sizes),
        ("seed", .orNull .count command.overrides.seed),
        ("ceiling_ms", .orNull .count command.overrides.ceilingMs),
        ("no_cases", .bool command.overrides.noCases),
        ("precedence", .orNull (fun policy => .text policy.name) command.overrides.precedence),
        ("max_bytes", .orNull .count command.overrides.maxBytes),
        ("options", (command.overrides.apply options).document)]

end GrowthEstimate
