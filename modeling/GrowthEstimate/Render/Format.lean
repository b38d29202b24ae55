import GrowthEstimate.Analysis.Run
import GrowthEstimate.Document.Report

/-!
Contract: the formats in which a report can be written.

Owns: the pieces of text that all written reports share, coloured text, the report for a terminal
and the report as Markdown.
-/

set_option autoImplicit false

namespace GrowthEstimate

/-! ## Shared pieces -/

namespace Render

variable {α : Type} [Scalar α]

def percent (share : α) : String :=
  Scalar.fixedText 0 (share * 100.0) ++ "%"

def caseLine (split : CaseSplit) : String :=
  "best " ++ split.best.notationText ++ ", average " ++ split.average.notationText ++ ", worst "
    ++ split.worst.notationText

def bestFit? (diagnostics : AnalysisDiagnostics α) : Option (Fit α) :=
  diagnostics.regression.bind RegressionReport.best

def fitQuality (fit : Fit α) : String :=
  "R² " ++ Scalar.fixedText 3 fit.rSquared

def textOfLines (lines : List String) : String :=
  String.join (lines.map fun line => line ++ "\n")

end Render

/-! ## Coloured text

Which text has which style is not decided here. -/

inductive Ink where
  | red
  | green
  | yellow
  | blue
  | cyan
  deriving DecidableEq, Repr

structure TextStyle where
  bold : Bool
  dimmed : Bool
  ink : Option Ink
  deriving DecidableEq, Repr

namespace TextStyle

def normal : TextStyle :=
  ⟨false, false, none⟩

def inked (ink : Ink) : TextStyle :=
  ⟨false, false, some ink⟩

def strong : TextStyle :=
  ⟨true, false, none⟩

def strongInked (ink : Ink) : TextStyle :=
  ⟨true, false, some ink⟩

def pale : TextStyle :=
  ⟨false, true, none⟩

def inkCode : Ink → String
  | .red => "31"
  | .green => "32"
  | .yellow => "33"
  | .blue => "34"
  | .cyan => "36"

/-- The codes of a style, those of the letters before that of the colour. -/
def codes (style : TextStyle) : List String :=
  (if style.bold then ["1"] else []) ++ (if style.dimmed then ["2"] else [])
    ++ style.ink.toList.map inkCode

end TextStyle

/-- A text in a style.  Without colours, and in the normal style, it stands as it is. -/
def paint (colours : Bool) (style : TextStyle) (text : String) : String :=
  if !colours || style.codes.isEmpty then text
  else "\x1b[" ++ ";".intercalate style.codes ++ "m" ++ text ++ "\x1b[0m"

/-! ## Markdown

The sections are the verdict as a table, the stages, the algorithms recognised, the warnings and the
recommendations.  The last three are left out where they are empty. -/

namespace Render.Markdown

variable {α : Type} [Scalar α]

def row (cells : List String) : String :=
  "| " ++ " | ".intercalate cells ++ " |"

def header (verdict : FinalVerdict α) : List String :=
  ["# Growthmap Report", "", row ["Metric", "Value"], "|--------|-------|",
    row ["Time", verdict.time.label],
    row ["Space", verdict.space.notationText],
    row ["Confidence", percent verdict.confidence],
    row ["Agreement", verdict.agreement.name]]
  ++ verdict.cases.toList.map (fun split => row ["Cases", caseLine split])
  ++ [""]

def measured (diagnostics : AnalysisDiagnostics α) : String :=
  match bestFit? diagnostics with
  | some fit =>
      fit.growth.notationText ++ " (" ++ fitQuality fit ++ ", "
        ++ toString diagnostics.samples.length ++ " samples)"
  | none => "none"

def stages (diagnostics : AnalysisDiagnostics α) : List String :=
  ["## Stages", "",
    "- Structure: " ++ diagnostics.structural.treeClass.notationText ++ " ("
      ++ toString diagnostics.tree.functions ++ " functions, "
      ++ toString diagnostics.tree.loops ++ " loops, depth "
      ++ toString diagnostics.tree.maxLoopDepth ++ ")",
    "- Measured: " ++ measured diagnostics, ""]

def algorithm (found : AlgorithmMatch α) : String :=
  row [found.name, found.time.notationText, percent found.confidence]

def algorithms (found : List (AlgorithmMatch α)) : List String :=
  if found.isEmpty then []
  else
    ["## Recognized Algorithms", "", row ["Algorithm", "Time", "Confidence"],
      "|-----------|------|------------|"] ++ found.map algorithm ++ [""]

def messages (title : String) (items : List String) : List String :=
  if items.isEmpty then []
  else ["## " ++ title, ""] ++ items.map fun item => "- " ++ item

def notes (verdict : FinalVerdict α) : List String :=
  messages "Warnings" verdict.warnings
  ++ (if verdict.warnings.isEmpty then [] else [""])
  ++ messages "Recommendations" verdict.recommendations

def lines (report : AnalysisReport α) : List String :=
  header report.verdict ++ stages report.diagnostics ++ algorithms report.diagnostics.found
    ++ notes report.verdict

end Render.Markdown

/-! ## Terminals

Confidence is green from four fifths on and yellow from a half on. -/

namespace Render.Terminal

variable {α : Type} [Scalar α]

def confidenceStyle (confidence : α) : TextStyle :=
  if Scalar.le 0.8 confidence then .inked .green
  else if Scalar.le 0.5 confidence then .inked .yellow
  else .inked .red

def agreementStyle : AgreementLevel → TextStyle
  | .high => .inked .green
  | .medium => .normal
  | .low => .inked .yellow
  | .conflict => .strongInked .red

def header (colours : Bool) : List String :=
  [paint colours (.strongInked .blue) "Growthmap Report",
    paint colours (.inked .blue) "================", ""]

def verdictLines (colours : Bool) (verdict : FinalVerdict α) : List String :=
  ["  Time:       " ++ paint colours .strong verdict.time.label,
    "  Space:      " ++ verdict.space.notationText,
    "  Confidence: "
      ++ paint colours (confidenceStyle verdict.confidence) (percent verdict.confidence),
    "  Agreement:  " ++ paint colours (agreementStyle verdict.agreement) verdict.agreement.name]
  ++ verdict.cases.toList.map (fun split => "  Cases:      " ++ caseLine split)
  ++ ["  Reliability: " ++ Scalar.fixedText 2 verdict.validation.reliability, ""]

def algorithm (colours : Bool) (found : AlgorithmMatch α) : String :=
  "  Pattern:   " ++ paint colours (.inked .yellow) found.name ++ " " ++ found.time.notationText
    ++ " (" ++ percent found.confidence ++ ")"

def measured (colours : Bool) (diagnostics : AnalysisDiagnostics α) : String :=
  match bestFit? diagnostics with
  | some fit =>
      fit.growth.notationText ++ " (" ++ fitQuality fit ++ " over "
        ++ toString diagnostics.samples.length ++ " samples)"
  | none => paint colours .pale "none"

def evidence (colours : Bool) (diagnostics : AnalysisDiagnostics α) : List String :=
  [paint colours .strong "Evidence:",
    "  Structure: " ++ diagnostics.structural.treeClass.notationText ++ " ("
      ++ toString diagnostics.tree.loops ++ " loops, max depth "
      ++ toString diagnostics.tree.maxLoopDepth ++ ")"]
  ++ diagnostics.found.map (algorithm colours)
  ++ ["  Measured:  " ++ measured colours diagnostics, ""]

def notes (colours : Bool) (verdict : FinalVerdict α) : List String :=
  verdict.warnings.map (fun warning =>
    "  " ++ paint colours (.strongInked .yellow) "warning:" ++ " " ++ warning)
  ++ verdict.recommendations.map (fun recommendation =>
    "  " ++ paint colours (.inked .cyan) "hint:" ++ " " ++ recommendation)

def lines (colours : Bool) (report : AnalysisReport α) : List String :=
  header colours ++ verdictLines colours report.verdict ++ evidence colours report.diagnostics
    ++ notes colours report.verdict

end Render.Terminal

/-! ## Formats -/

inductive OutputFormat where
  | json
  | markdown
  | terminal
  deriving DecidableEq, Repr, Inhabited

namespace OutputFormat

/-- The formats, in the order of their declaration. -/
def all : List OutputFormat :=
  [json, markdown, terminal]

def name : OutputFormat → String
  | json => "json"
  | markdown => "markdown"
  | terminal => "terminal"

end OutputFormat

/-- A report as a text; only a terminal shows colours. -/
def AnalysisReport.written {α : Type} [Scalar α] (format : OutputFormat) (colours : Bool)
    (report : AnalysisReport α) : String :=
  match format with
  | .json => report.document.json ++ "\n"
  | .markdown => Render.textOfLines (Render.Markdown.lines report)
  | .terminal => Render.textOfLines (Render.Terminal.lines colours report)

end GrowthEstimate
