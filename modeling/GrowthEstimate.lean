import GrowthEstimate.Document.Invocation
import GrowthEstimate.Document.Report
import GrowthEstimate.Growth.Label
import GrowthEstimate.Host.Memory
import GrowthEstimate.Main
import GrowthEstimate.Number.Binary64
import GrowthEstimate.Proofs.Analysis.Confidence
import GrowthEstimate.Proofs.Analysis.Course
import GrowthEstimate.Proofs.Analysis.Precedence
import GrowthEstimate.Proofs.Analysis.Report
import GrowthEstimate.Proofs.Analysis.Run
import GrowthEstimate.Proofs.Analysis.Thread
import GrowthEstimate.Proofs.Catalogue.Entry
import GrowthEstimate.Proofs.CommandLine.Nearest
import GrowthEstimate.Proofs.Growth.Label
import GrowthEstimate.Proofs.Growth.Order
import GrowthEstimate.Proofs.Number.Interval
import GrowthEstimate.Proofs.Number.Order
import GrowthEstimate.Proofs.Number.Unit
import GrowthEstimate.Proofs.Regression.ExactCosts
import GrowthEstimate.Proofs.Regression.LeastSquares
import GrowthEstimate.Proofs.Regression.Outliers
import GrowthEstimate.Proofs.Regression.Permutation
import GrowthEstimate.Proofs.Regression.Report
import GrowthEstimate.Proofs.Regression.Scaling
import GrowthEstimate.Proofs.Sampling.Schedule
import GrowthEstimate.Proofs.Source.BareCode
import GrowthEstimate.Proofs.Source.Braces
import GrowthEstimate.Proofs.Source.Extent
import GrowthEstimate.Proofs.Source.Literal
import GrowthEstimate.Proofs.Source.Padding
import GrowthEstimate.Proofs.Source.Scan
import GrowthEstimate.Proofs.Source.TrailingComment
import GrowthEstimate.Proofs.Structure.Emptiness
import GrowthEstimate.Proofs.Structure.Verdict
import GrowthEstimate.Proofs.Text.Pattern
import GrowthEstimate.Proofs.Tree.CallSites
import GrowthEstimate.Proofs.Tree.Depth
import GrowthEstimate.Proofs.Tree.Estimate
import GrowthEstimate.Proofs.Tree.Forest
import GrowthEstimate.Proofs.Tree.Lines
import GrowthEstimate.Proofs.Tree.Padding
import GrowthEstimate.Proofs.Verdict.Agreement
import GrowthEstimate.Proofs.Verdict.Coherence
import GrowthEstimate.Proofs.Verdict.Decision
import GrowthEstimate.Proofs.Verdict.Opinion
import GrowthEstimate.Proofs.Verdict.Unmeasured
import GrowthEstimate.Verdict.Opinion
