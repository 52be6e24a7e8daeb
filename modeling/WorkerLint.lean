import WorkerLint.Main
import WorkerLint.Proofs.BundleLayout
import WorkerLint.Proofs.LineLookup
import WorkerLint.Proofs.LineOrigin
import WorkerLint.Proofs.PreparedLines
import WorkerLint.Proofs.OwnFindings
import WorkerLint.Proofs.Trimming
import WorkerLint.Proofs.DiagnosticMarks
import WorkerLint.Proofs.DiagnosticGrammar
import WorkerLint.Proofs.LineSplitting
import WorkerLint.Proofs.FindingsText
import WorkerLint.Proofs.LineFidelity
import WorkerLint.Proofs.LintRuns
import WorkerLint.Proofs.DirectiveGrammar
import WorkerLint.Proofs.SingleCall
import WorkerLint.Proofs.PathSpelling
import WorkerLint.Proofs.Respelling
import WorkerLint.Proofs.ScriptSearch
import WorkerLint.Proofs.RunComposition
import WorkerLint.Proofs.PhysicalLines
import WorkerLint.Proofs.LeadingCalls
import WorkerLint.Proofs.LeftmostCall
import WorkerLint.Proofs.WrittenCalls
import WorkerLint.Proofs.Places
import WorkerLint.Proofs.SelfImport
import WorkerLint.Proofs.Descent
import WorkerLint.Proofs.SearchBelow
import WorkerLint.Proofs.FirstFound
import WorkerLint.Proofs.CollectedImports
import WorkerLint.Proofs.RequestedFindings
import WorkerLint.Proofs.LineEnds
import WorkerLint.Proofs.WordGrammar
import WorkerLint.Proofs.CommandWords
import WorkerLint.Proofs.LinewiseSearch
import WorkerLint.Proofs.FindingsJson
