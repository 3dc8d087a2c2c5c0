import GherkinLint.Main
import GherkinLint.Packages.Behave
import GherkinLint.Proofs.Acceptance.Suite
import GherkinLint.Proofs.Configuration.Precedence
import GherkinLint.Proofs.Document.Encoding
import GherkinLint.Proofs.Document.Ignored
import GherkinLint.Proofs.LintRun.LineEnds
import GherkinLint.Proofs.LintRun.Settings
import GherkinLint.Proofs.LintRun.Verbose
import GherkinLint.Proofs.Placeholder.OnePass
import GherkinLint.Proofs.Placeholder.Written
import GherkinLint.Proofs.Project.Nearest
import GherkinLint.Proofs.Session.Independence
import GherkinLint.Proofs.UnusedVariables.Edit
import GherkinLint.Proofs.UnusedVariables.Finding
import GherkinLint.Proofs.UnusedVariables.Outline
import GherkinLint.Proofs.UnusedVariables.Usage
import GherkinLint.Session
