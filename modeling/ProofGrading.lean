import ProofGrading.AxiomClosure
import ProofGrading.CommandLine
import ProofGrading.Decimal.Binary
import ProofGrading.Decimal.Literal
import ProofGrading.Decimal.Numeral
import ProofGrading.Decimal.Shortest
import ProofGrading.Decimal.Style
import ProofGrading.Declaration
import ProofGrading.Diagnostics
import ProofGrading.Environment
import ProofGrading.Exercise
import ProofGrading.ExerciseResult
import ProofGrading.Export
import ProofGrading.Failure
import ProofGrading.GradingRun
import ProofGrading.Host.FileTree
import ProofGrading.Host.Machine
import ProofGrading.Host.Path
import ProofGrading.Json.Basic
import ProofGrading.Json.Decode
import ProofGrading.Json.Encode
import ProofGrading.Main
import ProofGrading.Proofs.Accesses
import ProofGrading.Proofs.Assumptions
import ProofGrading.Proofs.Atomicity
import ProofGrading.Proofs.CallOrder
import ProofGrading.Proofs.Calls
import ProofGrading.Proofs.Choosing
import ProofGrading.Proofs.Compilation
import ProofGrading.Proofs.Containment
import ProofGrading.Proofs.Credit
import ProofGrading.Proofs.Degrading
import ProofGrading.Proofs.Documents
import ProofGrading.Proofs.Effects
import ProofGrading.Proofs.Equivalence
import ProofGrading.Proofs.ExerciseList
import ProofGrading.Proofs.Expanding
import ProofGrading.Proofs.ExportedSheet
import ProofGrading.Proofs.Expression
import ProofGrading.Proofs.Failures
import ProofGrading.Proofs.Fetching
import ProofGrading.Proofs.FileWriting
import ProofGrading.Proofs.Footprint
import ProofGrading.Proofs.GivenSources
import ProofGrading.Proofs.GradingPolicy
import ProofGrading.Proofs.Isolation
import ProofGrading.Proofs.LogEnd
import ProofGrading.Proofs.ModuleFiles
import ProofGrading.Proofs.NamedSettings
import ProofGrading.Proofs.Nesting
import ProofGrading.Proofs.NormalForm
import ProofGrading.Proofs.NumberText
import ProofGrading.Proofs.Outputs
import ProofGrading.Proofs.Overlooking
import ProofGrading.Proofs.Preparing
import ProofGrading.Proofs.Provisioning
import ProofGrading.Proofs.Questioning
import ProofGrading.Proofs.Recompiling
import ProofGrading.Proofs.Refetching
import ProofGrading.Proofs.Regrading
import ProofGrading.Proofs.Reporting
import ProofGrading.Proofs.ResultsDocument
import ProofGrading.Proofs.RoundTrip
import ProofGrading.Proofs.Sameness
import ProofGrading.Proofs.Scores
import ProofGrading.Proofs.SettingsFile
import ProofGrading.Proofs.SheetOrigin
import ProofGrading.Proofs.SideBySide
import ProofGrading.Proofs.SoundTree
import ProofGrading.Proofs.SourceFile
import ProofGrading.Proofs.ToldSettings
import ProofGrading.Proofs.TypeComparison
import ProofGrading.Proofs.Verbosity
import ProofGrading.Proofs.Walking
import ProofGrading.Proofs.WrittenText
import ProofGrading.Report
import ProofGrading.Scenario
import ProofGrading.Settings
import ProofGrading.Submission
import ProofGrading.Template
import ProofGrading.Text.Blank
import ProofGrading.Text.Case
import ProofGrading.Text.CodePoint
import ProofGrading.Text.Digit
import ProofGrading.Text.Encoding
import ProofGrading.Text.Hex
import ProofGrading.Text.Lines
import ProofGrading.Text.Printable
import ProofGrading.Text.Quoted
import ProofGrading.Text.Ranges
import ProofGrading.Text.Split
import ProofGrading.Text.Word
import ProofGrading.Toolchain
import ProofGrading.TypeTree
import ProofGrading.Validation.Field
import ProofGrading.Validation.Problem
import ProofGrading.Validation.Scalar
import ProofGrading.Verification
import ProofGrading.Yaml.Cursor
import ProofGrading.Yaml.Flaw
import ProofGrading.Yaml.Lexeme
import ProofGrading.Yaml.Node
import ProofGrading.Yaml.Scanner
import ProofGrading.Yaml.Source
import ProofGrading.Yaml.Tag
import ProofGrading.Yaml.Token
import ProofGrading.Yaml.Value
