import ProofGrading.Host.FileTree
import ProofGrading.Text.Quoted
import ProofGrading.Validation.Problem

/-!
# Failure — why a job ends early

Some failures are the grader's own and carry their wording; what comes from reading files, from
decoding and from values of a wrong type is only named (`Failure.message`).
-/

namespace ProofGrading

/-- The causes that end a job. -/
inductive Failure where
  | configuration (reason : String)
  | submission (reason : String)
  | toolchain (reason : String)
  | invalid (error : Invalid)
  | settingsMissing (path : Path)
  | files (fault : FileFault)
  | wrongType
  | badValue
  | badText
  | badYaml
  | missingKey (key : String)
  | badIndex
  | noMoment
  | tooDeep
  | overflow
  | unwritable
  | unprintable
  | broken (reason : String)
  | interrupted
  deriving DecidableEq, Repr

/-- The name of a fault. -/
def FileFault.label : FileFault → String
  | notFound => "FileNotFoundError"
  | notDirectory => "NotADirectoryError"
  | isDirectory => "IsADirectoryError"
  | occupied => "FileExistsError"
  | sameFile => "SameFileError"
  | nameTooLong => "OSError"
  | nullCharacter => "ValueError"
  | noFileName => "UnicodeEncodeError"

namespace Failure

/-- The name of a kind of failure. -/
def label : Failure → String
  | configuration _ => "ConfigurationError"
  | submission _ => "SubmissionError"
  | toolchain _ => "ToolchainError"
  | invalid _ => "ValidationError"
  | settingsMissing _ => "FileNotFoundError"
  | files fault => fault.label
  | wrongType => "TypeError"
  | badValue => "ValueError"
  | badText => "UnicodeDecodeError"
  | badYaml => "YAMLError"
  | missingKey _ => "KeyError"
  | badIndex => "IndexError"
  | noMoment => "AttributeError"
  | tooDeep => "RecursionError"
  | overflow => "OverflowError"
  | unwritable => "PydanticSerializationError"
  | unprintable => "UnicodeEncodeError"
  | broken _ => "RuntimeError"
  | interrupted => "KeyboardInterrupt"

/-- What is told about a failure. -/
def message (f : Failure) : String :=
  match f with
  | configuration reason | submission reason | toolchain reason | broken reason => reason
  | invalid e => e.message
  | settingsMissing p => "Configuration file not found: " ++ p.text
  | missingKey key => Text.quoted key
  | badIndex => "string index out of range"
  | interrupted => ""
  | other => "<" ++ other.label ++ ">"

/-- The exit code of a failure that explains itself: an upload that cannot be graded is no error of
the grader. -/
def exitCode? : Failure → Option Nat
  | configuration _ => some 1
  | submission _ => some 0
  | _ => none

end Failure

end ProofGrading
