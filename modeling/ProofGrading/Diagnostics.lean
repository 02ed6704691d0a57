import ProofGrading.Text.Blank
import ProofGrading.Text.Lines
import ProofGrading.Validation.Field

/-!
# Diagnostics — what a compiler run says

A run is a success or a list of errors with a log.  `errorLines` finds the errors in a log, and
`BuildResult.details` explains a failure: the errors, and the end of the log if the compiler named
none.
-/

namespace ProofGrading

/-- The outcome of one run of a compiler. -/
structure BuildResult where
  success : Bool
  errors : List String := []
  log : String := ""
  timedOut : Bool := false

/-- What marks a line as an error. -/
def errorMark : String := ": error:"

/-- Whether a line reports an error. -/
def isErrorLine (line : String) : Bool := Text.occursIn errorMark.toList line.toList

/-- The errors that a log reports, in order, without the blanks around them. -/
def errorLines (output : String) : List String :=
  ((Text.lines output).filter isErrorLine).map Text.trimBlanks

/-- What a list keeps when it is cut from the end: for `0` all of it, for a positive count the last
so many items, and for a negative count what is left after dropping so many from the front. -/
def tail {α : Type} (count : Int) (items : List α) : List α :=
  if 0 < count then items.drop (items.length - count.toNat) else items.drop (-count).toNat

/-- **A positive count keeps the last so many items, or all.** -/
theorem length_tail {α : Type} (count : Nat) (items : List α) (h : 0 < count) :
    (tail count items).length = min count items.length := by
  have : (0 : Int) < count := by omega
  simp only [tail, this, if_true, List.length_drop, Int.toNat_natCast]
  omega

namespace BuildResult

/-- Reads an outcome from the fields of an object. -/
def ofFields (fields : List (String × Json)) : Except Invalid BuildResult :=
  Checked.toExcept "BuildResult" <|
    mk <$> Field.required fields "success" Scalar.boolean
      <*> Field.strings fields "errors" .notList
      <*> Field.optional fields "log" "" Scalar.string
      <*> Field.optional fields "timed_out" false Scalar.boolean

/-- What the student is told about a run that did not end in time. -/
def timeoutHint : String :=
  "The Lean toolchain did not finish in time. Look for tactics that search for a long time, "
    ++ "such as `decide` or `simp` on large goals."

/-- So many lines of a log are shown. -/
def shownLines : Nat := 10

/-- The log from its first to its last line with text. -/
def logLines (r : BuildResult) : List String := Text.lines (Text.trimBlanks r.log)

/-- **Explains a failure**: the errors; then a hint if time ran out, or else the end of the log if
no error names its place. -/
def details (r : BuildResult) (count : Int) : String :=
  let errors := "\n".intercalate r.errors
  if r.timedOut then errors ++ "\n" ++ timeoutHint
  else if r.errors.any isErrorLine || (Text.trimBlanks r.log).isEmpty then errors
  else errors ++ "\n" ++ "\n".intercalate (tail count r.logLines)

/-- The outcome of a run that ended: its output, and the exit code of `step`. -/
def ofRun (step : String) (code : Int) (out err : String) : BuildResult :=
  let log := out ++ "\n" ++ err
  let reported := errorLines log
  let errors := if code ≠ 0 && reported.isEmpty then [s!"{step} exited with code {code}"]
    else reported
  { success := errors.isEmpty, errors, log }

end BuildResult

end ProofGrading
