import ProofGrading.ExerciseResult
import ProofGrading.Failure
import ProofGrading.Json.Encode

/-!
# Report — the results of a submission

A report holds at least one result.  It is written as a JSON document for the platform, and
summarised for the console.  When grading cannot proceed a fatal document with its reason stands in
place of the report.
-/

namespace ProofGrading

/-- The tag for plain text. -/
def outputFormat : String := "text"

/-- The results of a submission in the order of the reference, and notes for the student. -/
structure Report where
  results : List ExerciseResult
  summary : String
  nonempty : results ≠ []

namespace Report

/-- A report of some results; there must be one, and the notes must be a text. -/
def ofResults (results : List ExerciseResult) (summary : Scalar) : Except Invalid Report :=
  match results, summary.string with
  | [], r =>
    .error ⟨"GradingReport", ⟨["results"], .noItems⟩ ::
      match r with
      | .ok _ => []
      | .error e => [⟨["summary"], e⟩]⟩
  | _ :: _, .error e => .error ⟨"GradingReport", [⟨["summary"], e⟩]⟩
  | r :: rest, .ok s => .ok ⟨r :: rest, s, List.cons_ne_nil r rest⟩

/-- The points earned, added up in order. -/
def totalScore (r : Report) : Float := r.results.foldl (fun t e => t + e.score) 0.0

/-- The points available, added up in order. -/
def maxScore (r : Report) : Float := r.results.foldl (fun t e => t + e.maxScore) 0.0

/-- One result as the platform reads it. -/
def entry (r : ExerciseResult) : Json :=
  .obj [("score", .float r.score), ("output", .str r.output), ("name", .str r.name),
    ("status", .str (if r.status.isPassed then "passed" else "failed"))]

/-- A report as the platform reads it. -/
def document (r : Report) : Json :=
  .obj [("tests", .arr (r.results.map entry)), ("output", .str r.summary),
    ("output_format", .str outputFormat)]

/-- The text of the results file. -/
def text (r : Report) : String := r.document.document

/-- A rule across the console. -/
def rule : String := "  " ++ String.ofList (List.replicate 50 '=')

/-- The line of one result. -/
def resultLine (r : ExerciseResult) : String :=
  let mark := if r.status.isPassed then "+" else "-"
  let score := Decimal.onePlace r.score
  let available := Decimal.onePlace r.maxScore
  s!"  [{mark}] {r.name}: {score}/{available} ({r.output})"

/-- The summary for the console, line by line. -/
def summaryLines (r : Report) : List String :=
  let total := Decimal.onePlace r.totalScore
  let available := Decimal.onePlace r.maxScore
  ["\n" ++ rule, s!"  Total Score: {total}/{available}", rule]
    ++ r.results.map resultLine ++ [""]

end Report

/-- The text of a results file, which has to have bytes. -/
def writable (text : String) : Except Failure String :=
  if (Text.bytes? text).isSome then .ok text else .error .unwritable

/-- The document that stands in place of a report. -/
def fatalDocument (message : String) : Json :=
  .obj [("output", .str message), ("score", .float 0.0), ("output_format", .str outputFormat)]

/-- The text of the results file when grading cannot proceed. -/
def fatalText (message : String) : String := (fatalDocument message).document

end ProofGrading
