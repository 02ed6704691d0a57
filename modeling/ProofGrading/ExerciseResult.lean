import ProofGrading.Validation.Field

/-!
# ExerciseResult — the outcome of one exercise
-/

namespace ProofGrading

/-- How an exercise ended. -/
inductive ExerciseStatus where
  | passed
  | missing
  | incomplete
  | typeMismatch
  | axiomViolation
  | buildError
  deriving DecidableEq, Repr, Inhabited

namespace ExerciseStatus

/-- The statuses under their written names. -/
def table : List (String × ExerciseStatus) :=
  [("passed", passed), ("failed_missing", missing), ("failed_incomplete", incomplete),
    ("failed_type_mismatch", typeMismatch), ("failed_axiom_violation", axiomViolation),
    ("failed_build_error", buildError)]

/-- The written name of a status. -/
def label : ExerciseStatus → String
  | passed => "passed"
  | missing => "failed_missing"
  | incomplete => "failed_incomplete"
  | typeMismatch => "failed_type_mismatch"
  | axiomViolation => "failed_axiom_violation"
  | buildError => "failed_build_error"

/-- Whether the exercise was solved. -/
def isPassed (s : ExerciseStatus) : Bool := s == passed

end ExerciseStatus

/-- The outcome of an exercise: points earned, points available, and what the student is told. -/
structure ExerciseResult where
  name : String
  status : ExerciseStatus
  score : Float
  maxScore : Float
  output : String

/-- Reads a result from the fields of an object. -/
def ExerciseResult.ofFields (fields : List (String × Json)) : Except Invalid ExerciseResult :=
  Checked.toExcept "ExerciseResult" <|
    mk <$> Field.required fields "name" Scalar.string
      <*> Field.required fields "status" (Field.choice ExerciseStatus.table)
      <*> Field.required fields "score" Scalar.nonNegative
      <*> Field.required fields "max_score" Scalar.nonNegative
      <*> Field.required fields "output" Scalar.string

end ProofGrading
