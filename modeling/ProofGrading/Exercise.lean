import ProofGrading.Environment
import ProofGrading.Text.Split

/-!
# Exercise — what a reference sheet asks for

An exercise is a declaration of the reference module that is worth points and that its author wrote:
names with a component that starts with an underscore are made by the compiler
(`isInternalName`).
-/

namespace ProofGrading

/-- Whether a name was made by the compiler: one of its components starts with an underscore. -/
def isInternalName (name : String) : Bool :=
  (Text.splitOn '.' name.toList).any fun part => part.head? == some '_'

/-- Whether a declaration was made by the compiler. -/
def Declaration.isInternal (d : Declaration) : Bool := d.internal || isInternalName d.name

/-- A declaration to be graded, and what it is worth. -/
structure Exercise where
  name : String
  points : Float

namespace Exercise

/-- Reads an exercise from the fields of an object. -/
def ofFields (fields : List (String × Json)) : Except Invalid Exercise :=
  Checked.toExcept "ExerciseSpec" <|
    mk <$> Field.required fields "name" Scalar.string
      <*> Field.required fields "points" Scalar.nonNegative

/-- An exercise with a name and the points given for it. -/
def ofPoints (name : String) (points : Json) : Except Invalid Exercise :=
  ofFields [("name", .str name), ("points", points)]

end Exercise

/-- Why an exercise list or a grading is refused. -/
inductive GradingError where
  | unknownModule (name : String)
  | invalidExercise (error : Invalid)
  | undeclared (name : String)
  | noExercises
  deriving DecidableEq, Repr

/-- The wording of a refusal. -/
def GradingError.message : GradingError → String
  | unknownModule name => s!"Module {name} not found in the reference environment"
  | invalidExercise e => e.message
  | undeclared name => s!"Exercise {name} is not declared in the reference sheet"
  | noExercises =>
    "The reference sheet does not contain any point-annotated declarations. "
      ++ "Please contact your instructor: this assignment is misconfigured."

namespace Environment

/-- The points that come with the declarations, as a table that can be overridden. -/
def exportedPoints (env : Environment) : List (String × Json) :=
  env.pointTable.map fun p => (p.1, .float p.2)

/-- The declarations of a module that are not internal and have an entry in a table of points, in
order, each with its entry. -/
def annotated (env : Environment) (home : String) (points : List (String × Json)) :
    List (String × Json) :=
  (env.declarationsOf home).filterMap fun d =>
    if d.isInternal then none else (Json.field? points d.name).map (d.name, ·)

/-- Reads exercises one after the other; the first that fails decides. -/
def readExercises : List (String × Json) → Except GradingError (List Exercise)
  | [] => .ok []
  | (name, points) :: rest =>
    match Exercise.ofPoints name points with
    | .error e => .error (.invalidExercise e)
    | .ok exercise => (readExercises rest).map (exercise :: ·)

/-- **The exercises of a module**, in the order of its declarations; without a table of points, the
points that come with the declarations. -/
def exercises (env : Environment) (home : String) (points : Option (List (String × Json))) :
    Except GradingError (List Exercise) :=
  if env.hasModule home then readExercises (env.annotated home (points.getD env.exportedPoints))
  else .error (.unknownModule home)

end Environment

end ProofGrading
