import ProofGrading.AxiomClosure
import ProofGrading.Exercise
import ProofGrading.ExerciseResult
import ProofGrading.TypeTree

/-!
# Verification — grading one exercise after the other

A submitted declaration has to be there, to be finished, to state what the reference states, and to
rest on accepted axioms; the first that fails decides.  A `Checker` answers three questions about
compiled terms, and a `Verdict` records which of them were asked.
-/

namespace ProofGrading

/-- What answers questions about compiled terms. -/
structure Checker where
  typesEqual : Declaration → Declaration → Bool
  isIncomplete : Declaration → Bool
  axiomsOf : Environment → String → List String

/-- The name that an unproved placeholder refers to. -/
def incompleteMarker : String := "sorryAx"

/-- Whether a declaration is marked as unfinished, or refers to the placeholder itself. -/
def Declaration.isIncomplete (d : Declaration) : Bool :=
  d.hasSorry || d.references.contains incompleteMarker

/-- Whether two declarations have types, and the same statement as their type. -/
def Declaration.sameType (expected actual : Declaration) : Bool :=
  TypeTree.equal expected.type actual.type

/-- The checker that answers from the exported terms. -/
def Checker.structural : Checker where
  typesEqual := Declaration.sameType
  isIncomplete := Declaration.isIncomplete
  axiomsOf := collectAxioms

/-- The axiom policy of a checker: the standard axioms, and the checker's own closure. -/
def Checker.policy (checker : Checker) : AxiomPolicy := ⟨standardAxioms, checker.axiomsOf⟩

/-- A question put to a checker. -/
inductive Question where
  | incomplete (d : Declaration)
  | types (expected actual : Declaration)
  | axioms (env : Environment) (name : String)

/-- The result of an exercise, the questions that were asked for it, in order, and the axioms that
are not accepted. -/
structure Verdict where
  result : ExerciseResult
  asked : List Question := []
  unexpected : List String := []

namespace Verdict

/-- No points, for a reason. -/
def failed (e : Exercise) (status : ExerciseStatus) (reason : String) (asked : List Question) :
    Verdict where
  result := ⟨e.name, status, 0.0, e.points, reason⟩
  asked := asked

/-- Full points. -/
def passed (e : Exercise) (asked : List Question) : Verdict where
  result := ⟨e.name, .passed, e.points, e.points, "Passed all tests"⟩
  asked := asked

/-- What is printed about axioms that are not accepted. -/
def notice (v : Verdict) : Option String :=
  if v.unexpected.isEmpty then none
  else some (s!"    {v.result.name} uses unexpected axioms: "
    ++ ", ".intercalate (sortNames v.unexpected))

end Verdict

/-- **Judges a submitted declaration against the expected one.**  An axiom policy of its own is not
the checker's, so asking it is no question to the checker. -/
def judge (checker : Checker) (policy : Option AxiomPolicy) (e : Exercise)
    (submission : Environment) (expected actual : Declaration) : Verdict :=
  if checker.isIncomplete actual then
    .failed e .incomplete "Proof contains sorry" [.incomplete actual]
  else if !checker.typesEqual expected actual then
    .failed e .typeMismatch "Type is different than expected"
      [.incomplete actual, .types expected actual]
  else
    let asked := [.incomplete actual, .types expected actual] ++
      match policy with
      | none => [.axioms submission e.name]
      | some _ => []
    let unexpected := (policy.getD checker.policy).unexpected submission e.name
    if unexpected.isEmpty then .passed e asked
    else
      { Verdict.failed e .axiomViolation "Contains unexpected axioms" asked with unexpected }

/-- **Grades an exercise**; the reference has to declare it. -/
def verify (checker : Checker) (policy : Option AxiomPolicy) (e : Exercise)
    (reference submission : Environment) : Except GradingError Verdict :=
  match reference.lookup e.name, submission.lookup e.name with
  | none, _ => .error (.undeclared e.name)
  | some _, none => .ok (.failed e .missing "Declaration not found in submission" [])
  | some expected, some actual => .ok (judge checker policy e submission expected actual)

/-- Grades exercises one after the other; the first refusal decides. -/
def verifyAll (checker : Checker) (policy : Option AxiomPolicy)
    (reference submission : Environment) : List Exercise → Except GradingError (List Verdict)
  | [] => .ok []
  | e :: rest =>
    match verify checker policy e reference submission with
    | .error err => .error err
    | .ok v => (verifyAll checker policy reference submission rest).map (v :: ·)

/-- **Grades every exercise of a module of the reference**; there has to be one. -/
def grade (checker : Checker) (policy : Option AxiomPolicy) (reference submission : Environment)
    (home : String) (points : Option (List (String × Json))) :
    Except GradingError (List Verdict) :=
  match reference.exercises home points with
  | .error e => .error e
  | .ok exercises =>
    match verifyAll checker policy reference submission exercises with
    | .error e => .error e
    | .ok [] => .error .noExercises
    | .ok verdicts => .ok verdicts

/-- A declared exercise is graded. -/
theorem verify_eq_ok {checker : Checker} {policy : Option AxiomPolicy} {e : Exercise}
    {reference : Environment} (submission : Environment)
    (h : (reference.lookup e.name).isSome) :
    ∃ v, verify checker policy e reference submission = .ok v := by
  unfold verify
  split
  · simp_all
  · exact ⟨_, rfl⟩
  · exact ⟨_, rfl⟩

/-- A result is about the exercise that was graded. -/
theorem name_of_verify {checker : Checker} {policy : Option AxiomPolicy} {e : Exercise}
    {reference submission : Environment} {v : Verdict}
    (h : verify checker policy e reference submission = .ok v) :
    v.result.name = e.name ∧ v.result.maxScore = e.points := by
  unfold verify at h
  split at h
  · cases h
  · cases h; exact ⟨rfl, rfl⟩
  · cases h
    unfold judge
    split
    · exact ⟨rfl, rfl⟩
    · split
      · exact ⟨rfl, rfl⟩
      · dsimp only
        split <;> exact ⟨rfl, rfl⟩

end ProofGrading
