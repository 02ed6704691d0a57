import Mathlib.Data.List.Forall2
import ProofGrading.Proofs.Compilation

/-!
# Proofs/Degrading — grading a submission that did not compile

A run that compiled both sheets ends in one of three ways (`GradingRun.Ends`): the module that is
graded was not loaded, it holds no exercise, or there is a report with one result for each of its
exercises.  When the submission did not compile the results are those of missing declarations, and
the summary ends with the warning that says why (`GradingRun.missing_unless_compiles`).
-/

namespace ProofGrading

variable {checker : Checker} {policy : Option AxiomPolicy} {reference submission : Environment}

/-! ## Grading a list of exercises -/

/-- **Exercises are graded one by one.** -/
theorem verifyAll_ok_iff {es : List Exercise} {vs : List Verdict} :
    verifyAll checker policy reference submission es = .ok vs ↔
      List.Forall₂ (fun e v => verify checker policy e reference submission = .ok v) es vs := by
  induction es generalizing vs with
  | nil =>
    rw [List.forall₂_nil_left_iff]
    exact ⟨fun h => (Except.ok.inj h).symm, fun h => h ▸ rfl⟩
  | cons e rest ih =>
    rw [verifyAll]
    constructor
    · intro h
      split at h
      · cases h
      · next v graded =>
        obtain ⟨others, graded_rest, rfl⟩ := exists_of_map_eq_ok h
        exact .cons graded (ih.1 graded_rest)
    · intro h
      cases h with
      | cons graded graded_rest =>
        rw [graded, ih.2 graded_rest]
        rfl

/-- Exercises that the reference declares can all be graded. -/
theorem exists_verifyAll (checker : Checker) (policy : Option AxiomPolicy)
    (submission : Environment) {es : List Exercise}
    (declared : ∀ e ∈ es, (reference.lookup e.name).isSome) :
    ∃ vs, verifyAll checker policy reference submission es = .ok vs := by
  induction es with
  | nil => exact ⟨[], rfl⟩
  | cons e rest ih =>
    obtain ⟨v, graded⟩ := verify_eq_ok submission (declared e (List.mem_cons_self ..))
    obtain ⟨vs, graded_rest⟩ := ih fun e among => declared e (List.mem_cons_of_mem _ among)
    refine ⟨v :: vs, ?_⟩
    rw [verifyAll, graded, graded_rest]
    rfl

/-- **What grading a module of a priced reference comes to.** -/
theorem grade_cases (checker : Checker) (policy : Option AxiomPolicy) (priced : reference.IsPriced)
    (submission : Environment) (home : String) :
    (reference.hasModule home = false ∧
        grade checker policy reference submission home none = .error (.unknownModule home)) ∨
      (reference.exercises home none = .ok [] ∧
        grade checker policy reference submission home none = .error .noExercises) ∨
      ∃ es vs, reference.exercises home none = .ok es ∧ vs ≠ [] ∧
        List.Forall₂ (fun e v => verify checker policy e reference submission = .ok v) es vs ∧
        grade checker policy reference submission home none = .ok vs := by
  unfold grade
  obtain ⟨unloaded, refused⟩ | ⟨-, es, listed, -⟩ := priced.exercises_cases home
  · rw [refused]
    exact .inl ⟨unloaded, rfl⟩
  · have found : ∀ e ∈ es, (reference.lookup e.name).isSome := fun e he => by
      obtain ⟨d, hd, -, called⟩ := priced.exists_of_listed listed he
      exact called ▸ Environment.lookup_isSome_of_mem hd
    obtain ⟨vs, graded⟩ := exists_verifyAll checker policy submission found
    have each := verifyAll_ok_iff.1 graded
    rw [listed]
    dsimp only
    rw [graded]
    cases each with
    | nil => exact .inr (.inl ⟨rfl, rfl⟩)
    | cons first rest => exact .inr (.inr ⟨_, _, rfl, List.cons_ne_nil _ _, .cons first rest, rfl⟩)

/-- The result of an exercise that the submission does not declare. -/
def Exercise.unfound (e : Exercise) : ExerciseResult :=
  ⟨e.name, .missing, 0.0, e.points, "Declaration not found in submission"⟩

/-- What the submission does not declare gets no points. -/
theorem result_of_verify_absent {e : Exercise} {v : Verdict}
    (graded : verify checker policy e reference submission = .ok v)
    (absent : submission.lookup e.name = none) : v.result = e.unfound := by
  unfold verify at graded
  rw [absent] at graded
  split at graded
  · cases graded
  · cases graded
    rfl
  · next found => cases found

namespace GradingRun

open Job

/-! ## How a run ends -/

/-- **How grading a module ends**: it was not loaded, it holds no exercise, or there is a report
with one result for each exercise and a summary of what there is to tell. -/
inductive Ends (reference : Environment) (home : String) (Result : Exercise → ExerciseResult → Prop)
    (told : List String) : Except Failure Report → Prop
  | unknownModule (unloaded : reference.hasModule home = false) :
      Ends reference home Result told
        (.error (.configuration (GradingError.unknownModule home).message))
  | noExercises (listed : reference.exercises home none = .ok []) :
      Ends reference home Result told (.error (.configuration GradingError.noExercises.message))
  | report {es : List Exercise} {report : Report} (listed : reference.exercises home none = .ok es)
      (results : List.Forall₂ Result es report.results)
      (summary : report.summary = "\n\n".intercalate told) :
      Ends reference home Result told (.ok report)

variable {home : String} {told : List String}

theorem exists_announce (verdicts : List Verdict) (m : Machine) :
    ∃ m', announce verdicts m = (.ok (), m') := by
  induction verdicts generalizing m with
  | nil => exact ⟨m, rfl⟩
  | cons v rest ih =>
    cases notice : v.notice with
    | none =>
      obtain ⟨m', h⟩ := ih m
      refine ⟨m', ?_⟩
      rw [announce, notice]
      exact h
    | some line =>
      obtain ⟨m', h⟩ := ih _
      refine ⟨m', ?_⟩
      rw [announce, notice]
      exact (printLine_bind ..).trans h

/-- The report on some results, as a run ends. -/
def reportOn [Console] (told : List String) (results : List ExerciseResult) : Job Report := do
  let count := results.length
  printLine s!"Graded {count} exercises"
  match Report.ofResults results (.text ("\n\n".intercalate told)) with
  | .error e => fail (.invalid e)
  | .ok report =>
    printLines report.summaryLines
    return report

/-- A report on results, if there are any, always ends. -/
theorem exists_reportOn (told : List String) {results : List ExerciseResult} (some : results ≠ [])
    (m : Machine) : ∃ report m', reportOn told results m = (.ok report, m') ∧
      report.results = results ∧ report.summary = "\n\n".intercalate told := by
  cases results with
  | nil => exact absurd rfl some
  | cons r rest =>
    let report : Report := ⟨r :: rest, "\n\n".intercalate told, List.cons_ne_nil r rest⟩
    obtain ⟨m', printed⟩ := exists_printLines report.summaryLines _
    refine ⟨report, m', ?_, rfl, rfl⟩
    exact (printLine_bind ..).trans (bind_eq_ok_iff.2 ⟨(), m', printed, rfl⟩)

theorem gradeModule_error {e : GradingError}
    (refused : grade .structural none reference submission home none = .error e) (m : Machine) :
    gradeModule reference submission home m = (.error e.failure, m) := by
  rw [gradeModule, refused]
  rfl

theorem exists_gradeModule {verdicts : List Verdict}
    (graded : grade .structural none reference submission home none = .ok verdicts) (m : Machine) :
    ∃ m', gradeModule reference submission home m = (.ok (verdicts.map (·.result)), m') := by
  obtain ⟨m', announced⟩ := exists_announce verdicts m
  refine ⟨m', ?_⟩
  rw [gradeModule, graded]
  exact bind_eq_ok_iff.2 ⟨(), m', announced, rfl⟩

/-- **A module of a priced reference is graded and reported on.** -/
theorem ends_gradeModule (priced : reference.IsPriced) (submission : Environment) (home : String)
    (told : List String) (m : Machine) :
    Ends reference home (fun e r => ∃ v,
        verify .structural none e reference submission = .ok v ∧ v.result = r) told
      ((gradeModule reference submission home >>= reportOn told) m).1 := by
  obtain ⟨unloaded, refused⟩ | ⟨listed, refused⟩ | ⟨es, vs, listed, some, each, graded⟩ :=
    grade_cases .structural none priced submission home
  · rw [bind_error (gradeModule_error refused m)]
    exact .unknownModule unloaded
  · rw [bind_error (gradeModule_error refused m)]
    exact .noExercises listed
  · obtain ⟨m₁, ended⟩ := exists_gradeModule graded m
    have results_some : vs.map (·.result) ≠ [] := fun h => some (List.map_eq_nil_iff.1 h)
    obtain ⟨report, m₂, reported, results, summary⟩ := exists_reportOn told results_some m₁
    rw [bind_ok ended, reported]
    refine .report listed ?_ summary
    rw [results, List.forall₂_map_right_iff]
    exact each.imp fun e v graded => ⟨v, graded, rfl⟩

/-- What there is to tell in the summary: the notes that say something, and the warning about an
upload that did not compile. -/
def toTell (notes : List String) (env : Environment) (warning : String) : List String :=
  notes.filter (!·.isEmpty) ++ if env.isDegraded then [warning] else []

/-- **A run that compiled both sheets grades the module and reports on it.** -/
theorem ends_gradeSubmission {t : Toolchain} {source : Path} {m₀ m m' : Machine}
    {warning : String} (notes : List String) (priced : reference.IsPriced)
    (compiled : t.compileReference home m₀ = (.ok reference, m))
    (returned : t.compileSubmission source reference m = (.ok (submission, warning), m')) :
    Ends reference home (fun e r => ∃ v,
        verify .structural none e reference submission = .ok v ∧ v.result = r)
      (toTell notes submission warning) (gradeSubmission t home source notes m₀).1 := by
  have graded := ends_gradeModule priced submission home (toTell notes submission warning)
  unfold gradeSubmission toTell at *
  rw [bind_ok compiled, bind_ok returned]
  dsimp only
  split
  · next degraded =>
    rw [if_pos degraded] at graded
    rw [printLine_bind, printLine_bind]
    exact graded _
  · next whole =>
    rw [if_neg whole] at graded
    rw [printLine_bind]
    exact graded _

/-- What holds of the result of each exercise that is listed may be weakened. -/
theorem Ends.mono {Result Result' : Exercise → ExerciseResult → Prop}
    {ended : Except Failure Report} (h : Ends reference home Result told ended)
    (weaker : ∀ es, reference.exercises home none = .ok es →
      ∀ e ∈ es, ∀ r, Result e r → Result' e r) :
    Ends reference home Result' told ended := by
  cases h with
  | unknownModule unloaded => exact .unknownModule unloaded
  | noExercises listed => exact .noExercises listed
  | report listed results summary =>
    refine .report listed ?_ summary
    have both := (List.forall₂_and_left _ _).2 ⟨weaker _ listed, results⟩
    exact both.imp fun e r h => h.1 r h.2

/-- The export of a sheet of one exercise. -/
def sheetExport : String :=
  "\x7b\"module\": \"Sheet\", \"declarations\": [\x7b\"name\": \"easy\", \"module\": \"Sheet\", "
    ++ "\"kind\": \"theorem\", \"points\": 5\x7d]\x7d"

/-- A machine on which that sheet compiles, and the upload does not. -/
def brokenUpload : Machine where
  home := ["work"]
  scratch := ["tmp"]
  scratchName := "grading"
  bundle := ["bundle"]
  tree :=
    { nodes := [(["tmp"], .directory), (["work"], .directory),
        (["work", "Submission.lean"], .file .empty)] }
  replies :=
    [.ended {}, .ended { artifact := some sheetExport },
      .ended { code := 1, out := "Submission.lean:1:2: error: unexpected end of input" }]

namespace brokenUpload

/-- Its sheet is compiled, and then its upload. -/
def compileBoth : Job (Environment × Environment × String) := do
  let t : Toolchain := { project := {} }
  let reference ← t.compileReference "Sheet"
  let (env, warning) ← t.compileSubmission (.ofString "Submission.lean") reference
  return (reference, env, warning)

/-- Whether the upload was compiled after the sheet, and failed. -/
def isDegraded : Except Failure (Environment × Environment × String) → Bool
  | .ok (reference, env, _) => reference.mainModule == "Sheet" && env.isDegraded
  | .error _ => false

theorem isDegraded_compileBoth : isDegraded (compileBoth brokenUpload).1 = true := by
  decide +kernel

end brokenUpload

end GradingRun

end ProofGrading
