import ProofGrading.CommandLine
import ProofGrading.Report
import ProofGrading.Settings
import ProofGrading.Toolchain
import ProofGrading.Verification

/-!
# GradingRun — grading a submission from start to end

A run fetches or takes the sheets, compiles them, grades every exercise and writes the results.
Whatever ends it early, a document with the reason is written in place of the report.
-/

namespace ProofGrading

/-- What a student is told when something unexpected happens. -/
def unexpectedErrorMessage : String :=
  "An unexpected error occurred while grading. Please contact your instructor."

/-- The failure that a refusal to grade counts as. -/
def GradingError.failure : GradingError → Failure
  | invalidExercise e => .invalid e
  | e => .configuration e.message

namespace GradingRun

/-- Prints what there is to tell about some verdicts. -/
def announce [Console] : List Verdict → Job Unit
  | [] => Job.done ()
  | v :: rest => do
    match v.notice with
    | some line => Job.printLine line
    | none => Job.done ()
    announce rest

/-- Grades the exercises of a module. -/
def gradeModule [Console] (reference submission : Environment) (home : String) :
    Job (List ExerciseResult) :=
  match grade .structural none reference submission home none with
  | .error e => Job.fail e.failure
  | .ok verdicts => do
    announce verdicts
    Job.done (verdicts.map (·.result))

/-- **Compiles both sheets and grades the submission**; notes that are not empty come first in the
summary. -/
def gradeSubmission [Console] (t : Toolchain) (home : String) (submission : Path)
    (notes : List String) : Job Report := do
  let reference ← t.compileReference home
  let (env, warning) ← t.compileSubmission submission reference
  if env.isDegraded then Job.printLine "  Every exercise will be graded as missing"
  let notes := notes.filter (!·.isEmpty) ++ if env.isDegraded then [warning] else []
  Job.printLine s!"Grading {home}..."
  let results ← gradeModule reference env home
  let count := results.length
  Job.printLine s!"Graded {count} exercises"
  match Report.ofResults results (.text ("\n\n".intercalate notes)) with
  | .error e => Job.fail (.invalid e)
  | .ok report =>
    Job.printLines report.summaryLines
    return report

/-- The module, the file to grade and the notes, as they are given or fetched. -/
def sources [Console] (s : Settings) (given : Option (String × String)) :
    Job (String × Path × List String) := do
  let fetched : Job (String × Path × List String) := do
    let template ← Job.loadTemplateSource s.provisioning
    let _ ← Job.fetchTemplate template (s.project.ofModule s.reference) TemplateSource.cloneTimeout
    let selection ← Job.selectSubmission s.submissions
    Job.printLine s!"Selected submission {selection.path.text}"
    let placed ← Job.placeSubmission selection.path
      (s.project.child (submissionModule ++ leanSuffix))
    return (s.reference, placed, [selection.warning])
  match given with
  | none => fetched
  | some (home, file) =>
    if home.isEmpty then fetched
    else
      let file := Path.ofString file
      if !(← Job.isFile file) then
        Job.fail (.submission ("Submission file not found: " ++ file.text))
      else return (home, file, [])

/-- A run with settings, up to the report. -/
def report [Console] (s : Settings) (inv : Invocation) : Job Report := do
  let t : Toolchain :=
    { project := s.project
      command := s.command
      timeout := s.timeout
      verbose := s.verbose || inv.verbose }
  let (home, submission, notes) ← sources s inv.given
  let _ ← Job.installSupportLibrary s.project
  gradeSubmission t home submission notes

/-- A run with settings, up to the written report. -/
def gradeAndWrite [Console] (s : Settings) (inv : Invocation) : Job Unit := do
  let report ← report s inv
  Job.writeText s.results report.text
  Job.printLine s!"Saved results to {s.results.text}"

/-- Tells why a run ended, and writes it in place of the report; the exit code. -/
def giveUp [Console] (results : Path) (told reason : String) (code : Nat) : Job Nat := do
  Job.printLine told
  Job.writeText results (fatalText reason)
  return code

/-- What a run with settings ends with. -/
def conclude [Console] (results : Path) : Except Failure Unit → Job Nat
  | .ok () => return 0
  | .error .interrupted =>
    giveUp results "\nGrading interrupted by user." unexpectedErrorMessage 1
  | .error e =>
    let told := "\nError: " ++ e.message
    match e.exitCode? with
    | some code => giveUp results told e.message code
    | none => giveUp results told unexpectedErrorMessage 1

/-- **A grading run**; its value is the exit code. -/
def run [Console] (inv : Invocation) : Job Nat := do
  match ← Job.attempt (Settings.find (.ofString inv.settings)) with
  | .error .interrupted => Job.fail .interrupted
  | .error e =>
    let standard : Settings := {}
    giveUp standard.results ("Error loading config: " ++ e.message)
      ("Grader configuration error: " ++ e.message) 1
  | .ok s => conclude s.results (← Job.attempt (gradeAndWrite s inv))

end GradingRun

/-- What a call of the program comes to: help, a refusal, or an exit code. -/
inductive Outcome where
  | shownHelp
  | refused (message : String)
  | exited (code : Nat)
  deriving DecidableEq, Repr

/-- **The program**: reads its arguments and grades. -/
def gradingProgram [Console] (arguments : List String) : Job Outcome :=
  match CommandLine.parse arguments with
  | .error .help => do
    Job.printLine CommandLine.helpText
    return .shownHelp
  | .error refusal => return .refused refusal.message
  | .ok inv => do
    let code ← GradingRun.run inv
    return .exited code

end ProofGrading
