import ProofGrading.Diagnostics
import ProofGrading.Export
import ProofGrading.Template

/-!
# Toolchain — compiling sheets and exporting their environments

A toolchain calls the build tool in a project and turns what happens into build results and
environments.  A submission that does not compile is graded against the degraded reference, with a
warning that says why.
-/

namespace ProofGrading

/-- A project and how its build tool is called. -/
structure Toolchain where
  project : Path
  command : String := "lake"
  timeout : Int := 600
  verbose : Bool := false

/-- What a student is told about a reference that fails to build. -/
def referenceBuildMessage : String :=
  "The reference solution failed to build, so this submission cannot be graded. "
    ++ "Please contact your instructor."

/-- What a student is told about a submission that fails to build. -/
def submissionBuildWarning : String :=
  "Warning: Your submission has compile errors, so none of its declarations could be graded and "
    ++ "every exercise is treated as missing. Fix the errors below and resubmit."

namespace Toolchain

/-- The lines of a log that are shown while it runs, at most twenty. -/
def shownLog (log : String) : List String :=
  let text := Text.trimBlanks log
  if text.isEmpty then []
  else
    ["  --- Toolchain Log ---"] ++ ((Text.pieces '\n' text).take 20).map ("  " ++ ·)
      ++ ["  ---------------------"]

/-- The line that shows a command before it is called. -/
def shownCommand (command : List String) : String := "  Executing: " ++ " ".intercalate command

/-- Calls the build tool; the first argument names the step. -/
def run [Console] (t : Toolchain) (step : String) (arguments : List String)
    (searchPath : Option String) : Job BuildResult := do
  let command := t.command :: step :: arguments
  if t.verbose then Job.printLine (shownCommand command)
  let project ← Job.resolve t.project
  match ← Job.call ⟨command, t.timeout, some project.text, searchPath⟩ with
  | .timedOut =>
    let reason := s!"Compilation timed out after {t.timeout}s"
    return { success := false, errors := [reason], timedOut := true }
  | .commandMissing =>
    let reason := s!"'{t.command}' command not found. Is Lean installed and on PATH?"
    return { success := false, errors := [reason] }
  | .ended exit =>
    let result := BuildResult.ofRun step exit.code exit.out exit.err
    if t.verbose then Job.printLines (shownLog result.log)
    return result
  | .interrupted => Job.fail .interrupted
  | .broken reason => Job.fail (.broken reason)

/-- Builds a module of the project. -/
def buildReference [Console] (t : Toolchain) (home : String) : Job BuildResult :=
  t.run "build" [home] none

/-- Compiles an upload into a directory. -/
def buildSubmission [Console] (t : Toolchain) (source output : Path) : Job BuildResult := do
  let object ← Job.resolve (output.child (submissionModule ++ ".olean"))
  let source ← Job.resolve source
  t.run "env" ["lean", "-o", object.text, source.text] none

/-- The search path for compiled modules: a directory, and the search path of the machine. -/
def searchPath (dir : Option Path) : Job (Option String) := do
  match dir with
  | none => return none
  | some dir =>
    let m ← Job.machine
    let dir ← Job.resolve dir
    let parts := [dir.text, m.searchPath.getD ""].filter (!·.isEmpty)
    return some (":".intercalate parts)

/-- Runs the exporter and reads the value that it wrote. -/
def exportedJson [Console] (t : Toolchain) (home : String) (path : Option String) : Job Json :=
  Job.withScratch fun dir => do
    let m ← Job.machine
    let exporter : Path := ⟨.single, m.bundle ++ ["ExportEnv.lean"]⟩
    let output := dir.child "environment.json"
    let result ← t.run "env" ["lean", "--run", exporter.text, home, output.text] path
    if !result.success then
      Job.fail (.toolchain (result.details BuildResult.shownLines))
    else if !(← Job.isThere output) then
      Job.fail (.toolchain s!"Exporter produced no output for {home}")
    else
      let text ← Job.readText output
      match Json.decodeChars Json.nestingLimit text with
      | .ok data => return data
      | .error e =>
        Job.fail (e.failure fun flaw =>
          .toolchain s!"Exporter output for {home} is not valid JSON: {flaw}")

/-- Reads an environment from its export. -/
def environmentOf (data : Json) : Except Failure Environment :=
  (Export.environment data).mapError fun e =>
    .toolchain ("Malformed environment export: " ++ e.message)

/-- Exports the environment of a compiled module. -/
def exportEnvironment [Console] (t : Toolchain) (home : String) (dir : Option Path) :
    Job Environment := do
  let path ← searchPath dir
  let data ← t.exportedJson home path
  Job.ofExcept (environmentOf data)

/-- What is told about the reference when a step of its compilation fails. -/
def referenceFailure (details : String) : Failure :=
  .configuration (referenceBuildMessage ++ "\n\n" ++ details)

/-- **Builds and exports the reference sheet.** -/
def compileReference [Console] (t : Toolchain) (home : String) : Job Environment := do
  Job.printLine s!"Building reference module {home}..."
  let result ← t.buildReference home
  if !result.success then
    let details := result.details BuildResult.shownLines
    Job.printLine ("  Reference build FAILED:\n" ++ details)
    Job.fail (referenceFailure details)
  else
    match ← Job.attempt (t.exportEnvironment home none) with
    | .ok env =>
      let count := env.declarations.length
      Job.printLine s!"  Exported {count} declarations"
      return env
    | .error (.toolchain details) => Job.fail (referenceFailure details)
    | .error e => Job.fail e

/-- Builds and exports an upload; or else says what is wrong with it. -/
def tryCompile [Console] (t : Toolchain) (source : Path) : Job (Except String Environment) :=
  Job.withScratch fun dir => do
    let result ← t.buildSubmission source dir
    if !result.success then return .error (result.details BuildResult.shownLines)
    else
      match ← Job.attempt (t.exportEnvironment submissionModule (some dir)) with
      | .ok env =>
        Job.printLine "  Submission: COMPILED"
        return .ok env
      | .error (.toolchain details) => return .error details
      | .error e => Job.fail e

/-- **Builds and exports the upload**, or falls back on the degraded reference with a warning. -/
def compileSubmission [Console] (t : Toolchain) (source : Path) (reference : Environment) :
    Job (Environment × String) := do
  Job.printLine s!"Compiling submission {source.name}..."
  match ← t.tryCompile source with
  | .ok env => return (env, "")
  | .error details =>
    Job.printLine "  Submission: FAILED (graded against a degraded environment)"
    return (reference.degraded, submissionBuildWarning ++ "\n\n" ++ details)

end Toolchain

end ProofGrading
