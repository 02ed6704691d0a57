import ProofGrading.Host.Machine
import ProofGrading.Validation.Field
import ProofGrading.Yaml.Value

/-!
# Settings — the configuration of a grading

Settings are a YAML mapping; what is not there has a default.  Relative paths are seen from the
directory of the settings file.
-/

namespace ProofGrading

/-- Where things are and how the build tool is called. -/
structure Settings where
  project : Path := .ofString "."
  reference : String := "Assignment"
  submissions : Path := .ofString "/autograder/submission"
  provisioning : Path := .ofString "autograder_config.json"
  results : Path := .ofString "../results/results.json"
  command : String := "lake"
  timeout : Int := 600
  verbose : Bool := false

namespace Settings

/-- The entries of a settings file, by key. -/
abbrev Entries : Type := List (String × Yaml.Value)

/-- The value at a key. -/
def entry? (entries : Entries) (key : String) : Option Yaml.Value :=
  (entries.find? (·.1 == key)).map (·.2)

/-- A path field as the reader of fields sees it: absent, a path, or a misfit. -/
abbrev PathField : Type := Option (Except Misfit Path)

/-- A path that is given: a text is seen from a directory, and the empty one is the working
directory; of other values only those that are nothing, zero or empty come as far as being no
path. -/
def pathAt (dir : Path) (v : Yaml.Value) : Except Failure (Except Misfit Path) :=
  match v with
  | .single (.text s) => .ok (.ok (if s.isEmpty then {} else dir.child s))
  | v => if v.isFalsy then .ok (.error .notPath) else .error .wrongType

/-- The path field at a key. -/
def pathField (entries : Entries) (dir : Path) (key : String) : Except Failure PathField :=
  match entry? entries key with
  | none => .ok none
  | some v => (pathAt dir v).map some

/-- A path, or its default. -/
def readPath (key : String) (default : Path) (field : PathField) : Checked Path :=
  match field with
  | none => .valid default
  | some r => Field.placed [key] r

/-- A single value, or its default. -/
def readSingle {α : Type} (entries : Entries) (key : String) (default : α)
    (read : Scalar → Except Misfit α) : Checked α :=
  match entry? entries key with
  | none => .valid default
  | some v => Field.placed [key] (read v.scalar)

/-- The entries of a mapping whose keys are texts. -/
def entriesOf : List (Yaml.Value × Yaml.Value) → Except Failure Entries
  | [] => .ok []
  | (.single (.text key), v) :: rest => (entriesOf rest).map ((key, v) :: ·)
  | _ :: _ => .error .wrongType

/-- Reads settings from the entries of a file in a directory. -/
def ofEntries (dir : Path) (entries : Entries) : Except Failure Settings := do
  let project ← pathField entries dir "project_dir"
  let submissions ← pathField entries dir "submission_dir"
  let provisioning ← pathField entries dir "provisioning_config"
  let results ← pathField entries dir "results_path"
  let standard : Settings := {}
  let checked := mk
    <$> readPath "project_dir" standard.project project
    <*> readSingle entries "reference_module" standard.reference Scalar.string
    <*> readPath "submission_dir" standard.submissions submissions
    <*> readPath "provisioning_config" standard.provisioning provisioning
    <*> readPath "results_path" standard.results results
    <*> readSingle entries "lake_command" standard.command Scalar.string
    <*> readSingle entries "build_timeout_seconds" standard.timeout Scalar.positive
    <*> readSingle entries "verbose" standard.verbose Scalar.boolean
  (checked.toExcept "GraderConfig").mapError .invalid

/-- Reads settings from the value of a file in a directory; nothing at all gives the defaults. -/
def ofValue (dir : Path) (v : Yaml.Value) : Except Failure Settings :=
  if v.isFalsy then .ok {}
  else
    match v with
    | .map entries => do
      let entries ← entriesOf entries
      ofEntries dir entries
    | _ => .error .wrongType

/-- Reads settings from a file. -/
def load (p : Path) : Job Settings := do
  if !(← Job.isThere p) then Job.fail (.settingsMissing p)
  else
    let data ← Job.readBytes p
    match Yaml.Value.ofSource (.ofBytes data) with
    | .ok v => Job.ofExcept (ofValue p.parent v)
    | .error flaw => Job.fail flaw.failure

/-- The name of the settings file that may be absent. -/
def standardFile : Path := .ofString "grader_config.yml"

/-- Reads settings from a file; only the standard one may be absent. -/
def find (p : Path) : Job Settings := do
  if p == standardFile then
    if (← Job.isThere p) then load p else return {}
  else load p

end Settings

end ProofGrading
