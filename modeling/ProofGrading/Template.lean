import ProofGrading.Json.Decode
import ProofGrading.Submission
import ProofGrading.Text.Word
import ProofGrading.Validation.Field

/-!
# Template — the reference sheet and where it comes from

The reference sheet is a file in a public repository, which a provisioning file names.  A module
name says where the sheet goes: its components are directories, the last one the file
(`Path.ofModule`).
-/

namespace ProofGrading

/-- The path of a module's source file in a project. -/
def Path.ofModule (project : Path) (home : String) : Path :=
  let parts := Text.pieces '.' home
  let last := parts.getLast?.getD ""
  (parts.dropLast ++ [last ++ leanSuffix]).foldl Path.child project

/-- A repository and the path of the reference sheet in it. -/
structure TemplateSource where
  repository : String
  sheet : String
  deriving DecidableEq, Repr

namespace TemplateSource

/-- The characters of an owner or of a repository's name. -/
def isNameChar (c : Char) : Bool := Text.isWord c || c == '.' || c == '-'

/-- Whether a text is an owner and a name with a slash between them. -/
def isRepository (s : String) : Bool :=
  match Text.splitOn '/' s.toList with
  | [owner, name] =>
    !owner.isEmpty && !name.isEmpty && owner.all isNameChar && name.all isNameChar
  | _ => false

/-- A text of the form `owner/name`. -/
def repositoryName (v : Scalar) : Except Misfit String := do
  let s ← Scalar.wholeText (← v.string)
  if isRepository s then .ok s else .error .badRepository

/-- A text that is not empty. -/
def nonEmptyText (v : Scalar) : Except Misfit String := do
  let s ← Scalar.wholeText (← v.string)
  if s.isEmpty then .error .noCharacters else .ok s

/-- Reads a source from the fields of an object. -/
def ofFields (fields : List (String × Json)) : Except Invalid TemplateSource :=
  Checked.toExcept "ProvisioningConfig" <|
    mk <$> Field.required fields "public_repo" repositoryName
      <*> Field.required fields "assignment_path" nonEmptyText

/-- The address that the repository is cloned from. -/
def url (s : TemplateSource) : String := s!"https://github.com/{s.repository}.git"

/-- A clone may take this many seconds. -/
def cloneTimeout : Int := 120

end TemplateSource

/-- The failure of a text that is no JSON; a flaw has a wording, which `place` puts into context. -/
def Json.DecodeError.failure (place : String → Failure) : Json.DecodeError → Failure
  | invalid e => place e.message
  | hugeInteger => .badValue
  | tooDeep => .tooDeep

namespace Job

/-- Reads the provisioning file. -/
def loadTemplateSource (p : Path) : Job TemplateSource := do
  let file := p.text
  if !(← isThere p) then fail (.configuration s!"Provisioning config not found: {file}")
  else
    let text ← readText p
    match Json.decodeChars Json.nestingLimit text with
    | .error e =>
      fail (e.failure fun flaw =>
        .configuration s!"Provisioning config {file} is not valid JSON: {flaw}")
    | .ok (.obj fields) =>
      match TemplateSource.ofFields fields with
      | .ok source => done source
      | .error e => fail (.configuration s!"Provisioning config {file} is invalid: {e.message}")
    | .ok _ =>
      fail (.configuration
        s!"Provisioning config {file} is invalid: {Failure.wrongType.message}")

/-- Clones the repository into a directory. -/
def cloneTemplate (source : TemplateSource) (checkout : Path) (timeout : Int) : Job Unit := do
  let url := source.url
  match ← call ⟨["git", "clone", "--depth", "1", url, checkout.text], timeout, none, none⟩ with
  | .timedOut => fail (.configuration s!"Timed out cloning {url}")
  | .commandMissing => fail (.configuration "'git' command not found")
  | .ended exit =>
    if exit.code = 0 then done ()
    else fail (.configuration (s!"Could not clone {url}: " ++ Text.trimBlanks exit.err))
  | .interrupted => fail .interrupted
  | .broken reason => fail (.broken reason)

/-- **Fetches the reference sheet** to a path. -/
def fetchTemplate [Console] (source : TemplateSource) (target : Path) (timeout : Int) :
    Job Path := do
  printLine s!"Fetching reference sheet from {source.url}..."
  withScratch fun dir => do
    let checkout := dir.child "template"
    cloneTemplate source checkout timeout
    let sheet := checkout.child source.sheet
    if !(← isFile sheet) then
      fail (.configuration
        s!"Assignment file {source.sheet} not found in {source.repository}")
    else copyFile sheet target
  printLine s!"  Reference sheet placed at {target.text}"
  done target

end Job

end ProofGrading
