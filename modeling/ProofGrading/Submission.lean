import ProofGrading.Host.Machine

/-!
# Submission — the uploaded file

Of the uploaded `.lean` files that are not hidden the first one counts, names being compared one by
one along the path (`firstPath`), whatever the order in which the directory lists them.
-/

namespace ProofGrading

/-- The ending of the files that are graded. -/
def leanSuffix : String := ".lean"

/-- The module that an upload is compiled as. -/
def submissionModule : String := "Submission"

/-- The chosen upload, and a note if there was a choice. -/
structure Selection where
  path : Path
  warning : String
  deriving DecidableEq, Repr

/-- Whether the names below a directory may belong to an upload: the last has the right ending and
none is hidden. -/
def isCandidate (names : List String) : Bool :=
  (match names.getLast? with
    | some name => leanSuffix.toList.isSuffixOf name.toList
    | none => false)
    && names.all fun name => name.toList.head? != some '.'

/-- Whether one list of names comes before another, or is it. -/
def namesLe : List String → List String → Bool
  | [], _ => true
  | _ :: _, [] => false
  | a :: as, b :: bs => if a = b then namesLe as bs else decide (a < b)

/-- The first of some lists of names. -/
def firstPath? : List (List String) → Option (List String)
  | [] => none
  | x :: rest =>
    match firstPath? rest with
    | none => some x
    | some y => some (if namesLe x y then x else y)

/-- The first of some lists of names is one of them. -/
theorem mem_of_firstPath? {ps : List (List String)} {p : List String} (h : firstPath? ps = some p) :
    p ∈ ps := by
  induction ps generalizing p with
  | nil => cases h
  | cons x rest ih =>
    rw [firstPath?] at h
    split at h
    · cases h; simp
    · next y hy =>
      have hm := ih hy
      cases h
      split
      · simp
      · simp [hm]

namespace Job

/-- Those of some lists of names that lead from a directory to files. -/
def filesAmong (dir : Path) : List (List String) → Job (List (List String))
  | [] => done []
  | names :: rest => do
    let here ← isFile (dir.join ⟨.relative, names⟩)
    let others ← filesAmong dir rest
    done (if here then names :: others else others)

/-- What stands below a directory, by the names that lead there. -/
def namesBelow (dir : Path) : Job (List (List String)) := fun m =>
  match m.tree.locate m.home dir with
  | .ok spot => (.ok (m.tree.descendants spot.location), m)
  | .error e => (.error (.files e), m)

/-- **Chooses the upload to grade.** -/
def selectSubmission (dir : Path) : Job Selection := do
  if !(← isDirectory dir) then fail (.submission ("Submission directory not found: " ++ dir.text))
  else
    let names ← namesBelow dir
    let candidates ← filesAmong dir (names.filter isCandidate)
    match firstPath? candidates with
    | none =>
      fail (.submission
        "No Lean file found in your submission. Please upload a single .lean file.")
    | some names =>
      let count := candidates.length
      let shown := Path.text ⟨.relative, names⟩
      let warning := if count ≤ 1 then "" else
        s!"Warning: Submission has {count} Lean files, using {shown}. "
          ++ "Please submit a single Lean file."
      done ⟨dir.join ⟨.relative, names⟩, warning⟩

/-- Copies the upload to where it is compiled. -/
def placeSubmission (source target : Path) : Job Path := do
  copyFile source target
  done target

/-- The file with the attribute that exercises are marked with. -/
def supportLibrary : String := "AutograderLib.lean"

/-- Puts the bundled support library into a project that has none of its own. -/
def installSupportLibrary [Console] (project : Path) : Job Path := do
  let target := project.child supportLibrary
  if (← isThere target) then done target
  else
    let m ← machine
    copyFile ⟨.single, m.bundle ++ [supportLibrary]⟩ target
    printLine s!"  Installed {supportLibrary} into {project.text}"
    done target

end Job

end ProofGrading
