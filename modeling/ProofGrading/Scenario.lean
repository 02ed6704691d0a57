import ProofGrading.GradingRun
import ProofGrading.Json.Encode

/-!
# Scenario — machines that are written down

A scenario is a JSON object with the `files` of a machine by path (`null` for a directory), the
`replies` that external programs are going to give and the `search_path` for compiled modules; what
it does not hold is empty.
-/

namespace ProofGrading.Scenario

/-- The fields of an object; other values have none. -/
def fieldsOf : Json → List (String × Json)
  | .obj fields => fields
  | _ => []

/-- The text in a field, if there is one. -/
def text? (fields : List (String × Json)) (key : String) : Option String :=
  match Json.field? fields key with
  | some (.str s) => some s
  | _ => none

/-- The integer in a field, or zero. -/
def integer (fields : List (String × Json)) (key : String) : Int :=
  match Json.field? fields key with
  | some (.int n) => n
  | _ => 0

/-- The files in a field, by path: a text, or a directory. -/
def entries (fields : List (String × Json)) (key : String) : List (String × Option Content) :=
  match Json.field? fields key with
  | some (.obj items) => items.map fun (path, content) =>
    (path, match content with
      | .str s => some (.text s)
      | _ => none)
  | _ => []

/-- How a program ended. -/
def exit (fields : List (String × Json)) : Exit where
  code := integer fields "code"
  out := (text? fields "out").getD ""
  err := (text? fields "err").getD ""
  artifact := (text? fields "artifact").map .text
  checkout := entries fields "checkout"

/-- One reply: a program that ended, or the name of what went wrong. -/
def reply : Json → Reply
  | .str "timeout" => .timedOut
  | .str "missing" => .commandMissing
  | .str "interrupt" => .interrupted
  | .str reason => .broken reason
  | j => .ended (exit (fieldsOf j))

/-- The replies in a field. -/
def replies (fields : List (String × Json)) : List Reply :=
  match Json.field? fields "replies" with
  | some (.arr items) => items.map reply
  | _ => []

/-- Where the program's own files stand. -/
def bundle : Location := ["bundle"]

/-- Where temporary directories are made. -/
def scratch : Location := ["tmp"]

/-- Where relative paths start. -/
def home : Location := ["work"]

/-- The files of a scenario, beside the directories that every machine has. -/
def files (fields : List (String × Json)) : FileTree :=
  let standard : FileTree :=
    { nodes := [(bundle, .directory), (scratch, .directory), (home, .directory)] }
  (entries fields "files").foldl (Job.placeEntry home ⟨.relative, []⟩) standard

/-- **The machine of a scenario.** -/
def machine (j : Json) : Machine :=
  let fields := fieldsOf j
  { home
    scratch
    scratchName := "grading"
    bundle
    searchPath := text? fields "search_path"
    tree := files fields
    replies := replies fields }

/-- The texts of all files, by path. -/
def texts (m : Machine) : Json :=
  .obj (m.tree.nodes.filterMap fun (l, node) =>
    match node with
    | .directory => none
    | .file data => (Text.ofBytes? data).map fun s => (Path.text ⟨.single, l⟩, .str s))

/-- What becomes of a run: its exit code, what it prints, and a complaint. -/
structure Ending where
  code : Nat
  printed : String
  complaint : String := ""

/-- How a run on a machine ends. -/
def ending (arguments : List String) (m : Machine) : Ending :=
  match gradingProgram arguments m with
  | (.ok (.exited code), after) => ⟨code, after.printed ++ (texts after).render ++ "\n", ""⟩
  | (.ok .shownHelp, after) => ⟨0, after.printed, ""⟩
  | (.ok (.refused message), after) => ⟨1, after.printed, message⟩
  | (.error e, after) => ⟨1, after.printed, e.message⟩

/-- **A run of the program** on the machine that a text describes. -/
def run (arguments : List String) (description : String) : Ending :=
  match Json.decode description with
  | .ok j => ending arguments (machine j)
  | .error _ => ⟨2, "", "The scenario is not valid JSON."⟩

end ProofGrading.Scenario
