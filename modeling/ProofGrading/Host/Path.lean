import ProofGrading.Text.Split

/-!
# Host/Path — names of files

A path is a root and the names below it.  Empty names and `.` say nothing and are dropped, `..` is
kept, since where it leads depends on the files.  Main statements: joining restarts at an absolute
path (`join_of_isAbsolute`) and goes on from a relative one (`names_join`).
-/

namespace ProofGrading

/-- Where a path starts: at the working directory, or at one of the two spellings of the root. -/
inductive Root where
  | relative
  | single
  | double
  deriving DecidableEq, Repr, Inhabited

/-- A root and the names below it. -/
structure Path where
  root : Root := .relative
  names : List String := []
  deriving DecidableEq, Repr, Inhabited

namespace Path

/-- Whether a name is more than empty or `.`. -/
def saysSomething (name : String) : Bool := name != "" && name != "."

/-- The root that a text starts with: two slashes, but no three, are a root of their own. -/
def rootOf : List Char → Root
  | '/' :: '/' :: '/' :: _ => .single
  | '/' :: '/' :: _ => .double
  | '/' :: _ => .single
  | _ => .relative

/-- Reads a path. -/
def ofString (s : String) : Path where
  root := rootOf s.toList
  names := (Text.pieces '/' s).filter saysSomething

/-- The spelling of a root. -/
def rootText : Root → String
  | .relative => ""
  | .single => "/"
  | .double => "//"

/-- The text of a path; the empty one is the working directory. -/
def text (p : Path) : String :=
  if p.root = .relative ∧ p.names = [] then "." else rootText p.root ++ "/".intercalate p.names

/-- Whether a path starts at a root. -/
def isAbsolute (p : Path) : Bool := p.root != .relative

/-- A path seen from another one. -/
def join (p q : Path) : Path :=
  if q.isAbsolute then q else ⟨p.root, p.names ++ q.names⟩

/-- The path of a text, seen from another path. -/
def child (p : Path) (s : String) : Path := p.join (ofString s)

/-- What a path stands in; a root and the working directory stand in themselves. -/
def parent (p : Path) : Path := { p with names := p.names.dropLast }

/-- The last name of a path, empty if there is none. -/
def name (p : Path) : String := p.names.getLast?.getD ""

/-- **An absolute path is seen the same from everywhere.** -/
theorem join_of_isAbsolute (p : Path) {q : Path} (h : q.isAbsolute = true) : p.join q = q := by
  simp [join, h]

/-- **A relative path goes on from where it is seen.** -/
theorem names_join (p : Path) {q : Path} (h : q.isAbsolute = false) :
    p.join q = ⟨p.root, p.names ++ q.names⟩ := by
  simp [join, h]

/-- The text of a name is that name. -/
theorem text_name (name : String) : text ⟨.relative, [name]⟩ = name := by
  change "" ++ "/".intercalate [name] = name
  rw [String.empty_append, String.intercalate_singleton]

end Path

end ProofGrading
