import ProofGrading.Host.Path
import ProofGrading.Text.Encoding

/-!
# Host/FileTree — files and directories

A tree maps locations, the names that lead from the root to a file, to files and directories.  A
path is walked name by name, and every operation on it says what can go wrong.  Main statements: a
location that was put is found and all others are as before (`node?_put_self`, `node?_put_ne`).
-/

namespace ProofGrading

/-- The names that lead from the root to a file or directory. -/
abbrev Location := List String

/-- What stands at a location. -/
inductive Node where
  | file (data : ByteArray)
  | directory

/-- Why an operation on files fails. -/
inductive FileFault where
  | notFound
  | notDirectory
  | isDirectory
  | occupied
  | sameFile
  | nameTooLong
  | nullCharacter
  | noFileName
  deriving DecidableEq, Repr

/-- Whether a fault lies in the spelling of a path, whatever the files. -/
def FileFault.isOfPath : FileFault → Bool
  | nullCharacter => true
  | noFileName => true
  | _ => false

/-- Files and directories by location, and names that stand for a directory elsewhere. -/
structure FileTree where
  nodes : List (Location × Node) := []
  aliases : List (Location × Location) := []

namespace FileTree

/-- What stands at a location; the root is a directory. -/
def node? (t : FileTree) (l : Location) : Option Node :=
  if l = [] then some .directory else (t.nodes.find? (·.1 == l)).map (·.2)

/-- Puts a node into a list at its location's place, or at the end. -/
def putNode (nodes : List (Location × Node)) (l : Location) (n : Node) : List (Location × Node) :=
  match nodes with
  | [] => [(l, n)]
  | (k, m) :: rest => if k = l then (l, n) :: rest else (k, m) :: putNode rest l n

/-- The tree with a node at a location. -/
def put (t : FileTree) (l : Location) (n : Node) : FileTree :=
  { t with nodes := putNode t.nodes l n }

/-- The tree without a location and all below it. -/
def prune (t : FileTree) (l : Location) : FileTree :=
  { t with nodes := t.nodes.filter fun e => !l.isPrefixOf e.1 }

/-- Where a name leads from a directory. -/
def step (t : FileTree) (dir : Location) (name : String) : Location :=
  let l := dir ++ [name]
  match t.aliases.find? (·.1 == l) with
  | some a => a.2
  | none => l

/-- A name may have this many bytes. -/
def nameLimit : Nat := 255

/-- The text of a path must have fewer bytes. -/
def pathLimit : Nat := 4096

/-- Where a path leads, and what stands there. -/
structure Spot where
  location : Location
  node : Option Node

/-- Walks names from a directory; all but the last have to lead to directories. -/
def walk (t : FileTree) (dir : Location) : List String → Except FileFault Spot
  | [] => .ok ⟨dir, some .directory⟩
  | name :: rest =>
    if name = ".." then walk t dir.dropLast rest
    else if nameLimit < Text.nameSize name then .error .nameTooLong
    else
      let next := t.step dir name
      match t.node? next, rest with
      | some .directory, rest => walk t next rest
      | node, [] => .ok ⟨next, node⟩
      | some (.file _), _ :: _ => .error .notDirectory
      | none, _ :: _ => .error .notFound

/-- Where a path leads from a working directory. -/
def locate (t : FileTree) (home : Location) (p : Path) : Except FileFault Spot :=
  if !p.names.all Text.isFileName then .error .noFileName
  else if p.names.any fun n => n.toList.contains '\x00' then .error .nullCharacter
  else if pathLimit ≤ Text.nameSize p.text then .error .nameTooLong
  else walk t (if p.isAbsolute then [] else home) p.names

/-- Whether something that satisfies `is` stands where a path leads; a path that leads nowhere is
no fault, one that is too long is. -/
def asks (t : FileTree) (home : Location) (is : Node → Bool) (p : Path) : Except FileFault Bool :=
  match t.locate home p with
  | .ok ⟨_, some n⟩ => .ok (is n)
  | .ok ⟨_, none⟩ => .ok false
  | .error .nameTooLong => .error .nameTooLong
  | .error _ => .ok false

/-- Whether a path leads to something. -/
def isThere (t : FileTree) (home : Location) (p : Path) : Except FileFault Bool :=
  t.asks home (fun _ => true) p

/-- Whether a path leads to a file. -/
def isFile (t : FileTree) (home : Location) (p : Path) : Except FileFault Bool :=
  t.asks home (fun | .file _ => true | .directory => false) p

/-- Whether a path leads to a directory. -/
def isDirectory (t : FileTree) (home : Location) (p : Path) : Except FileFault Bool :=
  t.asks home (fun | .file _ => false | .directory => true) p

/-- The bytes of a file. -/
def read (t : FileTree) (home : Location) (p : Path) : Except FileFault ByteArray :=
  match t.locate home p with
  | .ok ⟨_, some (.file data)⟩ => .ok data
  | .ok ⟨_, some .directory⟩ => .error .isDirectory
  | .ok ⟨_, none⟩ => .error .notFound
  | .error e => .error e

/-- Writes a file, new or not; its directory has to be there. -/
def write (t : FileTree) (home : Location) (p : Path) (data : ByteArray) :
    Except FileFault FileTree :=
  match t.locate home p with
  | .ok ⟨_, some .directory⟩ => .error .isDirectory
  | .ok ⟨l, _⟩ => .ok (t.put l (.file data))
  | .error e => .error e

/-- Makes one directory where nothing stands. -/
def makeDirectory (t : FileTree) (home : Location) (p : Path) : Except FileFault FileTree :=
  match t.locate home p with
  | .ok ⟨l, none⟩ => .ok (t.put l .directory)
  | .ok ⟨_, some _⟩ => .error .occupied
  | .error e => .error e

/-- The fault that lies in the spelling of a path, whatever the files. -/
def pathFault? (t : FileTree) (home : Location) (p : Path) : Option FileFault :=
  match t.locate home p with
  | .error e => if e.isOfPath then some e else none
  | .ok _ => none

/-- What a failure to make a directory comes to when a directory may be there already. -/
def unlessDirectory (t : FileTree) (home : Location) (p : Path) (e : FileFault) :
    Option FileFault :=
  if e.isOfPath then some e
  else match t.isDirectory home p with
    | .ok true => none
    | .ok false => some e
    | .error e => some e

/-- Makes a directory and what it stands in, unless they are there.  What was made stays if a later
step fails. -/
def makeDirectories (t : FileTree) (home : Location) (p : Path) : FileTree × Option FileFault :=
  match t.makeDirectory home p with
  | .ok t => (t, none)
  | .error .notFound =>
    if _h : p.names = [] then (t, some .notFound)
    else
      match makeDirectories t home p.parent with
      | (t, some e) => (t, some e)
      | (t, none) =>
        match t.makeDirectory home p with
        | .ok t => (t, none)
        | .error .notFound => (t, some .notFound)
        | .error e => (t, t.unlessDirectory home p e)
  | .error e => (t, t.unlessDirectory home p e)
termination_by p.names.length
decreasing_by
  have := List.length_pos_iff.2 _h
  simp only [Path.parent, List.length_dropLast]
  omega

/-- Whether two paths lead to the same thing. -/
def sameFile (t : FileTree) (home : Location) (p q : Path) : Bool :=
  match t.locate home p, t.locate home q with
  | .ok ⟨l, some _⟩, .ok ⟨k, some _⟩ => l == k
  | _, _ => false

/-- Copies a file to a path, or into the directory that stands there. -/
def copy (t : FileTree) (home : Location) (source target : Path) : Except FileFault FileTree :=
  let target :=
    match t.isDirectory home target with
    | .ok true => target.join ⟨.relative, [source.name].filter Path.saysSomething⟩
    | _ => target
  if t.sameFile home source target then .error .sameFile
  else
    match (t.pathFault? home source).or (t.pathFault? home target) with
    | some e => .error e
    | none =>
      match t.read home source with
      | .ok data => t.write home target data
      | .error e => .error e

/-- What is wrong with a name, whatever the files. -/
def nameFault? (name : String) : Option FileFault :=
  if !Text.isFileName name then some .noFileName
  else if name.toList.contains '\x00' then some .nullCharacter
  else none

/-- The names of a path, resolved one by one whether they are there or not. -/
def resolveNames (t : FileTree) (dir : Location) : List String → Location
  | [] => dir
  | name :: rest =>
    if name = ".." then resolveNames t dir.dropLast rest else resolveNames t (t.step dir name) rest

/-- A path without `..` and aliases, from the root. -/
def resolve (t : FileTree) (home : Location) (p : Path) : Except FileFault Path :=
  match p.names.findSome? nameFault? with
  | some e => .error e
  | none => .ok ⟨.single, t.resolveNames (if p.isAbsolute then [] else home) p.names⟩

/-- The locations below a directory, seen from there. -/
def descendants (t : FileTree) (dir : Location) : List Location :=
  t.nodes.filterMap fun e =>
    if dir.isPrefixOf e.1 && e.1.length != dir.length then some (e.1.drop dir.length) else none

/-- Where a new directory goes: the first of `base-0`, `base-1`, … that is free. -/
def freeName (t : FileTree) (dir : Location) (base : String) : String :=
  let name (n : Nat) := base ++ "-" ++ toString n
  let n := (List.range (t.nodes.length + 1)).find? fun n => (t.node? (dir ++ [name n])).isNone
  name (n.getD t.nodes.length)

/-- A location that was put into a list is found there. -/
theorem find?_putNode_self (nodes : List (Location × Node)) (l : Location) (n : Node) :
    (putNode nodes l n).find? (·.1 == l) = some (l, n) := by
  induction nodes with
  | nil => simp [putNode]
  | cons e rest ih =>
    obtain ⟨k, m⟩ := e
    by_cases h : k = l
    · simp [putNode, h]
    · simpa [putNode, h] using ih

/-- Putting a location leaves the others. -/
theorem find?_putNode_ne (nodes : List (Location × Node)) {l k : Location} (n : Node)
    (h : k ≠ l) : (putNode nodes l n).find? (·.1 == k) = nodes.find? (·.1 == k) := by
  induction nodes with
  | nil => simp [putNode, h.symm]
  | cons e rest ih =>
    obtain ⟨j, m⟩ := e
    by_cases hj : j = l
    · subst hj
      simp [putNode, h.symm]
    · by_cases hk : j = k
      · simp [putNode, hk, h]
      · simpa [putNode, hj, hk] using ih

/-- **What was put is found.** -/
theorem node?_put_self (t : FileTree) {l : Location} (n : Node) (h : l ≠ []) :
    (t.put l n).node? l = some n := by
  simp [node?, put, h, find?_putNode_self]

/-- **All else is as before.** -/
theorem node?_put_ne (t : FileTree) {l k : Location} (n : Node) (h : k ≠ l) :
    (t.put l n).node? k = t.node? k := by
  simp only [node?, put, find?_putNode_ne _ n h]

end FileTree

end ProofGrading
