import ProofGrading.Failure
import ProofGrading.Text.Lines

/-!
# Host/Machine — what a job works on

A machine holds the files, the replies that external programs are going to give, the calls made so
far and what was printed.  A `Job` reads and changes a machine and ends with a value or a failure;
what it did before it failed stays done (`Job.bind_error`).

What is printed goes to a `Console`, which may refuse a text; then the job fails.  The lenient
console takes every text, and where a statement names no console it is about that one.
-/

namespace ProofGrading

/-- What a program writes to a file: a text, or any bytes. -/
inductive Content where
  | text (s : String)
  | raw (data : ByteArray)

/-- The bytes that are written. -/
def Content.bytes : Content → ByteArray
  | text s => (Text.bytes? s).getD .empty
  | raw data => data

instance : Coe String Content := ⟨.text⟩

/-- How a program that ended left things: its exit code, its output, what it wrote to the file that
the last argument names, and files, or directories, for the directory that it names. -/
structure Exit where
  code : Int := 0
  out : String := ""
  err : String := ""
  artifact : Option Content := none
  checkout : List (String × Option Content) := []

/-- What becomes of one call of an external program. -/
inductive Reply where
  | ended (exit : Exit)
  | timedOut
  | commandMissing
  | interrupted
  | broken (reason : String)

/-- One call of an external program; a directory and a search path only if they were set for it. -/
structure Call where
  command : List String
  timeout : Int
  directory : Option String := none
  searchPath : Option String := none
  deriving DecidableEq, Repr

/-- Files, replies to come, calls made, text printed; and the fixed places of the machine. -/
structure Machine where
  home : Location
  scratch : Location
  scratchName : String
  bundle : Location
  searchPath : Option String := none
  tree : FileTree
  replies : List Reply := []
  calls : List Call := []
  printed : String := ""

/-- **What is printed goes to a console**, which takes a text or refuses it. -/
class Console where
  takes : String → Bool

/-- The console that takes every text. -/
instance Console.lenient : Console where
  takes _ := true

/-- The console that encodes what it shows: it refuses a text that holds half of a pair. -/
@[reducible] def Console.strict : Console where
  takes text := !Text.holdsHalf text

/-- A computation on a machine. -/
def Job (α : Type) : Type := Machine → Except Failure α × Machine

namespace Job

variable {α β : Type}

/-- Ends with a value. -/
def done (a : α) : Job α := fun m => (.ok a, m)

/-- Goes on with the value of a job. -/
def andThen (job : Job α) (next : α → Job β) : Job β := fun m =>
  match job m with
  | (.ok a, m) => next a m
  | (.error e, m) => (.error e, m)

instance : Monad Job where
  pure := done
  bind := andThen

/-- Ends with a failure. -/
def fail (e : Failure) : Job α := fun m => (.error e, m)

/-- Ends with a result. -/
def ofExcept (r : Except Failure α) : Job α := fun m => (r, m)

/-- The result of a job as a value: the failure is caught, its effects stay. -/
def attempt (job : Job α) : Job (Except Failure α) := fun m =>
  match job m with
  | (r, m) => (.ok r, m)

/-- The machine. -/
def machine : Job Machine := fun m => (.ok m, m)

/-- Changes the machine. -/
def modify (f : Machine → Machine) : Job Unit := fun m => (.ok (), f m)

theorem pure_apply (a : α) (m : Machine) : (pure a : Job α) m = (.ok a, m) := rfl

/-- A job that ended is followed by the next. -/
theorem bind_ok {job : Job α} {m m' : Machine} {a : α} (h : job m = (.ok a, m'))
    (next : α → Job β) : (job >>= next) m = next a m' := by
  show andThen job next m = _
  simp [andThen, h]

/-- **A failure ends the job and keeps its effects.** -/
theorem bind_error {job : Job α} {m m' : Machine} {e : Failure} (h : job m = (.error e, m'))
    (next : α → Job β) : (job >>= next) m = (.error e, m') := by
  show andThen job next m = _
  simp [andThen, h]

/-! ## Printing -/

/-- Prints a text, unless the console refuses it; of a text that is refused nothing is printed. -/
def print [Console] (text : String) : Job Unit := fun m =>
  if Console.takes text then (.ok (), { m with printed := m.printed ++ text })
  else (.error .unprintable, m)

/-- Prints a line. -/
def printLine [Console] (line : String) : Job Unit := print (line ++ "\n")

/-- Prints lines. -/
def printLines [Console] : List String → Job Unit
  | [] => done ()
  | line :: rest => do
    printLine line
    printLines rest

/-! ## Files -/

/-- Looks at the files. -/
def look (f : FileTree → Location → Except FileFault α) : Job α := fun m =>
  ((f m.tree m.home).mapError .files, m)

/-- Changes the files. -/
def change (f : FileTree → Location → Except FileFault FileTree) : Job Unit := fun m =>
  match f m.tree m.home with
  | .ok tree => (.ok (), { m with tree })
  | .error e => (.error (.files e), m)

/-- Whether a path leads to something. -/
def isThere (p : Path) : Job Bool := look fun t home => t.isThere home p

/-- Whether a path leads to a file. -/
def isFile (p : Path) : Job Bool := look fun t home => t.isFile home p

/-- Whether a path leads to a directory. -/
def isDirectory (p : Path) : Job Bool := look fun t home => t.isDirectory home p

/-- A path without `..` and aliases, from the root. -/
def resolve (p : Path) : Job Path := look fun t home => t.resolve home p

/-- Makes a directory and what it stands in, unless they are there. -/
def makeDirectories (p : Path) : Job Unit := fun m =>
  match m.tree.makeDirectories m.home p with
  | (tree, none) => (.ok (), { m with tree })
  | (tree, some e) => (.error (.files e), { m with tree })

/-- The bytes of a file. -/
def readBytes (p : Path) : Job ByteArray := look fun t home => t.read home p

/-- The text of a file, every line break being `\n`. -/
def readText (p : Path) : Job (List Char) := do
  let data ← readBytes p
  match String.fromUTF8? data with
  | some s => done (Text.unifyBreaks s.toList)
  | none => fail .badText

/-- Writes a text to a file, after making its directory; a text without bytes is refused first. -/
def writeText (p : Path) (text : String) : Job Unit :=
  match Text.bytes? text with
  | none => fail .unwritable
  | some data => do
    makeDirectories p.parent
    change fun t home => t.write home p data

/-- Copies a file to a path, after making its directory. -/
def copyFile (source target : Path) : Job Unit := do
  makeDirectories target.parent
  change fun t home => t.copy home source target

/-! ## Temporary directories -/

/-- Makes a temporary directory. -/
def makeScratch : Job Path := fun m =>
  let l := m.scratch ++ [m.tree.freeName m.scratch m.scratchName]
  (.ok ⟨.single, l⟩, { m with tree := m.tree.put l .directory })

/-- Works in a temporary directory, which is removed however the work ends. -/
def withScratch (work : Path → Job α) : Job α := do
  let dir ← makeScratch
  let r ← attempt (work dir)
  modify fun m => { m with tree := m.tree.prune dir.names }
  ofExcept r

/-! ## External programs -/

/-- Puts one entry of a checkout into a directory: a file, or a directory. -/
def placeEntry (home : Location) (dir : Path) (t : FileTree) (entry : String × Option Content) :
    FileTree :=
  let p := dir.child entry.1
  match entry.2 with
  | some content =>
    let t := (t.makeDirectories home p.parent).1
    match t.write home p content.bytes with
    | .ok t => t
    | .error _ => t
  | none => (t.makeDirectories home p).1

/-- What a program that ended leaves behind: its files. -/
def leaveFiles (home : Location) (call : Call) (exit : Exit) (t : FileTree) : FileTree :=
  let last := Path.ofString (call.command.getLast?.getD "")
  let t := match exit.artifact with
    | some content =>
      match t.write home last content.bytes with
      | .ok t => t
      | .error _ => t
    | none => t
  exit.checkout.foldl (placeEntry home last) t

/-- The next reply, and those after it; without one a program ends at once. -/
def nextReply : List Reply → Reply × List Reply
  | [] => (.ended {}, [])
  | r :: rest => (r, rest)

/-- Makes a call and takes the next reply. -/
def call (c : Call) : Job Reply := fun m =>
  let (reply, replies) := nextReply m.replies
  let m := { m with calls := m.calls ++ [c], replies }
  match reply with
  | .ended exit => (.ok reply, { m with tree := leaveFiles m.home c exit m.tree })
  | .interrupted => (.error .interrupted, m)
  | .broken reason => (.error (.broken reason), m)
  | .timedOut | .commandMissing => (.ok reply, m)

end Job

end ProofGrading
