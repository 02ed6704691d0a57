import ProofGrading.Proofs.NamedSettings
import ProofGrading.Proofs.Overlooking

/-!
# Proofs/GivenSources — a run that is given its module and its file

A run that is given a module and a file looks at its settings, at that file, at the support library
and at what the exporter leaves in temporary directories.  It writes its results and the support
library, and calls the build tool to build and export the module, to compile the file, and to export
what was compiled.  This is its allowance (`GradingRun.givenAllowance`), and the program keeps to it
function by function (`GradingRun.uses_gradingProgram`).  So neither the file that names the
repository nor the uploads make a difference, no other file of the project is written, and no clone
is made; and if the file is not there the document says so (`gradingProgram_given`).
-/

namespace ProofGrading

open Job (KeepsTo Uses)

/-! ## Compiling -/

namespace Machine

/-- The file that the exporter is to write in a temporary directory. -/
def exportAt (m : Machine) (n : Nat) : Path :=
  Toolchain.exportFile ⟨.single, m.scratch ++ [FileTree.numbered m.scratchName n]⟩

end Machine

namespace Toolchain

variable (t : Toolchain) {m₀ : Machine} {a : Allowance}

/-- **A compilation of a file**: the one that its path leads to. -/
def CompilesFile (m : Machine) (source : Path) (c : Call) : Prop :=
  ∃ (project object : Path) (l : Location), m.tree.IsPlace m.home source l ∧
    c = t.stepCall project "env" ["lean", "-o", object.text, Path.text ⟨.single, l⟩] none

theorem keepsTo_run {step : String} {arguments : List String} {path : Option String}
    (allowed : ∀ project : Path, a.calls (t.stepCall project step arguments path)) :
    KeepsTo m₀ a (t.run step arguments path) := by
  refine .optional (.printLine _) fun _ => (KeepsTo.resolve _).bind fun project =>
    (KeepsTo.call (allowed project)).bind fun reply => ?_
  cases reply with
  | timedOut => exact .done _
  | commandMissing => exact .done _
  | ended exit => exact .optional (.printLines _) fun _ => .done _
  | interrupted => exact .fail _
  | broken reason => exact .fail _

theorem keepsTo_searchPath (dir : Option Path) : KeepsTo m₀ a (searchPath dir) := by
  cases dir with
  | none => exact .done _
  | some dir =>
    refine .machine (fun m m' setUp => ?_) fun m _ => (KeepsTo.resolve _).bind fun _ => .done _
    rw [setUp.searchPath]

/-- Where a path leads is a place. -/
theorem isPlace_of_resolve {source file : Path} {m m' : Machine}
    (h : Job.resolve source m = (.ok file, m')) :
    ∃ l, file = ⟨.single, l⟩ ∧ m.tree.IsPlace m.home source l := by
  have resolved : m.tree.resolve m.home source = .ok file :=
    eq_ok_of_mapError (Prod.mk.inj h).1
  have shape := resolved
  unfold FileTree.resolve at shape
  split at shape
  · cases shape
  · obtain rfl := Except.ok.inj shape
    exact ⟨_, rfl, resolved⟩

theorem keepsTo_buildSubmission {source : Path} (dir : Path)
    (allowed : ∀ c, t.CompilesFile m₀ source c → a.calls c) :
    KeepsTo m₀ a (t.buildSubmission source dir) := by
  refine (KeepsTo.resolve _).bind fun object =>
    (KeepsTo.resolve _).bind_of_ok fun file m m' akin resolved =>
      t.keepsTo_run fun project => ?_
  obtain ⟨l, rfl, place⟩ := isPlace_of_resolve resolved
  exact allowed _ ⟨project, object, l, akin.isPlace_iff.1 place, rfl⟩

section

variable (readable : ∀ n, a.reads (m₀.exportAt n))
include readable

theorem keepsTo_exportedJson {home : String} {path : Option String}
    (allowed : ∀ c, t.IsExport home path c → a.calls c) :
    KeepsTo m₀ a (t.exportedJson home path) := by
  refine .withScratch fun n => .machine (fun m m' setUp => ?_) fun m _ => ?_
  · dsimp only
    rw [setUp.bundle]
  · refine (t.keepsTo_run fun project => allowed _ ⟨project, exporter m, _, rfl⟩).bind
      fun result => .ite (fun _ => .fail _) fun _ => (KeepsTo.isThere (readable n)).bind
        fun there => .ite (fun _ => .fail _) fun _ => (KeepsTo.readText (readable n)).bind
          fun text => ?_
    split
    · exact .done _
    · exact .fail _

theorem keepsTo_exportEnvironment {home : String} {dir : Option Path}
    (allowed : ∀ path c, path.isSome = dir.isSome → t.IsExport home path c → a.calls c) :
    KeepsTo m₀ a (t.exportEnvironment home dir) := by
  refine (keepsTo_searchPath dir).bind_of_ok fun path m m' _ located => ?_
  have same : path.isSome = dir.isSome := by
    cases dir with
    | none =>
      obtain rfl := Except.ok.inj (Prod.mk.inj located).1
      rfl
    | some dir =>
      obtain ⟨text, rfl⟩ := exists_of_searchPath located
      rfl
  exact (t.keepsTo_exportedJson readable fun c => allowed path c same).bind fun _ => .ofExcept _

/-- **Compiling a reference** takes the calls that build and export it. -/
theorem keepsTo_compileReference {home : String} (build : ∀ c, t.IsBuild home c → a.calls c)
    (exports : ∀ c, t.IsExport home none c → a.calls c) :
    KeepsTo m₀ a (t.compileReference home) := by
  refine (KeepsTo.printLine _).bind fun _ =>
    (t.keepsTo_run fun project => build _ ⟨project, rfl⟩).bind fun result =>
      .ite (fun _ => (KeepsTo.printLine _).bind fun _ => .fail _) fun _ =>
        (t.keepsTo_exportEnvironment readable fun path c unset => ?_).attempt.bind
          fun exported => ?_
  · obtain rfl : path = none := by simpa using unset
    exact exports c
  · split
    · exact (KeepsTo.printLine _).bind fun _ => .done _
    · exact .fail _
    · exact .fail _

/-- **Compiling an upload** takes the calls that compile and export it. -/
theorem keepsTo_compileSubmission {source : Path} (reference : Environment)
    (compiles : ∀ c, t.CompilesFile m₀ source c → a.calls c)
    (exports : ∀ path c, t.IsExport submissionModule (some path) c → a.calls c) :
    KeepsTo m₀ a (t.compileSubmission source reference) := by
  have tries : KeepsTo m₀ a (t.tryCompile source) := by
    refine .withScratch fun n => (t.keepsTo_buildSubmission _ compiles).bind fun result =>
      .ite (fun _ => .done _) fun _ =>
        (t.keepsTo_exportEnvironment readable fun path c set => ?_).attempt.bind
          fun exported => ?_
    · obtain ⟨path, rfl⟩ := Option.isSome_iff_exists.1 set
      exact exports path c
    · split
      · exact (KeepsTo.printLine _).bind fun _ => .done _
      · exact .done _
      · exact .fail _
  refine (KeepsTo.printLine _).bind fun _ => tries.bind fun compiled => ?_
  cases compiled with
  | ok env => exact .done _
  | error details => exact (KeepsTo.printLine _).bind fun _ => .done _

end

end Toolchain

/-! ## A run on given sources -/

/-- What has a name as its last one stands under that name, or a directory stands there. -/
theorem FileTree.IsSound.directory_of_last {t : FileTree} {home l : Location} {p : Path}
    {name : String} (sound : t.IsSound) (proper : name ≠ "..")
    (place : t.IsPlace home ⟨p.root, p.names ++ [name]⟩ l) (other : l.getLast? ≠ some name) :
    t.node? l = some .directory := by
  obtain rfl := place.resolveNames_eq
  rw [FileTree.resolveNames_append, FileTree.resolveNames, if_neg proper,
    FileTree.resolveNames] at other ⊢
  by_contra free
  rw [sound.step_eq free] at other
  exact other List.getLast?_concat

namespace GradingRun

/-- **What a run on a given file looks at**: its settings, the file, the support library, also as it
is bundled, and what the exporter leaves. -/
inductive GivenRead (m : Machine) (inv : Invocation) (s : Settings) (file : String) : Path → Prop
  | settings : GivenRead m inv s file (.ofString inv.settings)
  | upload : GivenRead m inv s file (.ofString file)
  | library : GivenRead m inv s file s.libraryPath
  | bundled : GivenRead m inv s file ⟨.single, m.bundle ++ [Job.supportLibrary]⟩
  | exported (n : Nat) : GivenRead m inv s file (m.exportAt n)

/-- **What it writes**: its results, and the support library, which goes into the directory of that
name if there is one. -/
inductive GivenWrite (s : Settings) : Path → Prop
  | results : GivenWrite s s.results
  | library : GivenWrite s s.libraryPath
  | inLibrary : GivenWrite s (s.libraryPath.child Job.supportLibrary)

/-- **What it calls**: the build tool, to build and to export the module, to compile the file, and
to export what was compiled. -/
inductive GivenCall (t : Toolchain) (m : Machine) (home : String) (file : Path) (c : Call) : Prop
  | build (h : t.IsBuild home c)
  | exportReference (h : t.IsExport home none c)
  | compile (h : t.CompilesFile m file c)
  | exportSubmission {path : String} (h : t.IsExport submissionModule (some path) c)

/-- A call of a run on given sources is a build, or runs a program in the environment of the
project. -/
theorem GivenCall.step {t : Toolchain} {m : Machine} {home : String} {file : Path} {c : Call}
    (h : GivenCall t m home file c) : c.mark.1 = some "build" ∨ c.mark.1 = some "env" := by
  cases h with
  | build h => exact .inl (congrArg Prod.fst h.mark)
  | exportReference h => exact .inr (congrArg Prod.fst h.mark)
  | compile h =>
    obtain ⟨project, object, l, -, rfl⟩ := h
    exact .inr rfl
  | exportSubmission h => exact .inr (congrArg Prod.fst h.mark)

/-- **No call of a run on given sources is a clone.** -/
theorem GivenCall.not_isClone {t : Toolchain} {m : Machine} {home : String} {file : Path} {c : Call}
    (h : GivenCall t m home file c) : ¬TemplateSource.IsClone c := by
  intro clone
  have step := h.step
  rw [clone.mark] at step
  exact absurd step (by decide)

/-- The allowance of a run on a given module and a given file. -/
def givenAllowance (m : Machine) (inv : Invocation) (s : Settings) (home file : String) :
    Allowance where
  reads := GivenRead m inv s file
  writes := GivenWrite s
  calls := GivenCall (toolchainOf s inv) m home (.ofString file)

variable {m₀ m : Machine} {a : Allowance} {s : Settings} {inv : Invocation} {home file : String}

theorem keepsTo_announce (verdicts : List Verdict) : KeepsTo m₀ a (announce verdicts) := by
  induction verdicts with
  | nil => exact .done ()
  | cons v rest ih =>
    unfold announce
    split
    · exact (KeepsTo.printLine _).bind fun _ => ih
    · exact (KeepsTo.done ()).bind fun _ => ih

theorem keepsTo_gradeModule (reference submission : Environment) (home : String) :
    KeepsTo m₀ a (gradeModule reference submission home) := by
  unfold gradeModule
  split
  · exact .fail _
  · exact (keepsTo_announce _).bind fun _ => .done _

theorem keepsTo_reportOn (told : List String) (results : List ExerciseResult) :
    KeepsTo m₀ a (reportOn told results) := by
  refine (KeepsTo.printLine _).bind fun _ => ?_
  split
  · exact .fail _
  · exact (KeepsTo.printLines _).bind fun _ => .done _

theorem keepsTo_gradeSubmission (t : Toolchain) {source : Path} (notes : List String)
    (readable : ∀ n, a.reads (m₀.exportAt n))
    (allowed : ∀ c, GivenCall t m₀ home source c → a.calls c) :
    KeepsTo m₀ a (gradeSubmission t home source notes) :=
  (t.keepsTo_compileReference readable (fun c h => allowed c (.build h))
    fun c h => allowed c (.exportReference h)).bind fun reference =>
      (t.keepsTo_compileSubmission readable reference (fun c h => allowed c (.compile h))
        fun _ c h => allowed c (.exportSubmission h)).bind fun compiled =>
          .optional (.printLine _) fun _ => (KeepsTo.printLine _).bind fun _ =>
            (keepsTo_gradeModule reference compiled.1 home).bind fun results =>
              keepsTo_reportOn _ results

theorem keepsTo_installSupportLibrary {project : Path}
    (readable : a.reads (project.child Job.supportLibrary))
    (bundled : a.reads ⟨.single, m₀.bundle ++ [Job.supportLibrary]⟩)
    (writable : a.writes (project.child Job.supportLibrary))
    (inside : a.writes ((project.child Job.supportLibrary).child Job.supportLibrary)) :
    KeepsTo m₀ a (Job.installSupportLibrary project) := by
  refine (KeepsTo.isThere readable).bind fun there => .ite (fun _ => .done _) fun _ =>
    .machine (fun m m' setUp => ?_) fun m akin => KeepsTo.bind (.copyFile ?_ writable ?_) fun _ =>
      (KeepsTo.printLine _).bind fun _ => .done _
  · rw [setUp.bundle]
  · rw [akin.bundle]
    exact bundled
  · have name_eq : Path.name ⟨.single, m.bundle ++ [Job.supportLibrary]⟩ = Job.supportLibrary := by
      rw [Path.name, List.getLast?_concat, Option.getD_some]
    rw [name_eq]
    exact inside

/-- A run that is given its sources takes them. -/
theorem exists_of_sources_given {found : String × Path × List String} {m' : Machine}
    (named : home ≠ "") (h : sources s (some (home, file)) m = (.ok found, m')) :
    ∃ notes, found = (home, .ofString file, notes) := by
  obtain ⟨⟨f, failed⟩, -⟩ | ⟨_, _, notes, _, same, ready, -⟩ := calls_sources h
  · cases failed
  · cases same
    cases ready with
    | given => exact ⟨notes, rfl⟩
    | fetched unnamed => exact absurd named unnamed

theorem keepsTo_sources (named : home ≠ "") (readable : a.reads (.ofString file)) :
    KeepsTo m₀ a (sources s (some (home, file))) := by
  unfold sources
  dsimp only
  rw [if_neg (mt String.isEmpty_iff.1 named)]
  exact (KeepsTo.isFile readable).bind fun there => .ite (fun _ => .fail _) fun _ => .done _

/-- **A run on given sources keeps to its allowance** up to the end of grading. -/
theorem keepsTo_gradeAndWrite (given : inv.given = some (home, file)) (named : home ≠ "") :
    KeepsTo m₀ (givenAllowance m₀ inv s home file) (gradeAndWrite s inv) := by
  have takes : KeepsTo m₀ (givenAllowance m₀ inv s home file) (sources s (some (home, file))) :=
    keepsTo_sources named GivenRead.upload
  have installs : KeepsTo m₀ (givenAllowance m₀ inv s home file)
      (Job.installSupportLibrary s.project) :=
    keepsTo_installSupportLibrary GivenRead.library GivenRead.bundled GivenWrite.library
      GivenWrite.inLibrary
  have reports : KeepsTo m₀ (givenAllowance m₀ inv s home file) (report s inv) := by
    unfold report
    rw [given]
    refine takes.bind_of_ok fun found m m' _ ended => ?_
    obtain ⟨notes, rfl⟩ := exists_of_sources_given named ended
    exact installs.bind fun _ =>
      keepsTo_gradeSubmission (toolchainOf s inv) notes GivenRead.exported fun _ => id
  have writes (text : String) : KeepsTo m₀ (givenAllowance m₀ inv s home file)
      (Job.writeText s.results text) := .writeText GivenWrite.results text
  exact reports.bind fun report => (writes report.text).bind fun _ => .printLine _

theorem keepsTo_conclude {results : Path} (writable : a.writes results)
    (ended : Except Failure Unit) : KeepsTo m₀ a (conclude results ended) := by
  cases ended with
  | ok => exact .done _
  | error f =>
    obtain ⟨said, gives_up⟩ := conclude_error results f
    rw [gives_up]
    exact (KeepsTo.printLine _).bind fun _ => (KeepsTo.writeText writable _).bind fun _ => .done _

theorem keepsTo_find {p : Path} (readable : a.reads p) : KeepsTo m₀ a (Settings.find p) := by
  have loads : KeepsTo m₀ a (Settings.load p) := by
    refine (KeepsTo.isThere readable).bind fun there => .ite (fun _ => .fail _) fun _ =>
      (KeepsTo.readBytes readable).bind fun data => ?_
    split
    · exact .ofExcept _
    · exact .fail _
  exact .ite (fun _ => (KeepsTo.isThere readable).bind fun there =>
    .ite (fun _ => loads) fun _ => .done _) fun _ => loads

/-- **The program keeps to the allowance of a run on given sources**, once it has settings. -/
theorem uses_gradingProgram {arguments : List String}
    (accepted : CommandLine.parse arguments = .ok inv) (given : inv.given = some (home, file))
    (named : home ≠ "") (settled : (Settings.find (.ofString inv.settings) m).1 = .ok s) :
    Uses (givenAllowance m inv s home file) (gradingProgram arguments) m := by
  have finds : KeepsTo m (givenAllowance m inv s home file)
      (Settings.find (.ofString inv.settings)) := keepsTo_find GivenRead.settings
  have concludes (ended : Except Failure Unit) : KeepsTo m (givenAllowance m inv s home file)
      (conclude s.results ended) := keepsTo_conclude GivenWrite.results ended
  have runs : Uses (givenAllowance m inv s home file) (run inv) m := by
    refine .bind (.attempts (finds m (.refl m))) fun found m' ended => ?_
    have found_eq := Job.attempt_eq_ok_iff.1 ended
    obtain rfl := Settings.eq_of_find found_eq
    rw [found_eq] at settled
    obtain rfl : found = .ok s := settled
    exact ((keepsTo_gradeAndWrite given named).attempt.bind concludes) m' (.refl m')
  have same : gradingProgram arguments = run inv >>= fun code => return .exited code :=
    funext (gradingProgram_eq accepted)
  rw [same]
  exact .bind runs fun code m' _ => .ends _ m'

end GradingRun

/-! ## The program -/

open GradingRun (GivenCall givenAllowance toolchainOf)

/-- **The program grades a given file with a given module.**

* It builds and exports that module and compiles that file, and calls nothing else but the export of
  what was compiled; no clone is among its calls.
* A file that is there keeps its bytes, and no other file is there in the end, but for the results
  and the support library, as far as the programs that were called leave the place alone.
* What stands at places that the run does not come by makes no difference: neither the file that
  names the repository, nor the uploads, nor the sources of the project.
* If the file is not there, no program is called, and the results say so. -/
structure GradesGiven (arguments : List String) (m : Machine) (inv : Invocation) (s : Settings)
    (home file : String) : Prop where
  calls : ∃ made, m.Makes made (gradingProgram arguments m).2 ∧
    ∀ c ∈ made, GivenCall (toolchainOf s inv) m home (.ofString file) c ∧
      ¬TemplateSource.IsClone c
  keeps : m.IsSound → ∀ l, ¬m.tree.IsPlace m.home s.results l →
    l.getLast? ≠ some Job.supportLibrary →
    (∀ made, m.Makes made (gradingProgram arguments m).2 → m.Answers (Exit.Spares m l) made) →
    ∀ data, (gradingProgram arguments m).2.tree.node? l = some (.file data) ↔
      m.tree.node? l = some (.file data)
  overlooks : ∀ (S : Location → Prop) (m₁ : Machine),
    (givenAllowance m inv s home file).PassesBy m S →
    (∀ made, m.Makes made (gradingProgram arguments m).2 → m.Answers (Exit.Overlooks m S) made) →
    m.AgreesOutside S m₁ → (gradingProgram arguments m₁).1 = (gradingProgram arguments m).1 ∧
      (gradingProgram arguments m).2.AgreesOutside S (gradingProgram arguments m₁).2
  missing : m.tree.isFile m.home (.ofString file) = .ok false → Text.holdsHalf file = false →
    m.tree.CanWrite m.home s.results →
    ∃ m', gradingProgram arguments m = (.ok (.exited 0), m') ∧ m'.calls = m.calls ∧
      m'.tree.HoldsJson m'.home s.results
        (fatalDocument ("Submission file not found: " ++ (Path.ofString file).text))

namespace GradingRun

variable {arguments : List String} {m : Machine} {s : Settings} {inv : Invocation}
  {home file : String}

/-- What is not called for the support library, and is not where the results go, is not written. -/
theorem not_isPlace_of_givenWrite {t : FileTree} {at_home l : Location} {p : Path}
    (sound : t.IsSound) (file : t.node? l ≠ some .directory)
    (aside : ¬t.IsPlace at_home s.results l) (other : l.getLast? ≠ some Job.supportLibrary)
    (written : GivenWrite s p) : ¬t.IsPlace at_home p l := by
  have child (p : Path) : p.child Job.supportLibrary = ⟨p.root, p.names ++ [Job.supportLibrary]⟩ :=
    Path.child_of_plain (by decide) p
  have named (p : Path) : ¬t.IsPlace at_home (p.child Job.supportLibrary) l := fun place =>
    file (sound.directory_of_last (by decide) (child p ▸ place) other)
  cases written with
  | results => exact aside
  | library => exact named s.project
  | inLibrary => exact named s.libraryPath

/-- A file that is not there is told. -/
theorem tells_missing (accepted : CommandLine.parse arguments = .ok inv)
    (given : inv.given = some (home, file)) (named : home ≠ "")
    (found : Settings.find (.ofString inv.settings) m = (.ok s, m))
    (absent : m.tree.isFile m.home (.ofString file) = .ok false)
    (whole : Text.holdsHalf file = false) (writable : m.tree.CanWrite m.home s.results) :
    ∃ m', gradingProgram arguments m = (.ok (.exited 0), m') ∧ m'.calls = m.calls ∧
      m'.tree.HoldsJson m'.home s.results
        (fatalDocument ("Submission file not found: " ++ (Path.ofString file).text)) := by
  have some_name : home.isEmpty = false := by simpa using named
  have reported := report_of_missing (s := s) given some_name absent
  have concludes : Concludes inv m _ m := .failed found reported
  have told : Text.holdsHalf ("Submission file not found: " ++ (Path.ofString file).text) = false :=
    (Text.holdsHalf_ofList_append (Text.plain_of_all (by decide)) _).trans
      (Path.holdsHalf_text_ofString whole)
  have writes : ¬(Conclusion.failed s (.submission
      ("Submission file not found: " ++ (Path.ofString file).text))).IsUnwritable := by
    rintro ⟨reason, same, half⟩
    cases same
    exact Bool.false_ne_true (told.symm.trans half)
  obtain ⟨m', data, ended, bytes, read⟩ := concludes.gradingProgram_ok accepted writable writes
  have holds := FileTree.holdsJson_of_read (isReadable_fatalDocument told) bytes read
  rw [reread_fatalDocument] at holds
  have quiet := calls_gradingProgram accepted found
  rw [ended, gradeAndWrite, Job.bind_error reported] at quiet
  exact ⟨m', ended, quiet, holds⟩

end GradingRun

/-- **Given a module and a file, the program grades that file**, if the module's name is not empty
and there are settings. -/
theorem gradingProgram_given {arguments : List String} {m : Machine} {inv : Invocation}
    {s : Settings} {home file : String} (accepted : CommandLine.parse arguments = .ok inv)
    (given : inv.given = some (home, file)) (named : home ≠ "")
    (settled : (Settings.find (.ofString inv.settings) m).1 = .ok s) :
    GradesGiven arguments m inv s home file := by
  have uses := GradingRun.uses_gradingProgram accepted given named settled
  refine ⟨?_, fun sound l aside other spares data => ?_, fun S m₁ by_them programs agree => ?_,
    fun absent whole writable => ?_⟩
  · obtain ⟨made, makes, allowed⟩ := uses.makes
    exact ⟨made, makes, fun c among => ⟨allowed c among, (allowed c among).not_isClone⟩⟩
  · by_cases directory : m.tree.node? l = some .directory
    · have grows := (GradingRun.extends_gradingProgram arguments sound).grows
      rw [directory, grows.directory l directory]
    · exact uses.keeps sound (fun p => GradingRun.not_isPlace_of_givenWrite sound.tree directory
        aside other) spares data
  · exact uses.overlooks (.refl m) by_them programs agree
  · have found : Settings.find (.ofString inv.settings) m = (.ok s, m) :=
      Prod.ext settled (Settings.eq_of_find rfl)
    exact GradingRun.tells_missing accepted given named found absent whole writable

namespace pinnedLibrary

/-- A run on the upload of that machine. -/
def onUpload : Invocation := { given := some ("Sheet", "hw.lean") }

/-- The programs of that machine leave nothing. -/
theorem answers {P : Call → Exit → Prop} (nothing : ∀ c, P c { code := 1 }) (made : List Call) :
    (pinnedLibrary none).Answers P made := by
  intro i c exit _ replied
  cases i with
  | zero =>
    cases replied
    exact nothing c
  | succ i => cases replied

/-- A run on that machine does not come by a file that names a repository. -/
theorem passesBy_provisioning : (givenAllowance (pinnedLibrary none) onUpload {} "Sheet"
    "hw.lean").PassesBy (pinnedLibrary none) ("autograder_config.json" ∈ ·) := by
  have temporary (n : Nat) : "autograder_config.json" ∉
      (pinnedLibrary none).scratch ++ [FileTree.numbered "grading" n] := by
    have first : (FileTree.numbered "grading" n).toList.head? = some 'g' := by
      simp [FileTree.numbered]
    rw [List.mem_append, List.mem_singleton]
    rintro (there | same)
    · exact absurd there (by decide)
    · exact absurd (same ▸ first) (by decide)
  refine ⟨fun p readable => FileTree.passesBy_of_name rfl (by decide) ?_,
    fun p writable => FileTree.passesBy_of_name rfl (by decide) ?_, temporary⟩
  · cases readable with
    | exported n =>
      rw [Machine.exportAt, Toolchain.exportFile, Path.child_of_plain (by decide),
        List.mem_append, List.mem_singleton]
      exact not_or.2 ⟨temporary n, by decide⟩
    | _ => decide +kernel
  · cases writable <;> decide +kernel

end pinnedLibrary

/-- A run on an upload of a machine calls one program, keeps the upload, and ends the same with a
file that names a repository; one on a file that is not there says so. -/
theorem gradingProgram_given_pinned :
    (∃ c, (gradingProgram ["Sheet", "hw.lean"] (pinnedLibrary none)).2.calls = [c] ∧
      GivenCall (toolchainOf {} pinnedLibrary.onUpload) (pinnedLibrary none) "Sheet"
        (.ofString "hw.lean") c) ∧
    (gradingProgram ["Sheet", "hw.lean"] (pinnedLibrary none)).2.tree.node? ["work", "hw.lean"] =
      some (.file (Content.bytes "-- hw")) ∧
    (∀ data, (gradingProgram ["Sheet", "hw.lean"] { pinnedLibrary none with
        tree := (pinnedLibrary none).tree.put ["work", "autograder_config.json"] (.file data) }).1 =
      (gradingProgram ["Sheet", "hw.lean"] (pinnedLibrary none)).1) ∧
    ∃ m', gradingProgram ["Sheet", "missing.lean"] sampleMachine = (.ok (.exited 0), m') ∧
      m'.calls = [] ∧ m'.tree.HoldsJson m'.home ({} : Settings).results
        (fatalDocument "Submission file not found: missing.lean") := by
  have accepted := CommandLine.parse_names (a := "Sheet") (b := "hw.lean") (by decide) (by decide)
  have unsettled : (pinnedLibrary none).tree.isThere ["work"] Settings.standardFile =
      .ok false := by
    decide +kernel
  have given := gradingProgram_given accepted rfl (by decide)
    (congrArg Prod.fst (Settings.find_standardFile unsettled))
  refine ⟨?_, ?_, fun data => ?_, ?_⟩
  · obtain ⟨made, makes, allowed⟩ := given.calls
    have one : (gradingProgram ["Sheet", "hw.lean"] (pinnedLibrary none)).2.calls.length = 1 := by
      decide +kernel
    rw [makes.calls] at one ⊢
    obtain ⟨c, rfl⟩ := List.length_eq_one_iff.1 one
    exact ⟨c, rfl, (allowed c (List.mem_singleton_self c)).1⟩
  · have aside : ¬(pinnedLibrary none).tree.IsPlace ["work"] ({} : Settings).results
        ["work", "hw.lean"] := by
      unfold FileTree.IsPlace
      decide +kernel
    exact (given.keeps (pinnedLibrary.isSound none) _ aside (by decide) (fun made _ =>
      pinnedLibrary.answers (fun _ => Exit.spares_of_nothing rfl rfl) made) _).2 rfl
  · have agree := (pinnedLibrary none).agreesOutside_put (S := ("autograder_config.json" ∈ ·))
      (l := ["work", "autograder_config.json"]) (by decide) (.file data)
    exact (given.overlooks _ _ pinnedLibrary.passesBy_provisioning (fun made _ =>
      pinnedLibrary.answers (fun _ => Exit.overlooks_of_nothing rfl rfl) made) agree).1
  · have accepted := CommandLine.parse_names (a := "Sheet") (b := "missing.lean") (by decide)
      (by decide)
    have standard : IsPlainName "grader_config.yml" := by decide +kernel
    have plain : IsPlainName "missing.lean" := by decide +kernel
    have unsettled : sampleMachine.tree.isThere ["work"] Settings.standardFile = .ok false := by
      rw [Settings.standardFile, FileTree.isThere, FileTree.asks,
        sampleMachine.locate_name standard]
    have absent : sampleMachine.tree.isFile ["work"] (.ofString "missing.lean") = .ok false := by
      rw [FileTree.isFile, FileTree.asks, sampleMachine.locate_name plain]
    have given := gradingProgram_given accepted rfl (by decide)
      (congrArg Prod.fst (Settings.find_standardFile unsettled))
    have told : "Submission file not found: " ++ (Path.ofString "missing.lean").text =
        "Submission file not found: missing.lean" := by
      rw [plain.1, Path.text_name]
      decide +kernel
    exact told ▸ given.missing absent (by decide +kernel) sampleMachine.canWrite_results

/-- **A module without a name counts as none**: the program clones a repository, though it is given
a file that is not there. -/
theorem gradingProgram_given_unnamed :
    CommandLine.parse ["", "missing.lean"] = .ok { given := some ("", "missing.lean") } ∧
      withSource.tree.isFile withSource.home (.ofString "missing.lean") = .ok false ∧
      ∃ c ∈ (gradingProgram ["", "missing.lean"] withSource).2.calls, TemplateSource.IsClone c := by
  have accepted := CommandLine.parse_names (a := "") (b := "missing.lean") (by decide) (by decide)
  refine ⟨accepted, by decide +kernel, ?_⟩
  let source : TemplateSource := ⟨"course/sheets", "Sheet.lean"⟩
  let dir : Path := ⟨.single, ["tmp", "grading-0"]⟩
  have calls : (gradingProgram ["", "missing.lean"] withSource).2.calls =
      [source.cloneCall dir TemplateSource.cloneTimeout] := by
    have absent : withSource.tree.isThere ["work"] Settings.standardFile = .ok false := by
      decide +kernel
    rw [GradingRun.calls_gradingProgram accepted (Settings.find_standardFile absent)]
    decide +kernel
  rw [calls]
  exact ⟨_, List.mem_singleton_self _, source, dir, _, rfl⟩

end ProofGrading
