import ProofGrading.Proofs.CallOrder
import ProofGrading.Proofs.Outputs
import ProofGrading.Proofs.SideBySide

/-!
# Proofs/Verbosity — telling more changes nothing else

A run that is asked to tell more follows one that is not: the only steps that look at the flag
print.  Whether it prints at all is a matter of the console, and a run that is refused a line fails
there.  Main statement: with the flag added a run makes the same calls, ends alike and leaves the
same files, on every console that takes the lines that are added (`gradingProgram_verbose`); on one
that refuses such a line, or with the flag there already under a shorter name, it need not
(`gradingProgram_verbose_refused`).
-/

namespace ProofGrading

open Job
open Machine (lasting_quiet)

/-! ## What telling more adds -/

/-- The lines that are shown of what a call of the build tool left. -/
def Reply.shownLog : Reply → List String
  | .ended exit => Toolchain.shownLog (exit.out ++ "\n" ++ exit.err)
  | _ => []

/-- **The console takes what telling more adds for a call and its reply**: the command and the log
of a call of the build tool, which is made in a directory. -/
def Call.IsShown [Console] (c : Call) (reply : Reply) : Prop :=
  c.directory.isSome = true → ∀ line ∈ Toolchain.shownCommand c.command :: reply.shownLog,
    Console.takes (line ++ "\n") = true

/-- **Settings leave a run brief**, unless its arguments ask to tell more. -/
def Invocation.IsBrief (inv : Invocation) (m : Machine) : Prop :=
  ∃ s m₁, Settings.find (.ofString inv.settings) m = (.ok s, m₁) ∧ s.verbose = false

/-- A file can only be copied to a path that leads somewhere. -/
theorem Job.exists_locate_of_copyFile {source target : Path} {m m' : Machine}
    (copied : copyFile source target m = (.ok (), m')) :
    ∃ (t : FileTree) (home l : Location) (n : Option Node),
      t.locate home target = .ok ⟨l, n⟩ := by
  obtain ⟨_, m₁, -, copied⟩ := bind_eq_ok_iff.1 copied
  unfold change at copied
  split at copied
  · next tree copied_tree =>
    obtain ⟨q, data, -, written, rfl | ⟨⟨dir, directory⟩, -⟩⟩ := FileTree.exists_of_copy copied_tree
    · obtain ⟨l, n, located, -⟩ := FileTree.exists_of_write written
      exact ⟨_, _, l, n, located⟩
    · exact ⟨_, _, dir, _, directory⟩
  · cases copied

/-- A support library can only be put into a project whose path has names that files can have. -/
theorem Job.possible_of_installed [Console] {project library : Path} {m m' : Machine}
    (installed : installSupportLibrary project m = (.ok library, m')) :
    project.names.findSome? FileTree.nameFault? = none := by
  have names : (project.child supportLibrary).names = project.names ++ [supportLibrary] := by
    have plain : Path.ofString supportLibrary = ⟨.relative, [supportLibrary]⟩ := by decide
    rw [Path.child, plain, Path.names_join _ rfl]
  obtain ⟨t, home, l, n, located⟩ : ∃ (t : FileTree) (home l : Location) (n : Option Node),
      t.locate home (project.child supportLibrary) = .ok ⟨l, n⟩ := by
    obtain ⟨there, m₁, asked, installed⟩ := bind_eq_ok_iff.1 installed
    cases there with
    | true =>
      obtain ⟨l, node, located⟩ :=
        FileTree.exists_locate_of_isThere (eq_ok_of_mapError (Prod.mk.inj asked).1)
      exact ⟨_, _, l, _, located⟩
    | false =>
      obtain ⟨_, _, -, installed⟩ := bind_eq_ok_iff.1 installed
      obtain ⟨_, _, copied, -⟩ := bind_eq_ok_iff.1 installed
      exact exists_locate_of_copyFile copied
  have possible := FileTree.possible_of_locate located
  rw [names, List.findSome?_append, Option.or_eq_none_iff] at possible
  exact possible.1

/-! ## The toolchain -/

namespace Toolchain

variable {t : Toolchain} {P : Call → Reply → Prop} {m : Machine}

theorem follows_searchPath (dir : Option Path) :
    Follows P (searchPath dir) (searchPath dir) m := by
  cases dir with
  | none => exact .done _
  | some dir =>
    exact .machine (fun _ => rfl) ((Follows.look _).bind fun _ _ _ => .done _)

variable [Console]

/-- **A toolchain may tell more** where its calls are answered as a condition asks: the console then
takes what is added, and the project can be resolved. -/
structure MayTell (t : Toolchain) (P : Call → Reply → Prop) : Prop where
  possible : t.project.names.findSome? FileTree.nameFault? = none
  shown : t.verbose = false → ∀ c reply, P c reply → c.IsShown reply

/-- **A call of the build tool** goes alike, told or not. -/
theorem follows_run (may : t.MayTell P) (step : String) (arguments : List String)
    (path : Option String) : Follows P (t.run step arguments path)
      ({ t with verbose := true }.run step arguments path) m := by
  unfold run
  refine .announced (fun _ => rfl) may.possible (fun brief dir reply answered => ?_)
    (fun reply => ?_) fun dir reply m₁ answered => ?_
  · exact may.shown (by simpa using brief) _ _ answered rfl _ (List.mem_cons_self ..)
  · cases reply with
    | ended exit =>
      exact .optional lasting_quiet (reads_printLines _).quiet fun _ => .done lasting_quiet _
    | timedOut => exact .done lasting_quiet _
    | commandMissing => exact .done lasting_quiet _
    | interrupted => exact .fail lasting_quiet _
    | broken reason => exact .fail lasting_quiet _
  · cases reply with
    | ended exit =>
      refine .optional (fun _ => rfl) (.printLines _) (fun brief _ _ _ => ?_) fun _ => .done _
      exact tells_printLines fun line among =>
        may.shown (by simpa using brief) _ _ answered rfl line (List.mem_cons_of_mem _ among)
    | timedOut => exact .done _
    | commandMissing => exact .done _
    | interrupted => exact .fail _
    | broken reason => exact .fail _

theorem follows_buildSubmission (may : t.MayTell P) (source output : Path) :
    Follows P (t.buildSubmission source output)
      ({ t with verbose := true }.buildSubmission source output) m :=
  (Follows.look _).bind fun _ _ _ => (Follows.look _).bind fun _ _ _ => follows_run may _ _ _

theorem follows_exportedJson (may : t.MayTell P) (home : String) (path : Option String) :
    Follows P (t.exportedJson home path) ({ t with verbose := true }.exportedJson home path) m := by
  refine .withScratch fun dir m₁ _ => .machine (fun _ => rfl) ?_
  refine (follows_run may _ _ _).bind fun result m₂ _ => .ite (fun _ => .fail _) fun _ => ?_
  refine (Follows.look _).bind fun _ m₃ _ => .ite (fun _ => .fail _) fun _ => ?_
  refine (Follows.readText _).bind fun text m₄ _ => ?_
  split
  · exact .done _
  · exact .fail _

theorem follows_exportEnvironment (may : t.MayTell P) (home : String) (dir : Option Path) :
    Follows P (t.exportEnvironment home dir)
      ({ t with verbose := true }.exportEnvironment home dir) m :=
  (follows_searchPath dir).bind fun path _ _ =>
    (follows_exportedJson may home path).bind fun _ _ _ => .ofExcept _

theorem follows_compileReference (may : t.MayTell P) (home : String) :
    Follows P (t.compileReference home) ({ t with verbose := true }.compileReference home) m := by
  refine (Follows.printLine _).bind fun _ m₁ _ => (follows_run may _ _ _).bind fun result m₂ _ => ?_
  refine .ite (fun _ => (Follows.printLine _).bind fun _ _ _ => .fail _) fun _ => ?_
  refine (follows_exportEnvironment may home none).attempt.bind fun exported m₃ _ => ?_
  split
  · exact (Follows.printLine _).bind fun _ _ _ => .done _
  · exact .fail _
  · exact .fail _

theorem follows_tryCompile (may : t.MayTell P) (source : Path) :
    Follows P (t.tryCompile source) ({ t with verbose := true }.tryCompile source) m := by
  refine .withScratch fun dir m₁ _ => (follows_buildSubmission may source dir).bind
    fun result m₂ _ => .ite (fun _ => .done _) fun _ => ?_
  refine (follows_exportEnvironment may _ _).attempt.bind fun exported m₃ _ => ?_
  split
  · exact (Follows.printLine _).bind fun _ _ _ => .done _
  · exact .done _
  · exact .fail _

theorem follows_compileSubmission (may : t.MayTell P) (source : Path) (reference : Environment) :
    Follows P (t.compileSubmission source reference)
      ({ t with verbose := true }.compileSubmission source reference) m := by
  refine (Follows.printLine _).bind fun _ m₁ _ => ?_
  refine (follows_tryCompile may source).bind fun ended m₂ _ => ?_
  cases ended with
  | ok env => exact .done _
  | error details => exact (Follows.printLine _).bind fun _ _ _ => .done _

end Toolchain

/-! ## A run -/

namespace GradingRun

variable {P : Call → Reply → Prop} {m : Machine}

theorem follows_find (p : Path) : Follows P (Settings.find p) (Settings.find p) m := by
  have loaded : ∀ m₁, Follows P (Settings.load p) (Settings.load p) m₁ := by
    refine fun m₁ => (Follows.look _).bind fun _ m₂ _ => .ite (fun _ => .fail _) fun _ => ?_
    refine (Follows.look _).bind fun data m₃ _ => ?_
    split
    · exact .ofExcept _
    · exact .fail _
  exact .ite (fun _ => (Follows.look _).bind fun _ m₁ _ =>
    .ite (fun _ => loaded m₁) fun _ => .done _) fun _ => loaded m

variable [Console]

theorem follows_announce (verdicts : List Verdict) :
    Follows P (announce verdicts) (announce verdicts) m := by
  induction verdicts generalizing m with
  | nil => exact .done ()
  | cons v rest ih =>
    unfold announce
    split
    · exact (Follows.printLine _).bind fun _ _ _ => ih
    · exact Follows.bind (.done ()) fun _ _ _ => ih

theorem follows_gradeModule (reference submission : Environment) (home : String) :
    Follows P (gradeModule reference submission home) (gradeModule reference submission home)
      m := by
  unfold gradeModule
  split
  · exact .fail _
  · exact (follows_announce _).bind fun _ _ _ => .done _

theorem follows_reportOn (told : List String) (results : List ExerciseResult) :
    Follows P (reportOn told results) (reportOn told results) m := by
  refine (Follows.printLine _).bind fun _ m₁ _ => ?_
  split
  · exact .fail _
  · exact (Follows.printLines _).bind fun _ _ _ => .done _

theorem follows_gradeSubmission {t : Toolchain} (may : t.MayTell P) (home : String)
    (submission : Path) (notes : List String) :
    Follows P (gradeSubmission t home submission notes)
      (gradeSubmission { t with verbose := true } home submission notes) m := by
  refine (Toolchain.follows_compileReference may home).bind fun reference m₁ _ =>
    (Toolchain.follows_compileSubmission may submission reference).bind
      fun (env, warning) m₂ _ => ?_
  have graded : ∀ told m₃, Follows P
      (Job.printLine s!"Grading {home}..." >>= fun _ =>
        gradeModule reference env home >>= reportOn told)
      (Job.printLine s!"Grading {home}..." >>= fun _ =>
        gradeModule reference env home >>= reportOn told) m₃ := fun told m₃ =>
    (Follows.printLine _).bind fun _ _ _ => (follows_gradeModule reference env home).bind
      fun results _ _ => follows_reportOn told results
  exact .ite (fun _ => (Follows.printLine _).bind fun _ m₃ _ => graded _ m₃) fun _ => graded _ m₂

theorem follows_sources (s : Settings) (given : Option (String × String)) :
    Follows P (sources s given) (sources s given) m := by
  have fetched := (Follows.loadTemplateSource (P := P) (m := m) s.provisioning).bind
    fun template _ _ => (Follows.fetchTemplate template (s.project.ofModule s.reference)
      TemplateSource.cloneTimeout).bind fun _ _ _ =>
    (Follows.selectSubmission s.submissions).bind fun selection _ _ =>
    (Follows.printLine s!"Selected submission {selection.path.text}").bind fun _ _ _ =>
    (Follows.placeSubmission selection.path
      (s.project.child (submissionModule ++ leanSuffix))).bind fun placed _ _ =>
    Follows.done (s.reference, placed, [selection.warning])
  unfold sources
  dsimp only
  split
  · exact fetched
  · exact .ite (fun _ => fetched) fun _ => (Follows.look _).bind fun _ _ _ =>
      .ite (fun _ => .fail _) fun _ => .done _

variable {s : Settings} {inv : Invocation} (brief : inv.verbose = false)
  (shown : s.verbose = false → ∀ c reply, P c reply → c.IsShown reply)

include brief shown

theorem follows_report :
    Follows P (report s inv) (report s { inv with verbose := true }) m := by
  refine (follows_sources s inv.given).bind fun (home, submission, notes) m₁ _ =>
    (Follows.installSupportLibrary s.project).bind fun library m₂ installed => ?_
  have may : (toolchainOf s inv).MayTell P :=
    ⟨possible_of_installed installed, by simpa [toolchainOf, brief] using shown⟩
  have follows := follows_gradeSubmission (m := m₂) may home submission notes
  dsimp only
  rw [Bool.or_true]
  exact follows

theorem follows_gradeAndWrite :
    Follows P (gradeAndWrite s inv) (gradeAndWrite s { inv with verbose := true }) m :=
  (follows_report brief shown).bind fun report _ _ =>
    (Follows.writeText s.results report.text).bind fun _ _ _ => .printLine _

omit brief shown

theorem follows_giveUp (results : Path) (told reason : String) (code : Nat) :
    Follows P (giveUp results told reason code) (giveUp results told reason code) m :=
  (Follows.printLine _).bind fun _ _ _ => (Follows.writeText _ _).bind fun _ _ _ => .done code

theorem follows_conclude (results : Path) (ended : Except Failure Unit) :
    Follows P (conclude results ended) (conclude results ended) m := by
  unfold conclude
  split
  · exact .done 0
  · exact follows_giveUp _ _ _ _
  · split
    · exact follows_giveUp _ _ _ _
    · exact follows_giveUp _ _ _ _

/-- **A run goes alike, told or not**, if the console takes what is added where settings leave it
brief. -/
theorem follows_run (brief : inv.verbose = false)
    (shown : inv.IsBrief m → ∀ c reply, P c reply → c.IsShown reply) :
    Follows P (run inv) (run { inv with verbose := true }) m := by
  refine (follows_find _).attempt.bind fun found m₁ settled => ?_
  split
  · exact .fail _
  · exact follows_giveUp _ _ _ _
  · next s =>
    have settled := attempt_eq_ok_iff.1 settled
    exact (follows_gradeAndWrite brief fun leaves => shown ⟨s, m₁, settled, leaves⟩).attempt.bind
      fun ended _ _ => follows_conclude s.results ended

end GradingRun

/-! ## The flag -/

namespace CommandLine

/-- The flag in front of some arguments is one more part. -/
theorem parts_verbose (arguments : List String) : parts specs ("--verbose" :: arguments) =
    (parts specs arguments).map (.option "--verbose" none :: ·) := by
  have split : splitValue "--verbose" = ("--verbose", none) := by decide
  have meant : candidates specs "--verbose" = [⟨"--verbose", false⟩] := by decide
  have read : longOption specs "--verbose" = .complete (.option "--verbose" none) := by
    rw [longOption, split]
    dsimp only
    rw [meant]
    rfl
  have single : ("--verbose" == "--") = false := by decide
  have long : "--".toList.isPrefixOf "--verbose".toList = true := by decide
  rw [parts, single, long, read]
  rfl

/-- **The flag asks to tell more and for nothing else**, unless it is there already. -/
theorem parse_verbose {arguments : List String}
    (brief : ∀ inv, parse arguments = .ok inv → inv.verbose = false) :
    parse ("--verbose" :: arguments) =
      (parse arguments).map fun inv => { inv with verbose := true } := by
  unfold parse at brief ⊢
  rw [parts_verbose]
  cases read : parts specs arguments with
  | error reason => rfl
  | ok ps =>
    rw [read] at brief
    have config : valuesOf (.option "--verbose" none :: ps) "--config" = valuesOf ps "--config" :=
      rfl
    have help : valuesOf (.option "--verbose" none :: ps) "--help" = valuesOf ps "--help" := rfl
    have verbose : valuesOf (.option "--verbose" none :: ps) "--verbose" =
        none :: valuesOf ps "--verbose" := rfl
    have known : (Part.option "--verbose" none :: ps).all isKnown = ps.all isKnown := by
      have : isKnown (.option "--verbose" none) = true := by decide
      rw [List.all_cons, this, Bool.true_and]
    have names : namesOf (.option "--verbose" none :: ps) = namesOf ps := rfl
    dsimp only [Except.map] at brief ⊢
    rw [config, help, verbose, known, names]
    cases asked : valuesOf ps "--verbose" with
    | nil =>
      -- one flag is allowed, and there was none
      simp only [List.length_nil, List.length_singleton, Nat.not_lt_zero, Nat.lt_irrefl,
        List.isEmpty_nil, List.isEmpty_cons]
      split
      · rfl
      · split
        · rfl
        · cases givenOf (namesOf ps) <;> rfl
    | cons value rest =>
      -- a second flag is refused, and the first one did not come from accepted arguments
      rw [asked] at brief
      have twice : 1 < (none :: value :: rest).length := by simp
      simp only [twice, decide_true, Bool.or_true, Bool.true_or, if_true]
      generalize (valuesOf ps "--help").isEmpty = helpless at brief ⊢
      generalize (decide (1 < (valuesOf ps "--config").length)
        || decide (1 < (value :: rest).length) || !ps.all isKnown) = refused at brief ⊢
      cases helpless with
      | false => rfl
      | true =>
        cases refused with
        | true => rfl
        | false =>
          cases given : givenOf (namesOf ps) with
          | none => rfl
          | some names =>
            rw [given] at brief
            cases brief _ rfl

end CommandLine

/-! ## The program -/

/-- Programs whose arguments ask for one grading, told or not, go alike. -/
theorem follows_gradingProgram [Console] {arguments loud : List String} {m : Machine}
    (brief : ∀ inv, CommandLine.parse arguments = .ok inv → inv.verbose = false)
    (more : CommandLine.parse loud =
      (CommandLine.parse arguments).map fun inv => { inv with verbose := true }) :
    Follows (fun c reply => ∀ inv, CommandLine.parse arguments = .ok inv → inv.IsBrief m →
      c.IsShown reply) (gradingProgram arguments) (gradingProgram loud) m := by
  unfold gradingProgram
  rw [more]
  cases accepted : CommandLine.parse arguments with
  | ok inv =>
    exact (GradingRun.follows_run (brief inv accepted) fun leaves c reply answered =>
      answered inv rfl leaves).bind fun code _ _ => .done _
  | error refusal =>
    cases refusal with
    | help => exact (Follows.printLine _).bind fun _ _ _ => .done _
    | usage reason => exact .done _

/-- **Telling more changes nothing else.**  For arguments without the flag, the flag in front asks
for the same grading, told in more detail; and a run on any arguments that ask for this ends as the
run without the flag does, with the same outcome or the same failure, and leaves the same machine,
its calls and its files, but for what was printed.  This holds on every console that takes what
telling more adds for the calls that are made, where the settings do not ask for that themselves. -/
theorem gradingProgram_verbose [Console] {arguments : List String}
    (brief : ∀ inv, CommandLine.parse arguments = .ok inv → inv.verbose = false) :
    CommandLine.parse ("--verbose" :: arguments) =
        (CommandLine.parse arguments).map (fun inv => { inv with verbose := true }) ∧
      ∀ loud, CommandLine.parse loud =
          (CommandLine.parse arguments).map (fun inv => { inv with verbose := true }) →
        ∀ m, ∃ made, m.Makes made (gradingProgram arguments m).2 ∧
          ((∀ inv, CommandLine.parse arguments = .ok inv → inv.IsBrief m →
              m.Answered Call.IsShown made) →
            (gradingProgram loud m).1 = (gradingProgram arguments m).1 ∧
              ∃ text, (gradingProgram loud m).2 =
                { (gradingProgram arguments m).2 with printed := text }) := by
  refine ⟨CommandLine.parse_verbose brief, fun loud more m => ?_⟩
  obtain ⟨made, makes, alike⟩ := follows_gradingProgram (m := m) brief more
  refine ⟨made, makes, fun shown => ?_⟩
  obtain ⟨ended, left⟩ := alike (fun i c called inv accepted leaves =>
    shown inv accepted leaves i c called) m rfl
  exact ⟨ended.symm, _, left⟩

/-- On a console that refuses half of a pair, the flag shows the call of a build, and nothing
else. -/
theorem gradingProgram_verbose_build :
    let m := pinnedLibrary none
    let quiet := @gradingProgram .strict ["Sheet", "hw.lean"] m
    let loud := @gradingProgram .strict ["--verbose", "Sheet", "hw.lean"] m
    (∀ inv, CommandLine.parse ["Sheet", "hw.lean"] = .ok inv → inv.verbose = false) ∧
      (∃ made, m.Makes made quiet.2 ∧ made.length = 1 ∧
        m.Answered (@Call.IsShown .strict) made) ∧
      loud.1 = quiet.1 ∧ (∃ text, loud.2 = { quiet.2 with printed := text }) ∧
      loud.2.printed ≠ quiet.2.printed := by
  have accepted := CommandLine.parse_names (a := "Sheet") (b := "hw.lean") (by decide) (by decide)
  have brief : ∀ inv, CommandLine.parse ["Sheet", "hw.lean"] = .ok inv → inv.verbose = false := by
    rw [accepted]
    rintro _ ⟨⟩
    rfl
  obtain ⟨more, alike⟩ := @gradingProgram_verbose .strict _ brief
  obtain ⟨made, makes, same⟩ := alike _ more (pinnedLibrary none)
  obtain ⟨calls, told⟩ :
      (@gradingProgram .strict ["Sheet", "hw.lean"] (pinnedLibrary none)).2.calls =
          [⟨["lake", "build", "Sheet"], 600, some "/work", none⟩] ∧
        (@gradingProgram .strict ["--verbose", "Sheet", "hw.lean"] (pinnedLibrary none)).2.printed ≠
          (@gradingProgram .strict ["Sheet", "hw.lean"] (pinnedLibrary none)).2.printed := by
    decide +kernel
  have before : (pinnedLibrary none).calls = [] := rfl
  have only := makes.calls
  rw [calls, before, List.nil_append] at only
  have shown : (pinnedLibrary none).Answered (@Call.IsShown .strict) made := by
    intro i c called
    rw [← only] at called
    cases i with
    | zero =>
      cases called
      intro _
      decide +kernel
    | succ i => cases called
  obtain ⟨ended, left⟩ := same fun _ _ _ => shown
  exact ⟨brief, ⟨made, makes, only ▸ rfl, shown⟩, ended, left, told⟩

/-- A machine on which a sheet compiles, and an upload in a directory whose name is no text. -/
def untoldUpload : Machine where
  home := ["work"]
  scratch := ["tmp"]
  scratchName := "grading"
  bundle := ["bundle"]
  tree :=
    { nodes := [(["tmp"], .directory), (["work"], .directory), (["bundle"], .directory),
        (["bundle", "AutograderLib.lean"], .file .empty), (["work", halfName], .directory),
        (["work", halfName, "hw.lean"], .file .empty)] }
  replies :=
    [.ended {}, .ended { artifact := some GradingRun.sheetExport }, .ended {},
      .ended { artifact := some GradingRun.sheetExport }]

/-- **Telling more may be refused.**  The command that compiles the upload names its directory: a
console that encodes what it shows refuses that line, and the run that is told ends there, with exit
code 1 in place of 0 and two calls in place of four.  And a flag that is already there under a
shorter name is one too many with the flag in front. -/
theorem gradingProgram_verbose_refused :
    let arguments := ["Sheet", halfName ++ "/hw.lean"]
    let quiet := @gradingProgram .strict arguments untoldUpload
    let loud := @gradingProgram .strict ("--verbose" :: arguments) untoldUpload
    (quiet.1 = .ok (.exited 0) ∧ quiet.2.calls.length = 4) ∧
      (loud.1 = .ok (.exited 1) ∧ loud.2.calls.length = 2) ∧
      (gradingProgram ["--verb", "Sheet", "missing.lean"] untoldUpload).1 = .ok (.exited 0) ∧
      (gradingProgram ["--verbose", "--verb", "Sheet", "missing.lean"] untoldUpload).1 =
        .ok (.refused CommandLine.usageText) := by
  decide +kernel

end ProofGrading
