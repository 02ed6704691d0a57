import ProofGrading.Proofs.Recompiling
import ProofGrading.Proofs.Refetching
import ProofGrading.Proofs.Reinstalling
import ProofGrading.Proofs.SideBySide

/-!
# Proofs/Regrading — grading again changes nothing

Main statement: a run that starts on the files that the same run left, with the same replies, ends
alike and leaves the same files, as long as the first one left its inputs as they were
(`gradingProgram_regrades`).  That it writes none of the input files is not enough: a directory that
it makes may open the way to one (`gradingProgram_finds_upload`).

Both runs print to the lenient console.  The first one may tell that it installed the support
library, of which the second one has nothing to tell; a console that refuses this line would end the
first run there.
-/

namespace ProofGrading

open FileTree (Scope IsPlace)
open Job (bundledLibrary)
open Rerun (Repeats SameEnd)

/-! ## Settings -/

/-- **Settings are found again** where their path leads to the same. -/
theorem Settings.find_congr {m m' : Machine} {p : Path}
    (same : m'.tree.locate m'.home p = m.tree.locate m.home p) :
    ∃ found, find p m = (found, m) ∧ find p m' = (found, m') := by
  let R (a b : Machine) : Prop := a = m ∧ b = m'
  have looks : ∀ {α : Type} {f : FileTree → Location → Except FileFault α},
      f m'.tree m'.home = f m.tree m.home → Job.Mirrors R (Job.look f) (Job.look f) := by
    rintro α f seen _ _ ⟨rfl, rfl⟩
    exact ⟨congrArg (·.mapError Failure.files) seen.symm, rfl, rfl⟩
  have isThere : Job.Mirrors R (Job.isThere p) (Job.isThere p) :=
    looks (by rw [FileTree.isThere, FileTree.isThere, FileTree.asks, FileTree.asks, same])
  have loads : Job.Mirrors R (load p) (load p) := by
    refine isThere.bind fun _ => .ite (fun _ => .fail _) fun _ => Job.Mirrors.bind
      (looks (by rw [FileTree.read, FileTree.read, same])) fun data => ?_
    split
    · exact .ofExcept _
    · exact .fail _
  have finds : Job.Mirrors R (find p) (find p) :=
    .ite (fun _ => isThere.bind fun _ => .ite (fun _ => loads) fun _ => .done _) fun _ => loads
  obtain ⟨found, left, left'⟩ := finds m m' ⟨rfl, rfl⟩
  exact ⟨(find p m).1, Prod.ext rfl left, Prod.ext found.symm left'⟩

/-! ## A run -/

namespace GradingRun

variable {r : Rerun} {s : Settings} {inv : Invocation}

/-- **The support library can be put into a project that is made for it**: no directory comes to
stand where it goes, and what is copied there is not itself. -/
def HasOpenLibrary (m m₁ : Machine) (s : Settings) (given : Option (String × String)) : Prop :=
  Unprepared m s given → ∀ place, m.tree.IsPlace m.home s.libraryPath place →
    m₁.tree.node? place ≠ some .directory ∧ ¬m.tree.IsPlace m.home (bundledLibrary m) place

section

variable (kept : ∀ l, Consults r.first s inv.given l → r.IsKept l)
  (bundled : ∃ data, r.first.tree.read r.first.home (bundledLibrary r.first) = .ok data)
  (opens : HasOpenLibrary r.first r.last s inv.given)
include bundled opens

/-- **The library is installed once**, after the sources are at hand. -/
theorem endsAt_install {found : String × Path × List String} {m₁ m₁' : Machine}
    (fetched : sources s inv.given r.first = (.ok found, m₁))
    (fetched' : sources s inv.given r.second = (.ok found, m₁'))
    (follows : r.Follows [] r.untouched m₁ m₁') :
    r.EndsAt [] .everywhere m₁ m₁' (Job.installSupportLibrary s.project)
      (Job.installSupportLibrary s.project) := by
  by_cases directory : ∃ d, m₁.tree.locate m₁.home s.project = .ok ⟨d, some .directory⟩
  · exact Job.endsAt_install_of_directory bundled follows directory.choose_spec
  by_cases named : AreGiven inv.given
  · obtain rfl := eq_of_sources named fetched
    obtain rfl := eq_of_sources named fetched'
    exact Job.endsAt_install_of_start bundled (opens ⟨named, directory⟩) follows rfl directory
  · rw [sources_of_not_areGiven s named] at fetched
    obtain ⟨selection, sheet, upload, fetches, -⟩ := fetches_of_ok fetched
    exact absurd (fetches.directory (.refl r.sound)) directory

include kept

/-- **Up to the report** both passes end alike. -/
theorem endsAt_report :
    r.EndsAt [] .everywhere r.first r.second (report s inv) (report s inv) := by
  have grades : ∀ (t : Toolchain) (found : String × Path × List String),
      r.Repeats [] .everywhere (gradeSubmission t found.1 found.2.1 found.2.2)
        (gradeSubmission t found.1 found.2.1 found.2.2) :=
    fun t found => repeats_gradeSubmission t found.1 found.2.1 found.2.2
  have fetches : ∀ m₀, Job.Within m₀ .everywhere (sources s inv.given) := fun m₀ m reaches =>
    (within_sources s inv.given m reaches).mono fun _ _ _ => trivial
  have installs : ∀ m₀, Job.Within m₀ .everywhere (Job.installSupportLibrary s.project) :=
    fun m₀ => Job.within_installSupportLibrary m₀ s.project
  refine (endsAt_sources kept).bind (fun _ _ _ => trivial) (fun found m₁ fetched => ?_)
    fun found m₁ m₁' fetched fetched' along => ?_
  · exact ((installs _).bind fun _ => (grades _ found).within) m₁
      ((fetches _).reaches (.refl r.sound) fetched)
  · have follows := r.follows_start.after (fetches _) (fetches _) fetched fetched' along
    refine (endsAt_install bundled opens fetched fetched' follows).bind (fun _ _ => id)
      (fun _ m₂ installed => (grades _ found).within m₂ ?_)
      fun _ m₂ m₂' installed installed' along => (grades _ found).ends m₂ m₂' ?_
    · exact (installs _).reaches follows.reaches installed
    · exact follows.after (installs _) (installs _) installed installed' along

/-- **Up to the written report** both passes end alike. -/
theorem endsAt_gradeAndWrite :
    r.EndsAt [] .everywhere r.first r.second (gradeAndWrite s inv) (gradeAndWrite s inv) := by
  have writes : ∀ report : Report, r.Repeats [] .everywhere
      (Job.writeText s.results report.text >>= fun _ =>
        Job.printLine s!"Saved results to {s.results.text}")
      (Job.writeText s.results report.text >>= fun _ =>
        Job.printLine s!"Saved results to {s.results.text}") :=
    fun report => (Repeats.writeText _ _).bind fun _ => .printLine _
  have ext : ∀ {m m₁ : Machine} {report₁ : Report}, m.IsSound →
      report s inv m = (.ok report₁, m₁) → m.Extends .everywhere m₁ := by
    intro m m₁ report₁ sound reported
    have ext := stays_report s inv sound (.refl sound)
    rw [reported] at ext
    exact ext.mono fun _ _ _ => trivial
  refine (endsAt_report kept bundled opens).bind (fun _ _ => id) (fun report₁ m₁ reported => ?_)
    fun report₁ m₁ m₁' reported reported' along => ?_
  · exact (writes report₁).within m₁ ((ext r.sound reported).reaches (.refl r.sound))
  · exact (writes report₁).ends m₁ m₁'
      ⟨ext r.sound reported, ext r.sound_second reported', along⟩

end

/-- Giving up repeats, whatever is told. -/
theorem repeats_giveUp (results : Path) (told told' reason : String) (code : Nat) :
    r.Repeats [] .everywhere (giveUp results told reason code)
      (giveUp results told' reason code) :=
  (Repeats.printsOther told told').bind fun _ => (Repeats.writeText _ _).bind fun _ => .done code

/-- **Runs that end alike conclude alike**: a fault of the files is not told in the document. -/
theorem repeats_conclude (results : Path) {ended ended' : Except Failure Unit}
    (alike : SameEnd ended ended') :
    r.Repeats [] .everywhere (conclude results ended) (conclude results ended') := by
  cases alike with
  | same =>
    cases ended with
    | ok => exact .done 0
    | error f =>
      obtain ⟨said, gives_up⟩ := conclude_error results f
      rw [gives_up]
      exact repeats_giveUp _ _ _ _ _
  | files e e' => exact repeats_giveUp _ _ _ _ _

/-- **What the program goes by**: what is on the way of its settings, and what a run with these goes
by. -/
inductive ProgramConsults (arguments : List String) (m : Machine) : Location → Prop
  | settings {inv : Invocation} {l : Location} (accepted : CommandLine.parse arguments = .ok inv)
      (on_way : m.tree.OnWay m.home (.ofString inv.settings) l) : ProgramConsults arguments m l
  | run {s : Settings} {given : Option (String × String)} {l : Location}
      (starts : Starts arguments m s given) (consults : Consults m s given l) :
      ProgramConsults arguments m l

section

variable {arguments : List String}
  (kept : ∀ l, ProgramConsults arguments r.first l → r.IsKept l)
  (bundled : ∃ data, r.first.tree.read r.first.home (bundledLibrary r.first) = .ok data)
  (opens : ∀ s given, Starts arguments r.first s given → HasOpenLibrary r.first r.last s given)
include kept bundled opens

/-- **A run ends alike in both passes.** -/
theorem endsAt_run (accepted : CommandLine.parse arguments = .ok inv) :
    r.EndsAt [] .everywhere r.first r.second (run inv) (run inv) := by
  have sees : r.Sees [] r.untouched (.ofString inv.settings) :=
    Rerun.sees_of_onWay fun l on_way => kept l (.settings accepted on_way)
  have late : r.Follows [] .everywhere r.first r.second :=
    r.follows_start.mono fun _ _ _ => trivial
  obtain ⟨found, settled, settled'⟩ := Settings.find_congr
    (sees _ _ r.follows_start (r.heads_last.of_extends r.extends_last))
  intro heads
  cases found with
  | error f =>
    have notInterrupted := (Settings.raises_find _ _ _ _ settled).2
    obtain ⟨said, gives_up⟩ := run_of_unsettled notInterrupted settled
    obtain ⟨said', gives_up'⟩ := run_of_unsettled notInterrupted settled'
    rw [gives_up] at heads ⊢
    rw [gives_up']
    exact (repeats_giveUp _ said said' _ 1).ends _ _ late heads
  | ok s =>
    have starts : Starts arguments r.first s inv.given := ⟨inv, _, accepted, rfl, settled⟩
    have ends : r.EndsAt [] .everywhere r.first r.second (gradeAndWrite s inv)
        (gradeAndWrite s inv) :=
      endsAt_gradeAndWrite (fun l consults => kept l (.run starts consults)) bundled
        (opens s inv.given starts)
    have ext : ∀ {m m₁ : Machine} {ended : Except Failure Unit}, m.IsSound →
        gradeAndWrite s inv m = (ended, m₁) → m.Extends .everywhere m₁ := by
      intro m m₁ ended sound graded
      have ext := stays_gradeAndWrite s inv sound (.refl sound)
      rw [graded] at ext
      exact ext.mono fun _ _ _ => trivial
    rcases graded : gradeAndWrite s inv r.first with ⟨ended, m₁⟩
    rcases graded' : gradeAndWrite s inv r.second with ⟨ended', m₁'⟩
    unfold Rerun.EndsAt at ends
    rw [graded, graded'] at ends
    rw [run_of_settled settled graded] at heads ⊢
    rw [run_of_settled settled' graded']
    have begun := ext r.sound graded
    have concludes : Job.Within r.first .everywhere (conclude s.results ended) :=
      within_conclude ended fun _ _ _ => trivial
    obtain ⟨alike, along⟩ :=
      ends (heads.of_extends (concludes m₁ (begun.reaches (.refl r.sound))))
    exact (repeats_conclude s.results alike).ends m₁ m₁'
      ⟨begun, ext r.sound_second graded', along⟩ heads

/-- **The program ends alike in both passes.** -/
theorem endsAt_gradingProgram :
    r.EndsAt [] .everywhere r.first r.second (gradingProgram arguments)
      (gradingProgram arguments) := by
  have late : r.Follows [] .everywhere r.first r.second :=
    r.follows_start.mono fun _ _ _ => trivial
  cases accepted : CommandLine.parse arguments with
  | error refusal =>
    have tells :
        r.Repeats [] .everywhere (gradingProgram arguments) (gradingProgram arguments) := by
      rw [gradingProgram, accepted]
      cases refusal with
      | help => exact (Repeats.printLine _).bind fun _ => .done _
      | usage reason => exact .done _
    exact tells.ends _ _ late
  | ok inv =>
    have ends : r.EndsAt [] .everywhere r.first r.second
        (run inv >>= fun code => pure (Outcome.exited code))
        (run inv >>= fun code => pure (Outcome.exited code)) :=
      (endsAt_run kept bundled opens accepted).bind (fun _ _ => id) (fun _ m _ => .refl m)
        fun code m m' _ _ along _ => ⟨.same _, along⟩
    rw [gradingProgram, accepted]
    exact ends

end

end GradingRun

open GradingRun (ProgramConsults Starts HasOpenLibrary Target)

/-- **Grading again changes nothing.**  Let a run end, with programs that write, and look, only in
the temporary directories that they are given, and let it leave everything on the way of its inputs
as it was.  Then the same run on the files that it left, with the same replies, ends with the same
outcome and leaves every file and directory as the first one did; so all that is read under a path
is the same, the results document included.  The console of both runs is the lenient one, so the
notice that only the first one may print cannot end it. -/
theorem gradingProgram_regrades {arguments : List String} {m m₁ : Machine} {outcome : Outcome}
    (ended : gradingProgram arguments m = (.ok outcome, m₁)) (sound : m.IsSound)
    (confined : ∀ made, m.Makes made m₁ → m.Confined made ∧ m.Isolated made)
    (bundled : ∃ data, m.tree.read m.home (bundledLibrary m) = .ok data)
    (kept : ∀ l, ProgramConsults arguments m l → m₁.tree.node? l = m.tree.node? l)
    (spare : ∀ n, m.tree.node? (m.scratch ++ [FileTree.numbered m.scratchName n]) = none →
      m₁.tree.node? (m.scratch ++ [FileTree.numbered m.scratchName n]) = none)
    (opens : ∀ s given, Starts arguments m s given → HasOpenLibrary m m₁ s given)
    (calls : List Call) (printed : String) :
    ∃ m₂, gradingProgram arguments { m with tree := m₁.tree, calls, printed } =
        (.ok outcome, m₂) ∧
      (∀ l, m₂.tree.node? l = m₁.tree.node? l) ∧
        ∀ p, m₂.tree.read m.home p = m₁.tree.read m.home p := by
  have ext : m.Extends .everywhere (gradingProgram arguments m).2 :=
    (GradingRun.extends_gradingProgram arguments sound).mono fun _ _ _ => trivial
  rw [ended] at ext
  let r : Rerun := ⟨m, m₁, calls, printed, sound, ext, confined, spare⟩
  have ends : r.EndsAt [] .everywhere r.first r.second _ _ :=
    GradingRun.endsAt_gradingProgram kept bundled opens
  unfold Rerun.EndsAt at ends
  rcases ended' : gradingProgram arguments r.second with ⟨e, m₂⟩
  rw [show gradingProgram arguments r.first = _ from ended, ended'] at ends
  obtain ⟨alike, along⟩ := ends r.heads_last
  cases alike
  have same : ∀ l, m₂.tree.node? l = m₁.tree.node? l := fun l =>
    (along.tree.node l).elim id fun ⟨_, _, there⟩ => there
  refine ⟨m₂, ended', same, fun p => ?_⟩
  rw [FileTree.read, FileTree.read, FileTree.locate_congr along.tree.aliases fun l _ => same l]

/-! ## Two runs -/

namespace pinnedLibrary

variable {settings : Option String}

theorem isolated (made : List Call) : (pinnedLibrary settings).Isolated made := by
  intro i c exit _ replied
  cases i with
  | zero =>
    cases replied
    exact Exit.goesBy_of_nothing rfl rfl
  | succ i => cases replied

/-- A run that is given a file in the directory that it works in goes by that, the settings and the
directory itself. -/
theorem mem_of_programConsults {l : Location}
    (consults : ProgramConsults ["Sheet", "hw.lean"] (pinnedLibrary settings) l) :
    l ∈ [["work"], ["work", "grader_config.yml"], ["work", "hw.lean"]] := by
  rw [List.mem_cons, List.mem_cons, List.mem_singleton]
  have single : ∀ {name : String}, Path.ofString name = ⟨.relative, [name]⟩ → name ≠ ".." →
      (pinnedLibrary settings).tree.OnWay ["work"] (.ofString name) l →
        l = ["work"] ∨ l = ["work", name] := by
    rintro name plain other ⟨front, back, split, rfl⟩
    rw [plain] at split ⊢
    cases front with
    | nil => exact .inl rfl
    | cons first rest =>
      obtain ⟨rfl, nothing⟩ := List.cons.inj split
      obtain ⟨rfl, -⟩ := List.append_eq_nil_iff.1 nothing.symm
      refine .inr ?_
      rw [FileTree.resolveNames, if_neg other]
      rfl
  cases consults with
  | settings accepted on_way =>
    cases (CommandLine.parse_names (by decide) (by decide)).symm.trans accepted
    exact (single (by decide) (by decide) on_way).imp_right .inl
  | run starts consults =>
    obtain ⟨rfl, -⟩ := pinnedLibrary.eq_of_starts starts
    have named : GradingRun.AreGiven (some ("Sheet", "hw.lean")) := by
      rw [GradingRun.AreGiven]
      decide
    cases consults with
    | file _ is_given on_way =>
      cases is_given
      exact (single (by decide) (by decide) on_way).imp_right .inr
    | provisioning unnamed => exact absurd named unnamed
    | sheet unnamed => exact absurd named unnamed
    | submissions unnamed => exact absurd named unnamed
    | below unnamed => exact absurd named unnamed
    | upload unnamed => exact absurd named unnamed

end pinnedLibrary

/-- A run that makes its project and puts the support library there is repeated: the second one
finds both. -/
theorem gradingProgram_regrades_fresh :
    let m := pinnedLibrary (some "project_dir: fresh\n")
    m.tree.node? ["work", "fresh"] = none ∧
      ∃ m₁ m₂, gradingProgram ["Sheet", "hw.lean"] m = (.ok (.exited 1), m₁) ∧
        m₁.tree.node? ["work", "fresh", "AutograderLib.lean"] =
          some (.file (Content.bytes "-- bundled")) ∧
        gradingProgram ["Sheet", "hw.lean"] { m with tree := m₁.tree } = (.ok (.exited 1), m₂) ∧
          (∀ l, m₂.tree.node? l = m₁.tree.node? l) ∧
            ∀ p, m₂.tree.read m.home p = m₁.tree.read m.home p := by
  intro m
  obtain ⟨ended, left, installed, kept⟩ :
      (gradingProgram ["Sheet", "hw.lean"] m).1 = .ok (.exited 1) ∧
        (gradingProgram ["Sheet", "hw.lean"] m).2.tree.nodes.map (·.1) =
          [["tmp"], ["work"], ["bundle"], ["bundle", "AutograderLib.lean"],
            ["work", "AutograderLib.lean"], ["work", "hw.lean"], ["work", "grader_config.yml"],
            ["work", "fresh"], ["work", "fresh", "AutograderLib.lean"], ["results"],
            ["results", "results.json"]] ∧
        (gradingProgram ["Sheet", "hw.lean"] m).2.tree.node?
          ["work", "fresh", "AutograderLib.lean"] = some (.file (Content.bytes "-- bundled")) ∧
        ∀ l ∈ [["work"], ["work", "grader_config.yml"], ["work", "hw.lean"]],
          (gradingProgram ["Sheet", "hw.lean"] m).2.tree.node? l = m.tree.node? l := by
    decide +kernel
  rcases ran : gradingProgram ["Sheet", "hw.lean"] m with ⟨e, m₁⟩
  rw [ran] at ended left installed kept
  dsimp only at ended left installed kept
  subst ended
  have project : (Settings.find Settings.standardFile m).1.toOption.map (·.libraryPath) =
      some (.ofString "fresh/AutograderLib.lean") := by
    decide +kernel
  have places : m.tree.IsPlace m.home (.ofString "fresh/AutograderLib.lean")
      ["work", "fresh", "AutograderLib.lean"] ∧
        m.tree.IsPlace m.home (bundledLibrary m) ["bundle", "AutograderLib.lean"] := by
    unfold FileTree.IsPlace
    decide +kernel
  have bundled := FileTree.exists_read_of_isFile
    (show m.tree.isFile m.home (bundledLibrary m) = .ok true by decide +kernel)
  have spare : ∀ n, m.tree.node? (m.scratch ++ [FileTree.numbered m.scratchName n]) = none →
      m₁.tree.node? (m.scratch ++ [FileTree.numbered m.scratchName n]) = none := by
    intro n _
    by_contra there
    have among := FileTree.mem_keys_of_node? there
      (List.append_ne_nil_of_right_ne_nil _ (List.cons_ne_nil _ _))
    rw [left] at among
    simp [m, pinnedLibrary] at among
  have opens : ∀ s given, Starts ["Sheet", "hw.lean"] m s given → HasOpenLibrary m m₁ s given := by
    intro s given starts _ place at_place
    rw [(pinnedLibrary.eq_of_starts starts).2] at project
    rw [show s.libraryPath = _ from Option.some.inj project] at at_place
    obtain rfl := places.1.unique at_place
    refine ⟨?_, fun at_bundle => absurd (places.2.unique at_bundle) (by decide)⟩
    rw [installed]
    exact fun same => by cases same
  obtain ⟨m₂, again, same⟩ := gradingProgram_regrades ran (pinnedLibrary.isSound _)
    (fun made _ => ⟨pinnedLibrary.confined made, pinnedLibrary.isolated made⟩) bundled
    (fun l consults => kept l (pinnedLibrary.mem_of_programConsults consults)) spare opens
    m.calls m.printed
  exact ⟨rfl, m₁, m₂, rfl, installed, again, same⟩

/-- **Grading again may find an upload that it did not find before**: the first run makes the
directory of its results, and the path of the upload leads through that. -/
theorem gradingProgram_finds_upload :
    let m := pinnedLibrary (some "results_path: out/results.json\n")
    let arguments := ["Sheet", "out/../hw.lean"]
    let m₁ := (gradingProgram arguments m).2
    m.IsSound ∧ (∀ made, m.Confined made ∧ m.Isolated made) ∧
      (∀ p, (Target arguments m p ∨
          ∃ s given, Starts arguments m s given ∧ p = s.libraryPath) →
        ∀ q ∈ [Settings.standardFile, .ofString "out/../hw.lean"],
          ∀ l, m.tree.IsPlace m.home p l → ¬m.tree.IsPlace m.home q l) ∧
      (gradingProgram arguments m).1 = .ok (.exited 0) ∧
      (gradingProgram arguments { m with tree := m₁.tree }).1 = .ok (.exited 1) := by
  intro m arguments m₁
  have ended : (gradingProgram arguments m).1 = .ok (.exited 0) ∧
      (gradingProgram arguments { m with tree := m₁.tree }).1 = .ok (.exited 1) := by
    decide +kernel
  refine ⟨pinnedLibrary.isSound _,
    fun made => ⟨pinnedLibrary.confined made, pinnedLibrary.isolated made⟩, ?_, ended⟩
  have settled : (Settings.find Settings.standardFile m).1.toOption.map
      (fun s => (s.results, s.libraryPath)) =
        some (.ofString "out/results.json", .ofString "AutograderLib.lean") := by decide +kernel
  have apart : ∀ p ∈ [Path.ofString "out/results.json", .ofString "AutograderLib.lean"],
      ∀ q ∈ [Settings.standardFile, .ofString "out/../hw.lean"],
        m.tree.resolve m.home p ≠ m.tree.resolve m.home q := by decide +kernel
  rintro p written q hq l at_p at_q
  refine apart p ?_ q hq (at_p.trans at_q.symm)
  have among : ∀ {s given}, Starts arguments m s given →
      s.results = .ofString "out/results.json" ∧
      s.libraryPath = .ofString "AutograderLib.lean" := by
    intro s given starts
    rw [(GradingRun.eq_of_starts_names (by decide) (by decide) starts).2] at settled
    exact Prod.mk.inj (Option.some.inj settled)
  obtain ((⟨accepted, failed⟩ | starts) | ⟨s, given, starts, copied⟩) | ⟨s, given, starts, rfl⟩ :=
    written
  · cases (CommandLine.parse_names (by decide) (by decide)).symm.trans accepted
    rw [show Settings.find Settings.standardFile m = _ from failed] at settled
    cases settled
  · rw [(among starts).1]
    exact List.mem_cons_self ..
  · obtain ⟨rfl, -⟩ := GradingRun.eq_of_starts_names (by decide) (by decide) starts
    have named : GradingRun.AreGiven (some ("Sheet", "out/../hw.lean")) := by
      rw [GradingRun.AreGiven]
      decide
    cases copied with
    | sheet unnamed => exact absurd named unnamed
    | upload unnamed => exact absurd named unnamed
  · rw [(among starts).2]
    exact List.mem_cons_of_mem _ (List.mem_cons_self ..)

end ProofGrading
