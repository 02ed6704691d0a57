import Mathlib.Data.List.Nodup
import ProofGrading.Proofs.Fetching
import ProofGrading.Proofs.ResultsDocument

/-!
# Proofs/CallOrder — in which order a run calls other programs

A run calls programs in one order: it clones, if it fetches its sources, builds the reference,
exports it, compiles the upload and exports that.  It may stop anywhere, and none of the calls is
made before what comes before it has succeeded (`GradingRun.CallsOf`, `gradingProgram_calls`).  A
module name that is empty counts as none, so with one a run clones too
(`gradingProgram_clones`).
-/

namespace ProofGrading

open Job Machine

/-! ## The calls of a toolchain -/

namespace Toolchain

variable {t : Toolchain} {home : String} {source : Path} {m m' : Machine}

/-- **The calls that grade an upload, in their order**, each with what it waited for. -/
inductive Steps (t : Toolchain) (home : String) (source : Path) (m : Machine) : List Call → Prop
  | unbuilt : Steps t home source m []
  | build {b : Call} (hb : t.IsBuild home b) : Steps t home source m [b]
  | exportReference {b e : Call} {m₁ : Machine} (hb : t.IsBuild home b)
      (he : t.IsExport home none e) (builds : t.Builds home m m₁) : Steps t home source m [b, e]
  | compile {b e c : Call} {reference : Environment} (hb : t.IsBuild home b)
      (he : t.IsExport home none e) (hc : t.IsCompilation source c)
      (accepts : t.Accepts home m reference) : Steps t home source m [b, e, c]
  | exportSubmission {b e c e' : Call} {path : String} {reference : Environment} {m₁ : Machine}
      (hb : t.IsBuild home b) (he : t.IsExport home none e) (hc : t.IsCompilation source c)
      (he' : t.IsExport submissionModule (some path) e') (accepts : t.Accepts home m reference)
      (compiled : t.compileReference home m = (.ok reference, m₁))
      (builds : t.BuildsUpload source m₁) : Steps t home source m [b, e, c, e']

theorem steps_gradeSubmission {notes : List String} {r : Except Failure Report}
    (h : GradingRun.gradeSubmission t home source notes m = (r, m')) :
    ∃ made, m.Makes made m' ∧ t.Steps home source m made := by
  obtain ⟨f, failed, rfl⟩ | ⟨reference, m₁, compiled, h⟩ := bind_cases h
  · obtain ⟨-, quiet | ⟨b, hb, made⟩⟩ | ⟨b, e, m₁, hb, he, made, builds, -⟩ :=
      calls_compileReference failed
    · exact ⟨[], quiet, .unbuilt⟩
    · exact ⟨[b], made, .build hb⟩
    · exact ⟨[b, e], made, .exportReference hb he builds⟩
  · obtain ⟨⟨f, failed⟩, -⟩ | ⟨b, e, m₂, hb, he, made, builds, accepts⟩ :=
      calls_compileReference compiled
    · cases failed
    have accepts := accepts reference rfl
    obtain ⟨ended, m₃, returned, after⟩ : ∃ ended m₃,
        t.compileSubmission source reference m₁ = (ended, m₃) ∧ m₃.Quiet m' := by
      obtain ⟨f, failed, -⟩ | ⟨⟨env, warning⟩, m₃, returned, h⟩ := bind_cases h
      · exact ⟨_, m', failed, .refl m'⟩
      · refine ⟨_, m₃, returned, Moves.at_end (Reads.quiet ?_) h⟩
        exact .optional lasting_prints (reads_printLine _) fun _ =>
          (reads_printLine _).bind lasting_prints fun _ =>
            (GradingRun.reads_gradeModule reference env home).bind lasting_prints fun results =>
              GradingRun.reads_reportOn _ results
    obtain quiet | ⟨c, hc, made'⟩ | ⟨c, path, e', hc, he', made', builds'⟩ :=
      calls_compileSubmission returned
    · exact ⟨[b, e], made.quiet (lasting_quiet.trans quiet after), .exportReference hb he builds⟩
    · exact ⟨[b, e, c], (made.trans made').quiet after, .compile hb he hc accepts⟩
    · exact ⟨[b, e, c, e'], (made.trans made').quiet after,
        .exportSubmission hb he hc he' accepts compiled builds'⟩

end Toolchain

/-! ## The calls of a run -/

/-- What tells the calls of a run apart: two words of the command, and whether there is a search
path. -/
def Call.mark (c : Call) : Option String × Option String × Bool :=
  (c.command[1]?, c.command[3]?, c.searchPath.isSome)

namespace Toolchain

variable {t : Toolchain} {home : String} {source : Path} {path : Option String} {c : Call}
  {m : Machine} {made : List Call}

theorem IsBuild.mark (h : t.IsBuild home c) : c.mark = (some "build", none, false) := by
  obtain ⟨project, rfl⟩ := h
  rfl

theorem IsExport.mark (h : t.IsExport home path c) :
    c.mark = (some "env", some "--run", path.isSome) := by
  obtain ⟨project, exporter, dir, rfl⟩ := h
  rfl

theorem IsCompilation.mark (h : t.IsCompilation source c) :
    c.mark = (some "env", some "-o", false) := by
  obtain ⟨project, object, file, -, rfl⟩ := h
  rfl

/-- The marks of the calls of a toolchain, in their order. -/
def marks : List (Option String × Option String × Bool) :=
  [(some "build", none, false), (some "env", some "--run", false), (some "env", some "-o", false),
    (some "env", some "--run", true)]

theorem Steps.marks_prefix (h : t.Steps home source m made) : made.map Call.mark <+: marks := by
  cases h with
  | unbuilt => exact ⟨_, rfl⟩
  | build hb =>
    rw [List.map_singleton, hb.mark]
    exact ⟨_, rfl⟩
  | exportReference hb he =>
    simp only [List.map, hb.mark, he.mark]
    exact ⟨_, rfl⟩
  | compile hb he hc =>
    simp only [List.map, hb.mark, he.mark, hc.mark]
    exact ⟨_, rfl⟩
  | exportSubmission hb he hc he' =>
    simp only [List.map, hb.mark, he.mark, hc.mark, he'.mark]
    exact ⟨_, rfl⟩

end Toolchain

theorem TemplateSource.IsClone.mark {c : Call} (h : TemplateSource.IsClone c) :
    c.mark = (some "clone", some "1", false) := by
  obtain ⟨template, dir, timeout, rfl⟩ := h
  rfl

namespace GradingRun

open TemplateSource (IsClone)

/-- The toolchain of a run. -/
def toolchainOf (s : Settings) (inv : Invocation) : Toolchain where
  project := s.project
  command := s.command
  timeout := s.timeout
  verbose := s.verbose || inv.verbose

variable {s : Settings} {inv : Invocation} {m m' : Machine} {made : List Call}

/-- **The calls of a run in their order**, each with what it waited for: none, the clone that
fetches the sources, or, with the sources at hand and the support library installed, those of the
toolchain after it. -/
inductive CallsOf (s : Settings) (inv : Invocation) (m : Machine) : List Call → Prop
  | none : CallsOf s inv m []
  | clone {c : Call} (unnamed : ¬AreGiven inv.given) (hc : IsClone c) : CallsOf s inv m [c]
  | graded {home : String} {source library : Path} {before made : List Call} {m₁ m₂ : Machine}
      (ready : Ready s m inv.given home source before m₁)
      (installed : installSupportLibrary s.project m₁ = (.ok library, m₂))
      (steps : (toolchainOf s inv).Steps home source m₂ made) : CallsOf s inv m (before ++ made)

theorem Ready.callsOf {home : String} {source : Path} {before : List Call}
    (h : Ready s m inv.given home source before m') : CallsOf s inv m before := by
  generalize given_eq : inv.given = given at h
  cases h with
  | given named there => exact .none
  | fetched unnamed clone fetches => exact .clone (given_eq ▸ unnamed) clone

theorem Ready.marks_sublist {home : String} {source : Path} {before : List Call}
    {given : Option (String × String)} (h : Ready s m given home source before m') :
    (before.map Call.mark).Sublist [(some "clone", some "1", false)] := by
  cases h with
  | given => exact List.nil_sublist _
  | fetched _ clone _ =>
    rw [List.map_singleton, clone.mark]

theorem CallsOf.marks_sublist (h : CallsOf s inv m made) :
    (made.map Call.mark).Sublist ((some "clone", some "1", false) :: Toolchain.marks) := by
  cases h with
  | none => exact List.nil_sublist _
  | clone _ hc =>
    rw [List.map_singleton, hc.mark]
    exact (List.nil_sublist _).cons_cons _
  | graded ready _ steps =>
    rw [List.map_append]
    exact ready.marks_sublist.append steps.marks_prefix.sublist

/-- **No call is repeated.** -/
theorem CallsOf.nodup (h : CallsOf s inv m made) : made.Nodup :=
  .of_map Call.mark (h.marks_sublist.nodup (by decide))

theorem calls_report {r : Except Failure Report} (h : report s inv m = (r, m')) :
    ∃ made, m.Makes made m' ∧ CallsOf s inv m made := by
  obtain ⟨f, failed, rfl⟩ | ⟨⟨home, source, notes⟩, m₁, found, h⟩ := bind_cases h
  · obtain ⟨-, quiet | ⟨unnamed, c, hc, made⟩⟩ | ⟨_, _, _, _, absurd, -⟩ := calls_sources failed
    · exact ⟨[], quiet, .none⟩
    · exact ⟨[c], made, .clone unnamed hc⟩
    · cases absurd
  · obtain ⟨⟨_, absurd⟩, -⟩ | ⟨home', source', notes', before, same, ready, made⟩ :=
      calls_sources found
    · cases absurd
    cases same
    obtain ⟨f, failed, rfl⟩ | ⟨library, m₂, installed, h⟩ := bind_cases h
    · exact ⟨before, made.quiet ((quiet_installSupportLibrary _).at_end failed), ready.callsOf⟩
    · obtain ⟨steps, made', hsteps⟩ := Toolchain.steps_gradeSubmission h
      have quiet := (quiet_installSupportLibrary _).at_end installed
      exact ⟨before ++ steps, (made.quiet quiet).trans made', .graded ready installed hsteps⟩

theorem quiet_giveUp (results : Path) (told reason : String) (code : Nat) :
    IsQuiet (giveUp results told reason code) :=
  (reads_printLine _).quiet.bind lasting_quiet fun _ =>
    (quiet_writeText _ _).bind lasting_quiet fun _ => .done lasting_quiet _

theorem quiet_conclude (results : Path) (ended : Except Failure Unit) :
    IsQuiet (conclude results ended) := by
  cases ended with
  | ok => exact .done lasting_quiet _
  | error f =>
    obtain ⟨said, gives_up⟩ := conclude_error results f
    exact gives_up ▸ quiet_giveUp results said _ _

theorem calls_gradeAndWrite {r : Except Failure Unit} (h : gradeAndWrite s inv m = (r, m')) :
    ∃ made, m.Makes made m' ∧ CallsOf s inv m made := by
  obtain ⟨f, failed, -⟩ | ⟨report, m₁, reported, h⟩ := bind_cases h
  · exact calls_report failed
  · obtain ⟨made, makes, calls⟩ := calls_report reported
    have after : m₁.Quiet m' := Moves.at_end ((quiet_writeText _ _).bind lasting_quiet fun _ =>
      (reads_printLine _).quiet) h
    exact ⟨made, makes.quiet after, calls⟩

/-- **A run calls programs in their order, and only with settings.** -/
theorem calls_run (inv : Invocation) (m : Machine) : ∃ made, m.Makes made (run inv m).2 ∧
    (made = [] ∨ ∃ s m₁, Settings.find (.ofString inv.settings) m = (.ok s, m₁) ∧
      CallsOf s inv m₁ made) := by
  rcases settled : Settings.find (.ofString inv.settings) m with ⟨found, m₁⟩
  have before : m.Quiet m₁ := (Settings.reads_find _).quiet.at_end settled
  cases found with
  | error f =>
    have foreign := Settings.raises_find _ _ _ _ settled
    obtain ⟨said, gives_up⟩ := run_of_unsettled foreign.2 settled
    rw [gives_up]
    exact ⟨[], lasting_quiet.trans before (quiet_giveUp _ _ _ _ m₁), .inl rfl⟩
  | ok s =>
    rcases graded : gradeAndWrite s inv m₁ with ⟨ended, m₂⟩
    obtain ⟨made, makes, calls⟩ := calls_gradeAndWrite graded
    rw [run_of_settled settled graded]
    exact ⟨made, (before.makes makes).quiet (quiet_conclude _ _ m₂), .inr ⟨s, m₁, rfl, calls⟩⟩

theorem snd_gradingProgram {arguments : List String}
    (accepted : CommandLine.parse arguments = .ok inv) (m : Machine) :
    (gradingProgram arguments m).2 = (run inv m).2 := by
  rw [gradingProgram_eq accepted]
  exact snd_bind_pure _ _ m

/-- All calls are made before the end is told. -/
theorem calls_gradingProgram {arguments : List String} {m₁ : Machine}
    (accepted : CommandLine.parse arguments = .ok inv)
    (settled : Settings.find (.ofString inv.settings) m = (.ok s, m₁)) :
    (gradingProgram arguments m).2.calls = (gradeAndWrite s inv m₁).2.calls := by
  rcases graded : gradeAndWrite s inv m₁ with ⟨ended, m₂⟩
  rw [snd_gradingProgram accepted, run_of_settled settled graded]
  exact (quiet_conclude _ _ m₂).calls.trans (List.append_nil _)

end GradingRun

/-- **The program calls others in one order, each at most once, and never past a failure.**  The
calls that it makes are those of a run: it may stop anywhere, and a call is made only when all that
comes before it has succeeded. -/
theorem gradingProgram_calls (arguments : List String) (m : Machine) :
    ∃ made, m.Makes made (gradingProgram arguments m).2 ∧ made.Nodup ∧
      (made = [] ∨ ∃ inv s m₁, CommandLine.parse arguments = .ok inv ∧
        Settings.find (.ofString inv.settings) m = (.ok s, m₁) ∧
        GradingRun.CallsOf s inv m₁ made) := by
  cases parsed : CommandLine.parse arguments with
  | error refusal =>
    refine ⟨[], ?_, List.nodup_nil, .inl rfl⟩
    rw [gradingProgram, parsed]
    cases refusal <;> exact Quiet.of_eq rfl rfl
  | ok inv =>
    obtain ⟨made, makes, calls⟩ := GradingRun.calls_run inv m
    rw [GradingRun.snd_gradingProgram parsed]
    obtain rfl | ⟨s, m₁, settled, calls⟩ := calls
    · exact ⟨[], makes, List.nodup_nil, .inl rfl⟩
    · exact ⟨made, makes, calls.nodup, .inr ⟨inv, s, m₁, rfl, settled, calls⟩⟩

/-- A machine with a source for the sheet, on which the clone fails. -/
def withSource : Machine where
  home := ["work"]
  scratch := ["tmp"]
  scratchName := "grading"
  bundle := ["bundle"]
  tree :=
    { nodes := [(["tmp"], .directory), (["work"], .directory),
        (["work", "autograder_config.json"], .file (Content.bytes
          "\x7b\"public_repo\": \"course/sheets\", \"assignment_path\": \"Sheet.lean\"\x7d"))] }
  replies := [.ended { code := 1 }]

/-- **With an empty module and a file** the program clones all the same. -/
theorem gradingProgram_clones :
    CommandLine.parse ["", "hw.lean"] = .ok { given := some ("", "hw.lean") } ∧
      ∃ c ∈ (gradingProgram ["", "hw.lean"] withSource).2.calls, TemplateSource.IsClone c := by
  have accepted := CommandLine.parse_names (a := "") (b := "hw.lean") (by decide) (by decide)
  refine ⟨accepted, ?_⟩
  let source : TemplateSource := ⟨"course/sheets", "Sheet.lean"⟩
  let dir : Path := ⟨.single, ["tmp", "grading-0"]⟩
  have calls : (gradingProgram ["", "hw.lean"] withSource).2.calls =
      [source.cloneCall dir TemplateSource.cloneTimeout] := by
    have absent : withSource.tree.isThere ["work"] Settings.standardFile = .ok false := by
      decide +kernel
    rw [GradingRun.calls_gradingProgram accepted (Settings.find_standardFile absent)]
    decide +kernel
  rw [calls]
  exact ⟨_, List.mem_singleton_self _, source, dir, _, rfl⟩

end ProofGrading
