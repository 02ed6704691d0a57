import ProofGrading.Proofs.Repeating

/-!
# Proofs/Recompiling — compiling and grading are done again

Compiling reads no files but those that the programs leave in temporary directories, and these are
the same in both passes.  Main statement: compiling both sheets and grading repeat, wherever the
files of the passes differ (`GradingRun.repeats_gradeSubmission`).
-/

namespace ProofGrading

open FileTree (Scope)
open Rerun (Repeats Follows SameEnd)

variable {r : Rerun} {dirs : List Location} {scope : Scope}

/-! ## Compiling -/

namespace Toolchain

variable (t : Toolchain)

theorem repeats_run {step : String} {arguments : List String} {path : Option String}
    (covers : ∀ project x, (t.stepCall project step arguments path).Gives (r.first.scratch ++ [x]) →
      r.first.scratch ++ [x] ∈ dirs) :
    r.Repeats dirs scope (t.run step arguments path) (t.run step arguments path) := by
  refine .optional (.printLine _) fun _ => (Repeats.resolve _).bind fun project =>
    (Repeats.call (covers project)).bind fun reply => ?_
  cases reply with
  | timedOut => exact .done _
  | commandMissing => exact .done _
  | ended exit => exact .optional (.printLines _) fun _ => .done _
  | interrupted => exact .fail _
  | broken reason => exact .fail _

theorem repeats_searchPath (dir : Option Path) :
    r.Repeats dirs scope (searchPath dir) (searchPath dir) := by
  cases dir with
  | none => exact .done _
  | some dir =>
    refine .machine (fun m m' setUp => ?_) fun m => (Repeats.resolve _).bind fun _ => .done _
    rw [setUp.searchPath]

theorem repeats_exportedJson (home : String) (path : Option String) :
    r.Repeats dirs scope (t.exportedJson home path) (t.exportedJson home path) := by
  refine .withScratch (t.within_exportedJson home path) (t.within_exportedJson home path)
    fun x proper _ => .machine (fun m m' setUp => ?_) fun m => ?_
  · dsimp only
    rw [setUp.bundle]
  rw [Path.child_of_plain (by decide)]
  have sees : r.Sees ((r.first.scratch ++ [x]) :: dirs) scope
      ⟨.single, r.first.scratch ++ [x] ++ ["environment.json"]⟩ :=
    Rerun.sees_inside proper (by decide)
  refine (t.repeats_run fun project y gives => ?_).bind fun result =>
    .ite (fun _ => .fail _) fun _ => (Repeats.isThere sees).bind fun there =>
      .ite (fun _ => .fail _) fun _ => (Repeats.readText sees).bind fun text => ?_
  · rw [gives_export_iff] at gives
    rw [Path.text_inside_injective gives]
    exact List.mem_cons_self
  · split
    · exact .done _
    · exact .fail _

theorem repeats_exportEnvironment (home : String) (dir : Option Path) :
    r.Repeats dirs scope (t.exportEnvironment home dir) (t.exportEnvironment home dir) :=
  (repeats_searchPath dir).bind fun path => (t.repeats_exportedJson home path).bind fun _ =>
    .ofExcept (.same _)

/-- **Compiling a reference repeats.** -/
theorem repeats_compileReference (home : String) :
    r.Repeats dirs scope (t.compileReference home) (t.compileReference home) := by
  refine (Repeats.printLine _).bind fun _ => (t.repeats_run fun project x gives => ?_).bind
    fun result => .ite (fun _ => (Repeats.printLine _).bind fun _ => .fail _) fun _ =>
      (t.repeats_exportEnvironment home none).attempt fun e e' alike => ?_
  · exact absurd gives (t.not_gives_build project home _)
  · cases alike with
    | files => exact .ofExcept (.files _ _)
    | same =>
      split
      · exact (Repeats.printLine _).bind fun _ => .done _
      · exact .fail _
      · exact .fail _

theorem repeats_buildSubmission (source : Path) {x : String} (proper : x ≠ "..") :
    r.Repeats ((r.first.scratch ++ [x]) :: dirs) scope
      (t.buildSubmission source ⟨.single, r.first.scratch ++ [x]⟩)
      (t.buildSubmission source ⟨.single, r.first.scratch ++ [x]⟩) := by
  unfold buildSubmission
  rw [Path.child_of_plain (by decide)]
  refine (Repeats.resolve _).bind_of_ok
    (fun _ => (Job.within_look _).bind fun _ => t.within_run fun _ _ _ _ _ _ => trivial)
    (fun _ => (Job.within_look _).bind fun _ => t.within_run fun _ _ _ _ _ _ => trivial) ?_
  refine fun m m' object m₁ follows _ resolved => (Repeats.resolve _).bind fun file =>
    t.repeats_run fun project y gives => ?_
  have leads : m.tree.resolve m.home
      ⟨.single, r.first.scratch ++ [x] ++ [submissionModule ++ ".olean"]⟩ = .ok object :=
    eq_ok_of_mapError (Prod.mk.inj resolved).1
  obtain rfl := Machine.resolve_inside follows.reaches proper (by decide) leads
  rw [gives_compile_iff] at gives
  rw [Path.text_inside_injective gives]
  exact List.mem_cons_self

theorem repeats_tryCompile (source : Path) :
    r.Repeats dirs scope (t.tryCompile source) (t.tryCompile source) := by
  refine .withScratch (t.within_tryCompile source) (t.within_tryCompile source)
    fun x proper _ => (t.repeats_buildSubmission source proper).bind fun result =>
      .ite (fun _ => .done _) fun _ =>
        (t.repeats_exportEnvironment _ _).attempt fun e e' alike => ?_
  cases alike with
  | files => exact .ofExcept (.files _ _)
  | same =>
    split
    · exact (Repeats.printLine _).bind fun _ => .done _
    · exact .done _
    · exact .fail _

/-- **Compiling an upload repeats.** -/
theorem repeats_compileSubmission (source : Path) (reference : Environment) :
    r.Repeats dirs scope (t.compileSubmission source reference)
      (t.compileSubmission source reference) := by
  refine (Repeats.printLine _).bind fun _ => (t.repeats_tryCompile source).bind fun compiled => ?_
  cases compiled with
  | ok env => exact .done _
  | error details => exact (Repeats.printLine _).bind fun _ => .done _

end Toolchain

namespace GradingRun

theorem repeats_announce (verdicts : List Verdict) :
    r.Repeats dirs scope (announce verdicts) (announce verdicts) := by
  induction verdicts with
  | nil => exact .done ()
  | cons v rest ih =>
    unfold announce
    split
    · exact (Repeats.printLine _).bind fun _ => ih
    · exact (Repeats.done ()).bind fun _ => ih

theorem repeats_gradeModule (reference submission : Environment) (home : String) :
    r.Repeats dirs scope (gradeModule reference submission home)
      (gradeModule reference submission home) := by
  unfold gradeModule
  split
  · exact .fail _
  · exact (repeats_announce _).bind fun _ => .done _

theorem repeats_reportOn (told : List String) (results : List ExerciseResult) :
    r.Repeats dirs scope (reportOn told results) (reportOn told results) := by
  refine (Repeats.printLine _).bind fun _ => ?_
  split
  · exact .fail _
  · exact (Repeats.printLines _).bind fun _ => .done _

/-- **Compiling and grading repeat.** -/
theorem repeats_gradeSubmission (t : Toolchain) (home : String) (source : Path)
    (notes : List String) :
    r.Repeats dirs scope (gradeSubmission t home source notes)
      (gradeSubmission t home source notes) :=
  (t.repeats_compileReference home).bind fun reference =>
    (t.repeats_compileSubmission source reference).bind fun compiled =>
      .optional (.printLine _) fun _ => (Repeats.printLine _).bind fun _ =>
        (repeats_gradeModule reference compiled.1 home).bind fun results =>
          repeats_reportOn _ results

end GradingRun

end ProofGrading
