import ProofGrading.GradingRun
import ProofGrading.Proofs.BuildSteps

/-!
# Proofs/Failures — what a job can fail with

`Job.Raises P` bounds the failures of a job; it is kept by every way of putting jobs together.  Main
statements: what a grading fails with is explained if it is the grader's own
(`GradingRun.raises_report`), and reading settings fails with nothing that explains itself
(`Settings.raises_find`).
-/

namespace ProofGrading

/-! ## Failures of results -/

theorem exists_of_mapError {ε ε' α : Type} {x : Except ε α} {f : ε → ε'} {e : ε'}
    (h : x.mapError f = .error e) : ∃ e₀, x = .error e₀ ∧ f e₀ = e := by
  cases x with
  | ok a => cases h
  | error e₀ => exact ⟨e₀, rfl, Except.error.inj h⟩

theorem error_of_map {ε α β : Type} {x : Except ε α} {f : α → β} {e : ε}
    (h : x.map f = .error e) : x = .error e := by
  cases x with
  | ok a => cases h
  | error e₀ => exact congrArg Except.error (Except.error.inj h)

/-- What holds of the failures of both parts of a result that goes on holds of its own. -/
theorem error_of_bind {ε α β : Type} {P : ε → Prop} {x : Except ε α} {next : α → Except ε β}
    (h : ∀ e, x = .error e → P e) (hn : ∀ a e, x = .ok a → next a = .error e → P e) {e : ε}
    (he : (x >>= next) = .error e) : P e := by
  cases x with
  | ok a => exact hn a e rfl he
  | error e' =>
    cases he
    exact h _ rfl

/-! ## Failures of jobs -/

/-- **All failures of a job satisfy a condition**, whatever machine it works on. -/
def Job.Raises {α : Type} (P : Failure → Prop) (job : Job α) : Prop :=
  ∀ m e m', job m = (.error e, m') → P e

namespace Job.Raises

variable {α β : Type} {P : Failure → Prop} {job : Job α} {next : α → Job β}

theorem done (a : α) : Raises P (Job.done a) := by
  intro m e m' h
  cases h

theorem fail {e : Failure} (h : P e) : Raises P (Job.fail e : Job α) := by
  intro m e' m' he
  cases he
  exact h

theorem ofExcept {r : Except Failure α} (h : ∀ e, r = .error e → P e) :
    Raises P (Job.ofExcept r) := by
  intro m e m' he
  exact h e (Prod.mk.inj he).1

theorem modify (f : Machine → Machine) : Raises P (Job.modify f) := by
  intro m e m' h
  cases h

theorem machine : Raises P Job.machine := by
  intro m e m' h
  cases h

/-- What comes after has only to be looked at for values that what comes before can have. -/
theorem bind_of_ok (h : Raises P job)
    (hn : ∀ a, (∃ m m', job m = (.ok a, m')) → Raises P (next a)) : Raises P (job >>= next) := by
  intro m e m' he
  cases hj : job m with
  | mk r m₁ =>
    cases r with
    | ok a => exact hn a ⟨m, m₁, hj⟩ m₁ e m' (Job.bind_ok hj next ▸ he)
    | error e₁ =>
      rw [Job.bind_error hj] at he
      cases he
      exact h m e m' hj

/-- What comes before fails as before, what comes after as it does. -/
theorem bind (h : Raises P job) (hn : ∀ a, Raises P (next a)) : Raises P (job >>= next) :=
  h.bind_of_ok fun a _ => hn a

/-- **A failure that is caught can be told on**: after it, only what satisfied the condition is
known to have been caught. -/
theorem attempt_bind {next : Except Failure α → Job β} (h : Raises P job)
    (hok : ∀ a, Raises P (next (.ok a))) (herror : ∀ e, P e → Raises P (next (.error e))) :
    Raises P (Job.attempt job >>= next) := by
  intro m e m' he
  cases hj : job m with
  | mk r m₁ =>
    have caught : Job.attempt job m = (.ok r, m₁) := by rw [Job.attempt, hj]
    rw [Job.bind_ok caught] at he
    cases r with
    | ok a => exact hok a m₁ e m' he
    | error e₁ => exact herror e₁ (h m e₁ m₁ hj) m₁ e m' he

theorem ite {c : Prop} [Decidable c] {other : Job α} (h : c → Raises P job)
    (ho : ¬c → Raises P other) : Raises P (if c then job else other) := by
  split
  · next hc => exact h hc
  · next hc => exact ho hc

/-- A step that may be left out. -/
theorem optional {c : Prop} [Decidable c] {step : Job Unit} {next : Unit → Job α}
    (h : Raises P step) (hn : ∀ u, Raises P (next u)) :
    Raises P (if c then step >>= next else next ()) :=
  ite (fun _ => h.bind hn) fun _ => hn ()

/-! ## Printing and files -/

theorem printLine (line : String) : Raises P (Job.printLine line) := modify _

theorem printLines (lines : List String) : Raises P (Job.printLines lines) := by
  induction lines with
  | nil => exact done ()
  | cons line rest ih => exact (printLine line).bind fun _ => ih

section

variable (files : ∀ fault, P (.files fault))

include files

theorem look (f : FileTree → Location → Except FileFault α) : Raises P (Job.look f) := by
  intro m e m' h
  obtain ⟨fault, -, rfl⟩ := exists_of_mapError (Prod.mk.inj h).1
  exact files fault

theorem change (f : FileTree → Location → Except FileFault FileTree) :
    Raises P (Job.change f) := by
  intro m e m' h
  unfold Job.change at h
  split at h
  · cases h
  · cases h
    exact files _

theorem makeDirectories (p : Path) : Raises P (Job.makeDirectories p) := by
  intro m e m' h
  unfold Job.makeDirectories at h
  split at h
  · cases h
  · cases h
    exact files _

theorem copyFile (source target : Path) : Raises P (Job.copyFile source target) :=
  (makeDirectories files _).bind fun _ => change files _

theorem readText (badText : P .badText) (p : Path) : Raises P (Job.readText p) := by
  refine (look files _).bind fun data => ?_
  split
  · exact done _
  · exact fail badText

end

/-- Work in a temporary directory fails as it does elsewhere. -/
theorem withScratch {work : Path → Job α} (h : ∀ dir, Raises P (work dir)) :
    Raises P (Job.withScratch work) := by
  have scratch : Raises P Job.makeScratch := by
    intro m e m' he
    cases he
  refine scratch.bind fun dir => (h dir).attempt_bind (fun a => ?_) fun e he => ?_
  · exact (modify _).bind fun _ => ofExcept fun e he => nomatch he
  · refine (modify _).bind fun _ => ofExcept fun e' he' => ?_
    cases he'
    exact he

/-- A call fails when it is interrupted or breaks. -/
theorem call (interrupted : P .interrupted) (broken : ∀ reason, P (.broken reason)) (c : Call) :
    Raises P (Job.call c) := by
  intro m e m' h
  unfold Job.call at h
  dsimp only at h
  split at h
  · cases h
  · cases h
    exact interrupted
  · cases h
    exact broken _
  · cases h
  · cases h

end Job.Raises

/-! ## Failures that explain themselves -/

/-- A failure of the grader's own says something. -/
def Failure.Explained (f : Failure) : Prop := f.exitCode? ≠ none → f.message ≠ ""

namespace Failure

theorem explained_configuration {reason : String} (h : reason ≠ "") :
    (configuration reason).Explained := fun _ => h

theorem explained_submission {reason : String} (h : reason ≠ "") :
    (submission reason).Explained := fun _ => h

/-- A failure that is not the grader's own need not say anything. -/
theorem explained_of_foreign {f : Failure} (h : f.exitCode? = none) : f.Explained :=
  fun own => (own h).elim

theorem explained_files (fault : FileFault) : (files fault).Explained := explained_of_foreign rfl

theorem explained_toolchain (reason : String) : (toolchain reason).Explained :=
  explained_of_foreign rfl

end Failure

open Failure (Explained explained_configuration explained_submission explained_of_foreign
  explained_files explained_toolchain)

/-- A failure to read a JSON text is told with its place, or only named. -/
theorem Json.DecodeError.failure_of {P : Failure → Prop} {place : String → Failure}
    (h : ∀ flaw, P (place flaw)) (badValue : P .badValue) (tooDeep : P .tooDeep)
    (e : Json.DecodeError) : P (e.failure place) := by
  cases e with
  | invalid e => exact h e.message
  | hugeInteger => exact badValue
  | tooDeep => exact tooDeep

theorem Json.DecodeError.explained_failure {place : String → Failure}
    (h : ∀ flaw, (place flaw).Explained) (e : Json.DecodeError) : (e.failure place).Explained :=
  e.failure_of h (explained_of_foreign rfl) (explained_of_foreign rfl)

theorem GradingError.explained_failure (e : GradingError) : e.failure.Explained := by
  cases e with
  | unknownModule name =>
    exact explained_configuration (ne_empty_append (ne_empty_append (by decide) name) _)
  | invalidExercise e => exact explained_of_foreign rfl
  | undeclared name =>
    exact explained_configuration (ne_empty_append (ne_empty_append (by decide) name) _)
  | noExercises => exact explained_configuration (ne_empty_append (by decide) _)

namespace Job

theorem raises_call (c : Call) : Raises Explained (call c) :=
  .call (explained_of_foreign rfl) (fun _ => explained_of_foreign rfl) c

theorem raises_readText (p : Path) : Raises Explained (readText p) :=
  .readText explained_files (explained_of_foreign rfl) p

theorem raises_loadTemplateSource (p : Path) : Raises Explained (loadTemplateSource p) := by
  refine (Raises.look explained_files _).bind fun there => .ite (fun _ => ?_) fun _ => ?_
  · exact .fail (explained_configuration (by simp [toString]))
  · refine (raises_readText p).bind fun text => ?_
    split
    · next e _ =>
      exact .fail (e.explained_failure fun flaw =>
        explained_configuration (by simp [toString]))
    · split
      · exact .done _
      · exact .fail (explained_configuration (by simp [toString]))
    · exact .fail (explained_configuration (by simp [toString]))

theorem raises_cloneTemplate (source : TemplateSource) (checkout : Path) (timeout : Int) :
    Raises Explained (cloneTemplate source checkout timeout) := by
  refine (raises_call _).bind fun reply => ?_
  cases reply with
  | timedOut => exact .fail (explained_configuration (by simp [toString]))
  | commandMissing => exact .fail (explained_configuration (by simp))
  | ended exit =>
    exact .ite (fun _ => .done ()) fun _ =>
      .fail (explained_configuration (by simp [toString]))
  | interrupted => exact .fail (explained_of_foreign rfl)
  | broken reason => exact .fail (explained_of_foreign rfl)

theorem raises_fetchTemplate (source : TemplateSource) (target : Path) (timeout : Int) :
    Raises Explained (fetchTemplate source target timeout) := by
  refine (Raises.printLine _).bind fun _ => (Raises.withScratch fun dir => ?_).bind fun _ =>
    (Raises.printLine _).bind fun _ => .done _
  refine (raises_cloneTemplate source _ timeout).bind fun _ =>
    (Raises.look explained_files _).bind fun there => .ite (fun _ => ?_) fun _ => ?_
  · exact .fail (explained_configuration (by simp [toString]))
  · exact .copyFile explained_files _ _

theorem raises_filesAmong (dir : Path) (candidates : List (List String)) :
    Raises Explained (filesAmong dir candidates) := by
  induction candidates with
  | nil => exact .done _
  | cons names rest ih =>
    exact (Raises.look explained_files _).bind fun here => ih.bind fun others => .done _

theorem raises_namesBelow (dir : Path) : Raises Explained (namesBelow dir) := by
  intro m e m' h
  unfold namesBelow at h
  split at h
  · cases h
  · cases h
    exact explained_files _

theorem raises_selectSubmission (dir : Path) : Raises Explained (selectSubmission dir) := by
  refine (Raises.look explained_files _).bind fun isDir => .ite (fun _ => ?_) fun _ => ?_
  · exact .fail (explained_submission (by simp))
  · refine (raises_namesBelow dir).bind fun names =>
      (raises_filesAmong dir _).bind fun candidates => ?_
    split
    · exact .fail (explained_submission (by decide))
    · exact .done _

theorem raises_placeSubmission (source target : Path) :
    Raises Explained (placeSubmission source target) :=
  (Raises.copyFile explained_files source target).bind fun _ => .done _

theorem raises_installSupportLibrary (project : Path) :
    Raises Explained (installSupportLibrary project) :=
  (Raises.look explained_files _).bind fun _ => .ite (fun _ => .done _) fun _ =>
    Raises.machine.bind fun _ => (Raises.copyFile explained_files _ _).bind fun _ =>
      (Raises.printLine _).bind fun _ => .done _

end Job

namespace Toolchain

open Job

variable (t : Toolchain)

/-- A condition on failures that a step of the build tool and an export meet: an export that fails
for a reason of its own says why. -/
structure Permits (P : Failure → Prop) : Prop where
  files : ∀ fault, P (.files fault)
  interrupted : P .interrupted
  broken : ∀ reason, P (.broken reason)
  badText : P .badText
  badValue : P .badValue
  tooDeep : P .tooDeep
  toolchain : ∀ details, details ≠ "" → P (.toolchain details)

theorem permits_explained : Permits Explained where
  files := explained_files
  interrupted := explained_of_foreign rfl
  broken _ := explained_of_foreign rfl
  badText := explained_of_foreign rfl
  badValue := explained_of_foreign rfl
  tooDeep := explained_of_foreign rfl
  toolchain _ _ := explained_toolchain _

section

variable {P : Failure → Prop} (permits : Permits P)

include permits

theorem raises_run (step : String) (arguments : List String) (searchPath : Option String) :
    Raises P (t.run step arguments searchPath) := by
  unfold run
  refine .optional (.printLine _) fun _ => (Raises.look permits.files _).bind fun project =>
    (Raises.call permits.interrupted permits.broken _).bind fun reply => ?_
  cases reply with
  | timedOut => exact .done _
  | commandMissing => exact .done _
  | ended exit => exact .optional (.printLines _) fun _ => .done _
  | interrupted => exact .fail permits.interrupted
  | broken reason => exact .fail (permits.broken reason)

theorem raises_searchPath (dir : Option Path) : Raises P (searchPath dir) := by
  cases dir with
  | none => exact .done _
  | some dir =>
    exact Raises.machine.bind fun m => (Raises.look permits.files _).bind fun dir => .done _

/-- **An export fails with a reason of its own, or as files and programs do.** -/
theorem raises_exportedJson (home : String) (path : Option String) :
    Raises P (t.exportedJson home path) := by
  refine .withScratch fun dir => Raises.machine.bind fun m =>
    (t.raises_run permits _ _ _).bind_of_ok fun result ran => .ite (fun failed => ?_) fun _ =>
      (Raises.look permits.files _).bind fun there => .ite (fun _ => ?_) fun _ => ?_
  · obtain ⟨m₁, m₂, ran⟩ := ran
    have explains := (reports_of_run ran).explains
    have said := BuildResult.details_ne_empty explains (by simpa using failed)
    exact .fail (permits.toolchain _ (said _))
  · exact .fail (permits.toolchain _ (by simp [toString]))
  · refine (Raises.readText permits.files permits.badText _).bind fun text => ?_
    split
    · exact .done _
    · next e _ =>
      exact .fail (e.failure_of (fun flaw => permits.toolchain _ (by simp [toString]))
        permits.badValue permits.tooDeep)

theorem raises_exportEnvironment (home : String) (dir : Option Path) :
    Raises P (t.exportEnvironment home dir) := by
  refine (raises_searchPath permits dir).bind fun path =>
    (t.raises_exportedJson permits home path).bind fun data => .ofExcept fun e he => ?_
  obtain ⟨flaw, -, rfl⟩ := exists_of_mapError he
  exact permits.toolchain _ (ne_empty_append (by decide) _)

end

theorem explained_referenceFailure (details : String) :
    (referenceFailure details).Explained :=
  explained_configuration (ne_empty_append (ne_empty_append (by decide) _) details)

theorem raises_compileReference (home : String) :
    Raises Explained (t.compileReference home) := by
  refine (Raises.printLine _).bind fun _ =>
    (t.raises_run permits_explained _ _ _).bind fun result =>
    .ite (fun _ => (Raises.printLine _).bind fun _ => .fail (explained_referenceFailure _))
      fun _ => ?_
  refine (t.raises_exportEnvironment permits_explained home none).attempt_bind (fun env => ?_)
    fun e he => ?_
  · exact (Raises.printLine _).bind fun _ => .done _
  · cases e with
    | toolchain details => exact .fail (explained_referenceFailure details)
    | _ => exact .fail he

theorem raises_tryCompile (source : Path) : Raises Explained (t.tryCompile source) := by
  have resolved : ∀ p, Raises Explained (resolve p) := fun p => .look explained_files _
  refine .withScratch fun dir => ((resolved _).bind fun object => (resolved _).bind fun source =>
    t.raises_run permits_explained _ _ _).bind fun result => .ite (fun _ => .done _) fun _ => ?_
  refine (t.raises_exportEnvironment permits_explained _ _).attempt_bind (fun env => ?_)
    fun e he => ?_
  · exact (Raises.printLine _).bind fun _ => .done _
  · cases e with
    | toolchain details => exact .done _
    | _ => exact .fail he

theorem raises_compileSubmission (source : Path) (reference : Environment) :
    Raises Explained (t.compileSubmission source reference) := by
  refine (Raises.printLine _).bind fun _ => (t.raises_tryCompile source).bind fun compiled => ?_
  cases compiled with
  | ok env => exact .done _
  | error details => exact (Raises.printLine _).bind fun _ => .done _

end Toolchain

/-! ## A whole grading -/

namespace GradingRun

open Job

theorem raises_announce (verdicts : List Verdict) : Raises Explained (announce verdicts) := by
  induction verdicts with
  | nil => exact .done ()
  | cons v rest ih =>
    unfold announce
    split
    · exact (Raises.printLine _).bind fun _ => ih
    · exact (Raises.done ()).bind fun _ => ih

theorem raises_gradeModule (reference submission : Environment) (home : String) :
    Raises Explained (gradeModule reference submission home) := by
  unfold gradeModule
  split
  · next e _ => exact .fail e.explained_failure
  · exact (raises_announce _).bind fun _ => .done _

theorem raises_gradeSubmission (t : Toolchain) (home : String) (submission : Path)
    (notes : List String) : Raises Explained (gradeSubmission t home submission notes) := by
  refine (t.raises_compileReference home).bind fun reference =>
    (t.raises_compileSubmission submission reference).bind fun compiled =>
      .optional (.printLine _) fun _ => (Raises.printLine _).bind fun _ =>
        (raises_gradeModule reference _ home).bind fun results =>
          (Raises.printLine _).bind fun _ => ?_
  split
  · exact .fail (explained_of_foreign rfl)
  · exact (Raises.printLines _).bind fun _ => .done _

theorem raises_sources (s : Settings) (given : Option (String × String)) :
    Raises Explained (sources s given) := by
  have fetched : Raises Explained (sources s none) :=
    (raises_loadTemplateSource _).bind fun template =>
      (raises_fetchTemplate template _ _).bind fun _ =>
        (raises_selectSubmission _).bind fun selection => (Raises.printLine _).bind fun _ =>
          (raises_placeSubmission _ _).bind fun placed => .done _
  cases given with
  | none => exact fetched
  | some given =>
    obtain ⟨home, file⟩ := given
    refine .ite (fun _ => fetched) fun _ => ?_
    refine (Raises.look explained_files _).bind fun isFile => .ite (fun _ => ?_) fun _ => .done _
    exact .fail (explained_submission (ne_empty_append (by decide) _))

/-- **A grading that fails with a failure of its own says why.** -/
theorem raises_report (s : Settings) (inv : Invocation) : Raises Explained (report s inv) :=
  (raises_sources s inv.given).bind fun _ => (raises_installSupportLibrary _).bind fun _ =>
    raises_gradeSubmission _ _ _ _

end GradingRun

/-! ## Reading settings -/

/-- A failure that is neither the grader's own nor an interrupt. -/
def Failure.IsForeign (f : Failure) : Prop := f.exitCode? = none ∧ f ≠ .interrupted

namespace Settings

open Failure (IsForeign)

theorem isForeign_wrongType : Failure.wrongType.IsForeign := ⟨rfl, Failure.noConfusion⟩

theorem isForeign_files (fault : FileFault) : (Failure.files fault).IsForeign :=
  ⟨rfl, Failure.noConfusion⟩

theorem isForeign_of_flaw (flaw : Yaml.Flaw) : flaw.failure.IsForeign := by
  cases flaw <;> exact ⟨rfl, Failure.noConfusion⟩

theorem eq_wrongType_of_pathAt {dir : Path} {v : Yaml.Value} {e : Failure}
    (h : pathAt dir v = .error e) : e = .wrongType := by
  unfold pathAt at h
  split at h
  · cases h
  · split at h
    · cases h
    · cases h
      rfl

theorem eq_wrongType_of_pathField {entries : Entries} {dir : Path} {key : String} {e : Failure}
    (h : pathField entries dir key = .error e) : e = .wrongType := by
  unfold pathField at h
  split at h
  · cases h
  · exact eq_wrongType_of_pathAt (error_of_map h)

theorem eq_wrongType_of_entriesOf {items : List (Yaml.Value × Yaml.Value)} {e : Failure}
    (h : entriesOf items = .error e) : e = .wrongType := by
  fun_induction entriesOf items with
  | case1 => cases h
  | case2 key v rest ih => exact ih (error_of_map h)
  | case3 =>
    cases h
    rfl

theorem isForeign_of_ofEntries {dir : Path} {entries : Entries} {e : Failure}
    (h : ofEntries dir entries = .error e) : e.IsForeign := by
  have field : ∀ key e, pathField entries dir key = .error e → e.IsForeign :=
    fun _ _ failed => eq_wrongType_of_pathField failed ▸ isForeign_wrongType
  refine error_of_bind (field _) (fun project _ _ h => ?_) h
  refine error_of_bind (field _) (fun submissions _ _ h => ?_) h
  refine error_of_bind (field _) (fun provisioning _ _ h => ?_) h
  refine error_of_bind (field _) (fun results _ _ h => ?_) h
  obtain ⟨flaws, -, rfl⟩ := exists_of_mapError h
  exact ⟨rfl, Failure.noConfusion⟩

theorem isForeign_of_ofValue {dir : Path} {v : Yaml.Value} {e : Failure}
    (h : ofValue dir v = .error e) : e.IsForeign := by
  unfold ofValue at h
  split at h
  · cases h
  · split at h
    · exact error_of_bind
        (fun _ failed => eq_wrongType_of_entriesOf failed ▸ isForeign_wrongType)
        (fun _ _ _ => isForeign_of_ofEntries) h
    · cases h
      exact isForeign_wrongType

theorem raises_load (p : Path) : Job.Raises IsForeign (load p) := by
  refine (Job.Raises.look isForeign_files _).bind fun there =>
    .ite (fun _ => .fail ⟨rfl, Failure.noConfusion⟩) fun _ =>
      (Job.Raises.look isForeign_files _).bind fun data => ?_
  split
  · exact .ofExcept fun _ => isForeign_of_ofValue
  · exact .fail (isForeign_of_flaw _)

/-- **Reading settings is never interrupted**, nor does it fail with a failure of the grader's
own. -/
theorem raises_find (p : Path) : Job.Raises IsForeign (find p) := by
  refine .ite (fun _ => ?_) fun _ => raises_load p
  exact (Job.Raises.look isForeign_files _).bind fun there =>
    .ite (fun _ => raises_load p) fun _ => .done _

end Settings

end ProofGrading
