import ProofGrading.Proofs.Degrading

/-!
# Proofs/Effects — what a job does to the machine, however it ends

`Job.Moves R` says that a job leaves every machine in the relation `R` to what it was, whether it
ends with a value or a failure.  For a reflexive and transitive relation this is kept by every way
of putting jobs together.  Main statement: the jobs that look and tell, and do nothing else, only
print (`Job.Reads`); reading settings, choosing the upload and grading are such jobs.
-/

namespace ProofGrading

/-- **Whatever a job ends with**, it leaves the machine in a relation to what it was. -/
def Job.Moves {α : Type} (R : Machine → Machine → Prop) (job : Job α) : Prop := ∀ m, R m (job m).2

/-- A relation that holds when nothing is done, and of what is done one after the other. -/
structure Machine.Lasting (R : Machine → Machine → Prop) : Prop where
  refl : ∀ m, R m m
  trans : ∀ {m₁ m₂ m₃}, R m₁ m₂ → R m₂ m₃ → R m₁ m₃

open Machine (Lasting)

namespace Job

variable {α β : Type} {R R' : Machine → Machine → Prop} {job : Job α} {next : α → Job β}

theorem Moves.mono (h : Moves R job) (weaker : ∀ m m', R m m' → R' m m') : Moves R' job :=
  fun m => weaker _ _ (h m)

theorem Moves.at_end (h : Moves R job) {m m' : Machine} {r : Except Failure α}
    (ended : job m = (r, m')) : R m m' := by
  have related := h m
  rwa [ended] at related

/-- Only naming the value changes nothing. -/
theorem snd_bind_pure (job : Job α) (f : α → β) (m : Machine) :
    ((job >>= fun a => pure (f a)) m).2 = (job m).2 := by
  rcases hj : job m with ⟨r, m₁⟩
  cases r with
  | ok a => rw [bind_ok hj, pure_apply]
  | error e => rw [bind_error hj]

/-- After a job that ended with a value comes the next, and after one that failed nothing. -/
theorem moves_bind_at (lasting : Lasting R) {m : Machine} (h : R m (job m).2)
    (hn : ∀ a m₁, job m = (.ok a, m₁) → R m₁ (next a m₁).2) : R m ((job >>= next) m).2 := by
  rcases hj : job m with ⟨r, m₁⟩
  rw [hj] at h
  cases r with
  | ok a =>
    rw [bind_ok hj]
    exact lasting.trans h (hn a m₁ hj)
  | error e =>
    rw [bind_error hj]
    exact h

namespace Moves

theorem done (lasting : Lasting R) (a : α) : Moves R (Job.done a) := lasting.refl

theorem fail (lasting : Lasting R) (e : Failure) : Moves R (Job.fail e : Job α) := lasting.refl

theorem ofExcept (lasting : Lasting R) (r : Except Failure α) : Moves R (Job.ofExcept r) :=
  lasting.refl

theorem machine (lasting : Lasting R) : Moves R Job.machine := lasting.refl

theorem look (lasting : Lasting R) (f : FileTree → Location → Except FileFault α) :
    Moves R (Job.look f) := lasting.refl

/-- What comes after has only to be looked at for values that what comes before can have. -/
theorem bind_of_ok (lasting : Lasting R) (h : Moves R job)
    (hn : ∀ a, (∃ m m', job m = (.ok a, m')) → Moves R (next a)) : Moves R (job >>= next) :=
  fun m => moves_bind_at lasting (h m) fun a m₁ hj => hn a ⟨m, m₁, hj⟩ m₁

theorem bind (lasting : Lasting R) (h : Moves R job) (hn : ∀ a, Moves R (next a)) :
    Moves R (job >>= next) := h.bind_of_ok lasting fun a _ => hn a

/-- What a job did before it failed is done, also where the failure is caught. -/
theorem attempt (h : Moves R job) : Moves R (Job.attempt job) := fun m => by
  have same : (Job.attempt job m).2 = (job m).2 := rfl
  exact same ▸ h m

theorem ite {c : Prop} [Decidable c] {other : Job α} (h : c → Moves R job)
    (ho : ¬c → Moves R other) : Moves R (if c then job else other) := by
  split
  · next hc => exact h hc
  · next hc => exact ho hc

/-- A step that may be left out. -/
theorem optional (lasting : Lasting R) {c : Prop} [Decidable c] {step : Job Unit}
    {next : Unit → Job α} (h : Moves R step) (hn : ∀ u, Moves R (next u)) :
    Moves R (if c then step >>= next else next ()) :=
  ite (fun _ => h.bind lasting hn) fun _ => hn ()

end Moves

end Job

/-! ## Jobs that look and tell -/

/-- A machine is as it was, but for what was printed. -/
def Machine.Prints (m m' : Machine) : Prop := m' = { m with printed := m'.printed }

namespace Machine

theorem lasting_prints : Lasting Prints where
  refl _ := rfl
  trans h h' := by
    unfold Prints at *
    rw [h', h]

end Machine

/-- **A job that looks and tells** changes nothing but what was printed. -/
abbrev Job.Reads {α : Type} (job : Job α) : Prop := Job.Moves Machine.Prints job

namespace Job

open Machine (lasting_prints)

theorem reads_printLine [Console] (line : String) : Reads (printLine line) := by
  intro m
  unfold printLine print
  split <;> rfl

theorem reads_printLines [Console] (lines : List String) : Reads (printLines lines) := by
  induction lines with
  | nil => exact .done lasting_prints ()
  | cons line rest ih => exact (reads_printLine line).bind lasting_prints fun _ => ih

theorem reads_readText (p : Path) : Reads (readText p) := by
  refine .bind lasting_prints (.look lasting_prints _) fun data => ?_
  split
  · exact .done lasting_prints _
  · exact .fail lasting_prints _

theorem reads_loadTemplateSource (p : Path) : Reads (loadTemplateSource p) := by
  refine .bind lasting_prints (.look lasting_prints _) fun there =>
    .ite (fun _ => .fail lasting_prints _) fun _ => ?_
  refine (reads_readText p).bind lasting_prints fun text => ?_
  split
  · exact .fail lasting_prints _
  · split
    · exact .done lasting_prints _
    · exact .fail lasting_prints _
  · exact .fail lasting_prints _

theorem reads_filesAmong (dir : Path) (candidates : List (List String)) :
    Reads (filesAmong dir candidates) := by
  induction candidates with
  | nil => exact .done lasting_prints _
  | cons names rest ih =>
    exact .bind lasting_prints (.look lasting_prints _) fun here =>
      ih.bind lasting_prints fun others => .done lasting_prints _

theorem reads_namesBelow (dir : Path) : Reads (namesBelow dir) := by
  intro m
  unfold namesBelow
  split <;> rfl

/-- **Choosing the upload** changes nothing. -/
theorem reads_selectSubmission (dir : Path) : Reads (selectSubmission dir) := by
  refine .bind lasting_prints (.look lasting_prints _) fun isDir =>
    .ite (fun _ => .fail lasting_prints _) fun _ => ?_
  refine (reads_namesBelow dir).bind lasting_prints fun names =>
    (reads_filesAmong dir _).bind lasting_prints fun candidates => ?_
  split
  · exact .fail lasting_prints _
  · exact .done lasting_prints _

end Job

open Job
open Machine (lasting_prints)

theorem Toolchain.reads_searchPath (dir : Option Path) : Reads (searchPath dir) := by
  cases dir with
  | none => exact .done lasting_prints _
  | some dir =>
    exact .bind lasting_prints (.machine lasting_prints) fun m =>
      .bind lasting_prints (.look lasting_prints _) fun dir => .done lasting_prints _

namespace Settings

variable {R : Machine → Machine → Prop}

theorem moves_load (lasting : Lasting R) (p : Path) : Moves R (load p) := by
  refine .bind lasting (.look lasting _) fun there =>
    .ite (fun _ => .fail lasting _) fun _ => ?_
  refine .bind lasting (.look lasting _) fun data => ?_
  split
  · exact .ofExcept lasting _
  · exact .fail lasting _

/-- Looking for settings does nothing that any lasting relation could tell. -/
theorem moves_find (lasting : Lasting R) (p : Path) : Moves R (find p) :=
  .ite (fun _ => .bind lasting (.look lasting _) fun _ =>
    .ite (fun _ => moves_load lasting p) fun _ => .done lasting _) fun _ => moves_load lasting p

/-- **Reading settings** changes nothing. -/
theorem reads_find (p : Path) : Reads (find p) := moves_find lasting_prints p

end Settings

namespace GradingRun

theorem reads_announce (verdicts : List Verdict) : Reads (announce verdicts) := by
  induction verdicts with
  | nil => exact .done lasting_prints ()
  | cons v rest ih =>
    unfold announce
    split
    · exact (reads_printLine _).bind lasting_prints fun _ => ih
    · exact .bind lasting_prints (.done lasting_prints ()) fun _ => ih

/-- **Grading a module** changes nothing. -/
theorem reads_gradeModule (reference submission : Environment) (home : String) :
    Reads (gradeModule reference submission home) := by
  unfold gradeModule
  split
  · exact .fail lasting_prints _
  · exact (reads_announce _).bind lasting_prints fun _ => .done lasting_prints _

theorem reads_reportOn (told : List String) (results : List ExerciseResult) :
    Reads (reportOn told results) := by
  refine (reads_printLine _).bind lasting_prints fun _ => ?_
  split
  · exact .fail lasting_prints _
  · exact (reads_printLines _).bind lasting_prints fun _ => .done lasting_prints _

end GradingRun

end ProofGrading
