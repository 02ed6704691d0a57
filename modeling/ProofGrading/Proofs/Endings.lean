import ProofGrading.Host.Machine

/-!
# Proofs/Endings — what has been done when there is a value

What ended with a value went through all of its parts.  Of a result that went on, both parts are
there (`exists_of_bind_eq_ok`); of a job each part ended with a value on the machine that the one
before it left (`Job.bind_eq_ok_iff`), also in a temporary directory (`Job.withScratch_eq_ok_iff`).
-/

namespace ProofGrading

/-! ## Results -/

theorem eq_ok_of_mapError {ε ε' α : Type} {x : Except ε α} {f : ε → ε'} {a : α}
    (h : x.mapError f = .ok a) : x = .ok a := by
  cases x with
  | ok b => exact congrArg Except.ok (Except.ok.inj h)
  | error e => cases h

theorem exists_of_map_eq_ok {ε α β : Type} {x : Except ε α} {f : α → β} {b : β}
    (h : x.map f = .ok b) : ∃ a, x = .ok a ∧ f a = b := by
  cases x with
  | ok a => exact ⟨a, rfl, Except.ok.inj h⟩
  | error e => cases h

theorem exists_of_bind_eq_ok {ε α β : Type} {x : Except ε α} {next : α → Except ε β} {b : β}
    (h : (x >>= next) = .ok b) : ∃ a, x = .ok a ∧ next a = .ok b := by
  cases x with
  | ok a => exact ⟨a, rfl, h⟩
  | error e => cases h

/-! ## Jobs -/

/-- The reply that the next call gets. -/
def Machine.upcoming (m : Machine) : Reply := (Job.nextReply m.replies).1

namespace Job

variable {α β : Type} {job : Job α} {next : α → Job β} {m m' : Machine} {a : α} {b : β}

/-- **A job that goes on ended with a value when both parts did.** -/
theorem bind_eq_ok_iff : (job >>= next) m = (.ok b, m') ↔
    ∃ a m₁, job m = (.ok a, m₁) ∧ next a m₁ = (.ok b, m') := by
  constructor
  · intro h
    rcases hj : job m with ⟨r, m₁⟩
    cases r with
    | ok a => exact ⟨a, m₁, rfl, bind_ok hj next ▸ h⟩
    | error e =>
      rw [bind_error hj] at h
      cases h
  · rintro ⟨a, m₁, hj, h⟩
    rw [bind_ok hj, h]

/-- **How a job that goes on ends**: where its first part failed, or as its second part does. -/
theorem bind_cases {r : Except Failure β} (h : (job >>= next) m = (r, m')) :
    (∃ e, job m = (.error e, m') ∧ r = .error e) ∨
      ∃ a m₁, job m = (.ok a, m₁) ∧ next a m₁ = (r, m') := by
  rcases hj : job m with ⟨r₁, m₁⟩
  cases r₁ with
  | error e =>
    rw [bind_error hj] at h
    cases h
    exact .inl ⟨e, rfl, rfl⟩
  | ok a => exact .inr ⟨a, m₁, rfl, (bind_ok hj next).symm.trans h⟩

/-- What goes on from one job goes on from another one that ended the same. -/
theorem bind_congr_at {job' : Job α} (h : job m = job' m') (next : α → Job β) :
    (job >>= next) m = (job' >>= next) m' := by
  show andThen job next m = andThen job' next m'
  rw [andThen, andThen, h]

/-- A step that may be left out was, or it ended too. -/
theorem optional_eq_ok {c : Prop} [Decidable c] {step : Job Unit} {rest : Job α}
    (h : (if c then step >>= fun _ => rest else rest) m = (.ok a, m')) :
    ∃ m₁, (m₁ = m ∨ step m = (.ok (), m₁)) ∧ rest m₁ = (.ok a, m') := by
  split at h
  · obtain ⟨_, m₁, stepped, h⟩ := bind_eq_ok_iff.1 h
    exact ⟨m₁, Or.inr stepped, h⟩
  · exact ⟨m, Or.inl rfl, h⟩

/-- Looking at the files leaves the machine as it is. -/
theorem eq_of_look {f : FileTree → Location → Except FileFault α} {r : Except Failure α}
    (h : look f m = (r, m')) : m' = m := (Prod.mk.inj h).2.symm

/-- What is caught is what a job ended with. -/
theorem attempt_eq_ok_iff {r : Except Failure α} :
    attempt job m = (.ok r, m') ↔ job m = (r, m') := by
  rcases hj : job m with ⟨r₁, m₁⟩
  simp [attempt, hj]

/-- What follows a job that is caught follows whatever it ended with. -/
theorem exists_of_attempt {next : Except Failure α → Job β} {r : Except Failure β}
    (h : (attempt job >>= next) m = (r, m')) :
    ∃ ended m₁, job m = (ended, m₁) ∧ next ended m₁ = (r, m') := by
  rcases ended : job m with ⟨r₁, m₁⟩
  exact ⟨r₁, m₁, rfl, (bind_ok (attempt_eq_ok_iff.2 ended) next).symm.trans h⟩

/-- **Work in a temporary directory** ends with a value when it does so there; the directory is then
removed. -/
theorem withScratch_eq_ok_iff {work : Path → Job α} : withScratch work m = (.ok a, m') ↔
    ∃ dir m₁ m₂, makeScratch m = (.ok dir, m₁) ∧ work dir m₁ = (.ok a, m₂) ∧
      m' = { m₂ with tree := m₂.tree.prune dir.names } := by
  unfold withScratch
  simp only [bind_eq_ok_iff, attempt_eq_ok_iff]
  constructor
  · rintro ⟨dir, m₁, prepared, r, m₂, worked, _, _, removed, ended⟩
    obtain ⟨-, rfl⟩ := Prod.mk.inj removed
    obtain ⟨rfl, rfl⟩ := Prod.mk.inj ended
    exact ⟨dir, m₁, m₂, prepared, worked, rfl⟩
  · rintro ⟨dir, m₁, m₂, prepared, worked, rfl⟩
    exact ⟨dir, m₁, prepared, .ok a, m₂, worked, (), _, rfl, rfl⟩

/-- Work in a temporary directory, from its parts. -/
theorem withScratch_eq {work : Path → Job α} {dir : Path} {m₁ m₂ : Machine}
    {r : Except Failure α} (prepared : makeScratch m = (.ok dir, m₁))
    (worked : work dir m₁ = (r, m₂)) :
    withScratch work m = (r, { m₂ with tree := m₂.tree.prune dir.names }) := by
  unfold withScratch
  rw [bind_ok prepared, bind_ok (attempt_eq_ok_iff.2 worked)]
  rfl

/-- Work in a temporary directory, however it ends. -/
theorem exists_of_withScratch {work : Path → Job α} {r : Except Failure α}
    (h : withScratch work m = (r, m')) : ∃ dir m₁ m₂, makeScratch m = (.ok dir, m₁) ∧
      work dir m₁ = (r, m₂) ∧ m' = { m₂ with tree := m₂.tree.prune dir.names } := by
  rcases prepared : makeScratch m with ⟨made, m₁⟩
  obtain ⟨dir, rfl⟩ : ∃ dir, made = .ok dir := ⟨_, (Prod.mk.inj prepared).1.symm⟩
  rcases worked : work dir m₁ with ⟨ended, m₂⟩
  rw [withScratch_eq prepared worked] at h
  obtain ⟨rfl, rfl⟩ := Prod.mk.inj h
  exact ⟨dir, m₁, m₂, rfl, worked, rfl⟩

/-- A call that ended got the next reply. -/
theorem eq_upcoming_of_call {c : Call} {reply : Reply} (h : call c m = (.ok reply, m')) :
    reply = m.upcoming := by
  unfold call at h
  dsimp only at h
  split at h <;> cases h <;> rfl

/-- Printing a line only lengthens what was printed. -/
theorem printLine_bind (line : String) (next : Unit → Job β) (m : Machine) :
    (printLine line >>= next) m = next () { m with printed := m.printed ++ (line ++ "\n") } := rfl

/-- Printing lines always ends. -/
theorem exists_printLines (lines : List String) (m : Machine) :
    ∃ m', printLines lines m = (.ok (), m') := by
  induction lines generalizing m with
  | nil => exact ⟨m, rfl⟩
  | cons line rest ih =>
    obtain ⟨m', h⟩ := ih { m with printed := m.printed ++ (line ++ "\n") }
    exact ⟨m', bind_eq_ok_iff.2 ⟨(), _, rfl, h⟩⟩

end Job

end ProofGrading
