import ProofGrading.Proofs.Calls

/-!
# Proofs/SideBySide — two jobs on two machines

`Job.Mirrors R job job'` says that on machines in the relation `R` the two jobs end alike, with one
value or with one failure, and leave machines in `R` again.  `Job.Follows P job job' m` says this of
a machine and of one that differs in what was printed, as long as the calls that the first job makes
are answered as `P` asks.  Putting jobs together keeps both.  Main statement: a step that prints may
be left out on one side, if the console takes all that the other side prints
(`Job.Follows.optional`, `Job.Follows.announced`).
-/

namespace ProofGrading

/-- **Two jobs end alike** on two machines, and leave them related. -/
structure Job.Alike {α : Type} (R : Machine → Machine → Prop) (job job' : Job α) (m m' : Machine) :
    Prop where
  ended : (job m).1 = (job' m').1
  left : R (job m).2 (job' m').2

/-- **Two jobs go side by side**: on related machines they end alike and leave related machines. -/
def Job.Mirrors {α : Type} (R : Machine → Machine → Prop) (job job' : Job α) : Prop :=
  ∀ m m', R m m' → Job.Alike R job job' m m'

/-! ## Calls and their replies -/

namespace Machine

variable {m m₁ m' : Machine} {made made' : List Call} {P : Call → Reply → Prop}

/-- The reply to the call that comes after some others. -/
def reply (m : Machine) (before : Nat) : Reply := (Job.nextReply (m.replies.drop before)).1

/-- **Calls are answered as a condition asks**, each by its reply. -/
def Answered (m : Machine) (P : Call → Reply → Prop) (made : List Call) : Prop :=
  ∀ (i : Nat) (c : Call), made[i]? = some c → P c (m.reply i)

theorem Answered.left (h : m.Answered P (made ++ made')) : m.Answered P made := by
  intro i c called
  refine h i c ?_
  rw [List.getElem?_append_left (List.getElem?_eq_some_iff.1 called).1, called]

theorem Answered.right (h : m.Answered P (made ++ made')) (makes : m.Makes made m₁) :
    m₁.Answered P made' := by
  intro i c called
  have answered := h (made.length + i) c (by
    rw [List.getElem?_append_right (Nat.le_add_right _ _), Nat.add_sub_cancel_left, called])
  rwa [reply, ← List.drop_drop, ← makes.replies] at answered

/-- The calls between two machines are told by what the machines have on record. -/
theorem Makes.unique (h : m.Makes made m') (h' : m.Makes made' m') : made = made' :=
  List.append_cancel_left (h.calls.symm.trans h'.calls)

end Machine

namespace Job

variable {α β : Type} {R : Machine → Machine → Prop} {job job' : Job α} {next next' : α → Job β}
  {m m' : Machine}

open Machine (Prints lasting_prints)

/-- Jobs that come to jobs that end alike end alike. -/
theorem Alike.of_eq {job₁ job₁' : Job α} {m₁ m₁' : Machine} (h : Alike R job₁ job₁' m₁ m₁')
    (same : job m = job₁ m₁) (same' : job' m' = job₁' m₁') : Alike R job job' m m' where
  ended := by rw [same, same', h.ended]
  left := by
    rw [same, same']
    exact h.left

/-- What comes after has only to end alike for one value on both sides. -/
theorem Alike.bind (h : Alike R job job' m m') (hn : ∀ a m₁ m₁', job m = (.ok a, m₁) →
    R m₁ m₁' → Alike R (next a) (next' a) m₁ m₁') :
    Alike R (job >>= next) (job' >>= next') m m' := by
  obtain ⟨same, after⟩ := h
  rcases hj : job m with ⟨r, m₁⟩
  rcases hj' : job' m' with ⟨r', m₁'⟩
  rw [hj, hj'] at same after
  obtain rfl : r = r' := same
  cases r with
  | ok a => exact (hn a m₁ m₁' hj after).of_eq (bind_ok hj next) (bind_ok hj' next')
  | error e =>
    refine ⟨?_, ?_⟩ <;> rw [bind_error hj, bind_error hj']
    exact after

namespace Mirrors

theorem done (a : α) : Mirrors R (Job.done a) (Job.done a) := fun _ _ related => ⟨rfl, related⟩

theorem fail (e : Failure) : Mirrors R (Job.fail e : Job α) (Job.fail e) :=
  fun _ _ related => ⟨rfl, related⟩

theorem ofExcept (r : Except Failure α) : Mirrors R (Job.ofExcept r) (Job.ofExcept r) :=
  fun _ _ related => ⟨rfl, related⟩

theorem bind (h : Mirrors R job job') (hn : ∀ a, Mirrors R (next a) (next' a)) :
    Mirrors R (job >>= next) (job' >>= next') :=
  fun m m' related => (h m m' related).bind fun a m₁ m₁' _ => hn a m₁ m₁'

theorem ite {c : Prop} [Decidable c] {other other' : Job α} (h : c → Mirrors R job job')
    (ho : ¬c → Mirrors R other other') :
    Mirrors R (if c then job else other) (if c then job' else other') := by
  split
  · next hc => exact h hc
  · next hc => exact ho hc

end Mirrors

/-- A call is made whatever comes after it. -/
theorem makes_call_bind {c : Call} {next : Reply → Job α} (quiet : ∀ reply, IsQuiet (next reply))
    (m : Machine) : m.Makes [c] ((call c >>= next) m).2 := by
  have makes := makes_call c m
  rcases called : call c m with ⟨r, m₁⟩
  rw [called] at makes
  cases r with
  | ok reply => exact (bind_ok called next).symm ▸ makes.quiet (quiet reply m₁)
  | error e => exact (bind_error called next).symm ▸ makes

/-! ## Jobs that cannot tell what was printed -/

variable {P : Call → Reply → Prop}

/-- **A job is followed by another one**: on a machine that differs only in what was printed the
other ends alike and leaves such a machine again, if the calls that the first one makes are answered
as a condition asks. -/
def Follows (P : Call → Reply → Prop) (job job' : Job α) (m : Machine) : Prop :=
  ∃ made, m.Makes made (job m).2 ∧
    (m.Answered P made → ∀ m', m.Prints m' → Alike Prints job job' m m')

namespace Follows

/-- A job without calls is followed if it ends alike whatever was printed before. -/
theorem of_quiet (quiet : m.Quiet (job m).2)
    (h : ∀ text, Alike Prints job job' m { m with printed := text }) : Follows P job job' m := by
  refine ⟨[], quiet, fun _ m' prints => ?_⟩
  have same : m' = { m with printed := m'.printed } := prints
  rw [same]
  exact h m'.printed

/-- The condition on the calls of a job may be used to show that it is followed. -/
theorem of_answered {made : List Call} (makes : m.Makes made (job m).2)
    (h : m.Answered P made → Follows P job job' m) : Follows P job job' m := by
  refine ⟨made, makes, fun answered => ?_⟩
  obtain ⟨made', makes', alike⟩ := h answered
  exact alike (makes.unique makes' ▸ answered)

theorem done (a : α) : Follows P (Job.done a) (Job.done a) m :=
  of_quiet (.refl m) fun _ => ⟨rfl, rfl⟩

theorem fail (e : Failure) : Follows P (Job.fail e : Job α) (Job.fail e) m :=
  of_quiet (.refl m) fun _ => ⟨rfl, rfl⟩

theorem ofExcept (r : Except Failure α) : Follows P (Job.ofExcept r) (Job.ofExcept r) m :=
  of_quiet (.refl m) fun _ => ⟨rfl, rfl⟩

theorem bind (h : Follows P job job' m)
    (hn : ∀ a m₁, job m = (.ok a, m₁) → Follows P (next a) (next' a) m₁) :
    Follows P (job >>= next) (job' >>= next') m := by
  obtain ⟨made, makes, alike⟩ := h
  rcases hj : job m with ⟨r, m₁⟩
  rw [hj] at makes
  cases r with
  | error e =>
    refine ⟨made, (bind_error hj next).symm ▸ makes, fun answered m' prints => ?_⟩
    exact (alike answered m' prints).bind fun a m₂ _ ended _ => by rw [hj] at ended; cases ended
  | ok a =>
    obtain ⟨made', makes', alike'⟩ := hn a m₁ hj
    refine ⟨made ++ made', (bind_ok hj next).symm ▸ makes.trans makes',
      fun answered m' prints => ?_⟩
    refine (alike answered.left m' prints).bind fun b m₂ m₂' ended related => ?_
    rw [hj] at ended
    cases ended
    exact alike' (answered.right makes) m₂' related

theorem attempt (h : Follows P job job' m) : Follows P (Job.attempt job) (Job.attempt job') m := by
  obtain ⟨made, makes, alike⟩ := h
  refine ⟨made, makes, fun answered m' prints => ?_⟩
  obtain ⟨ended, left⟩ := alike answered m' prints
  exact ⟨congrArg Except.ok ended, left⟩

theorem ite {c : Prop} [Decidable c] {other other' : Job α} (h : c → Follows P job job' m)
    (ho : ¬c → Follows P other other' m) :
    Follows P (if c then job else other) (if c then job' else other') m := by
  split
  · next hc => exact h hc
  · next hc => exact ho hc

/-- What reads the machine goes on alike if it does not read what was printed. -/
theorem machine {next next' : Machine → Job β}
    (same : ∀ text, next' { m with printed := text } = next' m)
    (hn : Follows P (next m) (next' m) m) :
    Follows P (Job.machine >>= next) (Job.machine >>= next') m := by
  obtain ⟨made, makes, alike⟩ := hn
  refine ⟨made, makes, fun answered m' prints => ?_⟩
  have read : next' m' = next' m := by
    rw [prints]
    exact same _
  exact (alike answered m' prints).of_eq rfl (congrFun read m')

/-! ## Files and calls -/

theorem look (f : FileTree → Location → Except FileFault α) :
    Follows P (Job.look f) (Job.look f) m :=
  of_quiet (.refl m) fun _ => ⟨rfl, rfl⟩

theorem change (f : FileTree → Location → Except FileFault FileTree) :
    Follows P (Job.change f) (Job.change f) m := by
  refine of_quiet (quiet_change f m) fun text => ?_
  constructor <;> unfold Job.change <;> dsimp only <;> split <;> rfl

theorem makeDirectories (p : Path) :
    Follows P (Job.makeDirectories p) (Job.makeDirectories p) m := by
  refine of_quiet (quiet_makeDirectories p m) fun text => ?_
  constructor <;> unfold Job.makeDirectories <;> dsimp only <;> split <;> rfl

theorem call (c : Call) : Follows P (Job.call c) (Job.call c) m := by
  refine ⟨[c], makes_call c m, fun _ m' prints => ?_⟩
  rw [prints]
  constructor <;> unfold Job.call <;> dsimp only <;> split <;> rfl

/-- **After a call** a job has only to be followed for a reply that the condition allows. -/
theorem call_bind {c : Call} {next next' : Reply → Job α} (quiet : ∀ reply, IsQuiet (next reply))
    (hn : ∀ reply m₁, P c reply → Follows P (next reply) (next' reply) m₁) :
    Follows P (Job.call c >>= next) (Job.call c >>= next') m := by
  refine of_answered (makes_call_bind quiet m) fun answered =>
    (call c).bind fun reply m₁ called => hn reply m₁ ?_
  rw [eq_upcoming_of_call called]
  exact answered 0 c rfl

theorem readText (p : Path) : Follows P (Job.readText p) (Job.readText p) m := by
  refine (look _).bind fun data m₁ _ => ?_
  split
  · exact .done _
  · exact .fail _

theorem writeText (p : Path) (text : String) :
    Follows P (Job.writeText p text) (Job.writeText p text) m := by
  unfold Job.writeText
  split
  · exact .fail _
  · exact (makeDirectories _).bind fun _ _ _ => change _

theorem copyFile (source target : Path) :
    Follows P (Job.copyFile source target) (Job.copyFile source target) m :=
  (makeDirectories _).bind fun _ _ _ => change _

/-- A step on the files and nothing else. -/
theorem modify_tree (f : FileTree → FileTree) :
    Follows P (Job.modify fun m => { m with tree := f m.tree })
      (Job.modify fun m => { m with tree := f m.tree }) m :=
  of_quiet (.of_eq rfl rfl) fun _ => ⟨rfl, rfl⟩

/-- Work in a temporary directory is followed by other work there. -/
theorem withScratch {work work' : Path → Job α}
    (h : ∀ dir m₁, makeScratch m = (.ok dir, m₁) → Follows P (work dir) (work' dir) m₁) :
    Follows P (Job.withScratch work) (Job.withScratch work') m := by
  have prepares : Follows P makeScratch makeScratch m :=
    of_quiet (.of_eq rfl rfl) fun _ => ⟨rfl, rfl⟩
  exact prepares.bind fun dir m₁ made => (h dir m₁ made).attempt.bind fun r _ _ =>
    (modify_tree (·.prune dir.names)).bind fun _ _ _ => .ofExcept r

end Follows

/-! ## Printing -/

/-- A step that prints and always ends. -/
def Tells (step : Job Unit) : Prop :=
  ∀ m, ∃ text, step m = (.ok (), { m with printed := text })

/-- **A step that prints may be left out** where the other side takes it, if it always ends; the
calls that are made without it may be used to show that. -/
theorem Follows.optional {c c' : Prop} [Decidable c] [Decidable c'] {step : Job Unit}
    {next next' : Unit → Job α} (more : c → c') (both : Follows P step step m)
    (tells : ¬c → ∀ made, m.Makes made (next () m).2 → m.Answered P made → Tells step)
    (hn : ∀ m₁, Follows P (next ()) (next' ()) m₁) :
    Follows P (if c then step >>= next else next ()) (if c' then step >>= next' else next' ())
      m := by
  by_cases hc : c
  · rw [if_pos hc, if_pos (more hc)]
    exact both.bind fun _ m₁ _ => hn m₁
  · rw [if_neg hc]
    by_cases hc' : c'
    · rw [if_pos hc']
      obtain ⟨made, makes, alike⟩ := hn m
      refine ⟨made, makes, fun answered m' prints => ?_⟩
      obtain ⟨text, told⟩ := tells hc made makes answered m'
      have prints' : m.Prints { m' with printed := text } := lasting_prints.trans prints rfl
      exact (alike answered _ prints').of_eq rfl (bind_ok told next')
    · rw [if_neg hc']
      exact hn m

/-- A path with names that files can have is resolved. -/
theorem exists_resolve {p : Path} (sound : p.names.findSome? FileTree.nameFault? = none)
    (m : Machine) : ∃ q, resolve p m = (.ok q, m) := by
  refine ⟨⟨.single, m.tree.resolveNames (if p.isAbsolute then [] else m.home) p.names⟩, ?_⟩
  refine Prod.ext ?_ rfl
  change (m.tree.resolve m.home p).mapError Failure.files = _
  rw [FileTree.resolve, sound]
  rfl

section

variable [Console]

theorem printLine_of_takes {line : String} (takes : Console.takes (line ++ "\n") = true)
    (m : Machine) :
    printLine line m = (.ok (), { m with printed := m.printed ++ (line ++ "\n") }) :=
  if_pos takes

theorem tells_printLine {line : String} (takes : Console.takes (line ++ "\n") = true) :
    Tells (printLine line) := fun m => ⟨_, printLine_of_takes takes m⟩

theorem tells_printLines {lines : List String}
    (takes : ∀ line ∈ lines, Console.takes (line ++ "\n") = true) : Tells (printLines lines) := by
  intro m
  induction lines generalizing m with
  | nil => exact ⟨m.printed, rfl⟩
  | cons line rest ih =>
    obtain ⟨first, others⟩ := List.forall_mem_cons.1 takes
    obtain ⟨text, told⟩ := ih others { m with printed := m.printed ++ (line ++ "\n") }
    exact ⟨text, (bind_ok (printLine_of_takes first m) _).trans told⟩

namespace Follows

/-- A line goes unnoticed, whether the console takes it or not. -/
theorem printLine (line : String) : Follows P (printLine line) (printLine line) m := by
  refine of_quiet (reads_printLine line m).quiet fun text => ?_
  constructor <;> unfold Job.printLine print <;> split <;> rfl

theorem printLines (lines : List String) : Follows P (printLines lines) (printLines lines) m := by
  induction lines generalizing m with
  | nil => exact .done ()
  | cons line rest ih => exact (printLine line).bind fun _ _ _ => ih

/-- **A call may be announced on one side only**, if the console takes the line whatever the reply:
the call is made, for its directory can be resolved. -/
theorem announced {c c' : Prop} [Decidable c] [Decidable c'] {line : String} {p : Path}
    {calls : Path → Call} {next next' : Reply → Job α} (more : c → c')
    (sound : p.names.findSome? FileTree.nameFault? = none)
    (taken : ¬c → ∀ dir reply, P (calls dir) reply → Console.takes (line ++ "\n") = true)
    (quiet : ∀ reply, IsQuiet (next reply))
    (hn : ∀ dir reply m₁, P (calls dir) reply → Follows P (next reply) (next' reply) m₁) :
    Follows P
      (if c then Job.printLine line >>= fun _ =>
          resolve p >>= fun dir => Job.call (calls dir) >>= next
        else resolve p >>= fun dir => Job.call (calls dir) >>= next)
      (if c' then Job.printLine line >>= fun _ =>
          resolve p >>= fun dir => Job.call (calls dir) >>= next'
        else resolve p >>= fun dir => Job.call (calls dir) >>= next') m := by
  refine optional more (printLine line) (fun brief made makes answered => ?_) fun m₁ =>
    (look _).bind fun dir m₂ _ => call_bind quiet fun reply m₃ => hn dir reply m₃
  obtain ⟨dir, resolved⟩ := exists_resolve sound m
  rw [bind_ok resolved] at makes
  obtain rfl := makes.unique (makes_call_bind quiet m)
  exact tells_printLine (taken brief dir _ (answered 0 _ rfl))

end Follows

end

/-! ## Fetching and choosing the sheets -/

namespace Follows

theorem loadTemplateSource (p : Path) :
    Follows P (Job.loadTemplateSource p) (Job.loadTemplateSource p) m := by
  refine (look _).bind fun _ m₁ _ => .ite (fun _ => .fail _) fun _ => ?_
  refine (readText p).bind fun text m₂ _ => ?_
  split
  · exact .fail _
  · split
    · exact .done _
    · exact .fail _
  · exact .fail _

theorem cloneTemplate (source : TemplateSource) (checkout : Path) (timeout : Int) :
    Follows P (Job.cloneTemplate source checkout timeout)
      (Job.cloneTemplate source checkout timeout) m := by
  refine (call _).bind fun reply m₁ _ => ?_
  split
  · exact .fail _
  · exact .fail _
  · exact .ite (fun _ => .done ()) fun _ => .fail _
  · exact .fail _
  · exact .fail _

theorem fetchTemplate [Console] (source : TemplateSource) (target : Path) (timeout : Int) :
    Follows P (Job.fetchTemplate source target timeout)
      (Job.fetchTemplate source target timeout) m := by
  refine (printLine _).bind fun _ m₁ _ => ?_
  refine Follows.bind (.withScratch fun dir m₂ _ => ?_) fun _ m₂ _ =>
    (printLine _).bind fun _ _ _ => .done target
  exact (cloneTemplate _ _ _).bind fun _ _ _ => (look _).bind fun _ _ _ =>
    .ite (fun _ => .fail _) fun _ => copyFile _ _

theorem filesAmong (dir : Path) (candidates : List (List String)) :
    Follows P (Job.filesAmong dir candidates) (Job.filesAmong dir candidates) m := by
  induction candidates generalizing m with
  | nil => exact .done []
  | cons names rest ih =>
    exact (look _).bind fun _ _ _ => ih.bind fun _ _ _ => .done _

theorem namesBelow (dir : Path) : Follows P (Job.namesBelow dir) (Job.namesBelow dir) m := by
  refine of_quiet ((reads_namesBelow dir m).quiet) fun text => ?_
  constructor <;> unfold Job.namesBelow <;> dsimp only <;> split <;> rfl

theorem selectSubmission (dir : Path) :
    Follows P (Job.selectSubmission dir) (Job.selectSubmission dir) m := by
  refine (look _).bind fun _ m₁ _ => .ite (fun _ => .fail _) fun _ => ?_
  refine (namesBelow dir).bind fun names m₂ _ => (filesAmong dir _).bind fun candidates m₃ _ => ?_
  split
  · exact .fail _
  · exact .done _

theorem placeSubmission (source target : Path) :
    Follows P (Job.placeSubmission source target) (Job.placeSubmission source target) m :=
  (copyFile source target).bind fun _ _ _ => .done target

theorem installSupportLibrary [Console] (project : Path) :
    Follows P (Job.installSupportLibrary project) (Job.installSupportLibrary project) m :=
  (look _).bind fun _ _ _ => .ite (fun _ => .done _) fun _ =>
    .machine (fun _ => rfl)
      ((copyFile _ _).bind fun _ _ _ => (printLine _).bind fun _ _ _ => .done _)

end Follows

end Job

end ProofGrading
