import ProofGrading.Proofs.Footprint
import ProofGrading.Proofs.Tracking

/-!
# Proofs/Repeating — a job that is done again

A rerun is a first pass and a second one that starts on the files that the first one left (`Rerun`).
The second pass is followed job by job: its files track those of the first one, and as the first
pass is over, it is known what they will be.  A job repeats when it ends alike in both passes and
leaves machines that track again (`Rerun.Repeats`).  Putting jobs together keeps this, and so does
work in a temporary directory (`Rerun.Repeats.withScratch`).
-/

namespace ProofGrading

open FileTree (Scope Grows Tracks Inside)

/-! ## What programs are told -/

/-- A tree that a machine may have had or come to have: sound, and with the machine's places. -/
structure Machine.Hosts (m : Machine) (t : FileTree) : Prop where
  sound : t.IsSound
  home : t.node? m.home = some .directory
  aliases : t.aliases = m.tree.aliases
  found : t.walk [] m.scratch = .ok ⟨m.scratch, some .directory⟩

/-- **A program goes by its temporary directory**: what it leaves in the one that its call gives it
is a matter of what is there. -/
def Exit.GoesBy (m : Machine) (c : Call) (exit : Exit) : Prop :=
  ∀ t t' : FileTree, m.Hosts t → m.Hosts t' → ∀ x, c.Gives (m.scratch ++ [x]) →
    (∀ l, m.scratch ++ [x] <+: l → t'.node? l = t.node? l) → ∀ l, m.scratch ++ [x] <+: l →
      (Job.leaveFiles m.home c exit t').node? l = (Job.leaveFiles m.home c exit t).node? l

/-- A program that leaves nothing goes by any directory. -/
theorem Exit.goesBy_of_nothing {m : Machine} {c : Call} {exit : Exit}
    (artifact : exit.artifact = none) (checkout : exit.checkout = []) : exit.GoesBy m c := by
  intro t t' _ _ x _ same l below
  rw [Job.leaveFiles, Job.leaveFiles, artifact, checkout]
  exact same l below

/-- **The programs that are called go by the temporary directories** that they are given. -/
def Machine.Isolated (m : Machine) (made : List Call) : Prop :=
  ∀ (i : Nat) (c : Call) (exit : Exit), made[i]? = some c →
    m.replies[i]? = some (Reply.ended exit) → exit.GoesBy m c

/-! ## Reruns -/

/-- Two machines are set up the same. -/
structure Machine.SetUpAs (m m' : Machine) : Prop where
  home : m'.home = m.home
  scratch : m'.scratch = m.scratch
  scratchName : m'.scratchName = m.scratchName
  bundle : m'.bundle = m.bundle
  searchPath : m'.searchPath = m.searchPath

theorem Machine.SetUpAs.refl (m : Machine) : m.SetUpAs m := ⟨rfl, rfl, rfl, rfl, rfl⟩

theorem Machine.SetUpAs.trans {m m₁ m₂ : Machine} (h : m.SetUpAs m₁) (h' : m₁.SetUpAs m₂) :
    m.SetUpAs m₂ where
  home := h'.home.trans h.home
  scratch := h'.scratch.trans h.scratch
  scratchName := h'.scratchName.trans h.scratchName
  bundle := h'.bundle.trans h.bundle
  searchPath := h'.searchPath.trans h.searchPath

theorem Machine.SetUpAs.symm {m m' : Machine} (h : m.SetUpAs m') : m'.SetUpAs m where
  home := h.home.symm
  scratch := h.scratch.symm
  scratchName := h.scratchName.symm
  bundle := h.bundle.symm
  searchPath := h.searchPath.symm

/-- **A rerun**: a first pass, which takes a machine to another one, and a second pass, which starts
on the files that the first one left, with the same replies.  The programs keep to their temporary
directories, and names for these that are free at first are free in the end. -/
structure Rerun where
  first : Machine
  last : Machine
  calls : List Call
  printed : String
  sound : first.IsSound
  extends_last : first.Extends .everywhere last
  confined : ∀ made, first.Makes made last → first.Confined made ∧ first.Isolated made
  spare : ∀ n, first.tree.node? (first.scratch ++ [FileTree.numbered first.scratchName n]) = none →
    last.tree.node? (first.scratch ++ [FileTree.numbered first.scratchName n]) = none

namespace Rerun

variable (r : Rerun) {dirs : List Location} {scope scope' : Scope} {m m' m₁ m₁' : Machine}

/-- Where the second pass starts. -/
def second : Machine :=
  { r.first with tree := r.last.tree, calls := r.calls, printed := r.printed }

theorem sound_second : r.second.IsSound := by
  obtain ⟨tree, home, found, plain⟩ := (r.extends_last.reaches (.refl r.sound)).sound
  rw [r.extends_last.home] at home
  rw [r.extends_last.scratch] at found plain
  exact ⟨tree, home, found, plain⟩

/-- **Machines of the two passes go along**: they are set up the same and get the same replies, and
the files of the second track those of the first. -/
structure Along (dirs : List Location) (scope : Scope) (m m' : Machine) : Prop where
  setUp : r.first.SetUpAs m
  setUp' : r.first.SetUpAs m'
  replies : m'.replies = m.replies
  tree : Tracks r.last.tree dirs scope m.tree m'.tree

/-- Machines go along whatever their programs and their users were told. -/
theorem Along.update {r : Rerun} {dirs' : List Location} {t t' : FileTree}
    (h : r.Along dirs scope m m') (tracks : Tracks r.last.tree dirs' scope' t t')
    {replies replies' : List Reply} (answered : replies' = replies) {calls calls' : List Call}
    {printed printed' : String} : r.Along dirs' scope' { m with tree := t, replies, calls, printed }
      { m' with tree := t', replies := replies', calls := calls', printed := printed' } where
  setUp := ⟨h.setUp.home, h.setUp.scratch, h.setUp.scratchName, h.setUp.bundle, h.setUp.searchPath⟩
  setUp' := ⟨h.setUp'.home, h.setUp'.scratch, h.setUp'.scratchName, h.setUp'.bundle,
    h.setUp'.searchPath⟩
  replies := answered
  tree := tracks

/-- **The second pass follows the first**: both have come from where they started, and their
machines go along. -/
structure Follows (dirs : List Location) (scope : Scope) (m m' : Machine) : Prop where
  begun : r.first.Extends .everywhere m
  resumed : r.second.Extends .everywhere m'
  along : r.Along dirs scope m m'

/-- **The first pass goes on to its end** from a machine, without some temporary directories. -/
structure Heads (dirs : List Location) (m : Machine) : Prop where
  makes : ∃ rest, m.Makes rest r.last
  tree : r.last.tree.Heads dirs m.tree

variable {r}

namespace Follows

variable (h : r.Follows dirs scope m m')
include h

theorem reaches : r.first.Reaches m := h.begun.reaches (.refl r.sound)

theorem reaches' : r.second.Reaches m' := h.resumed.reaches (.refl r.sound_second)

theorem setUp : m.SetUpAs m' :=
  h.along.setUp.symm.trans h.along.setUp'

theorem mono (wider : ∀ l n, scope l n → scope' l n) : r.Follows dirs scope' m m' :=
  ⟨h.begun, h.resumed, ⟨h.along.setUp, h.along.setUp', h.along.replies, h.along.tree.mono wider⟩⟩

/-- The directory that the first machine works in, in both. -/
theorem home_there :
    m.tree.node? m.home = some .directory ∧ m'.tree.node? m.home = some .directory :=
  ⟨h.reaches.sound.home, h.setUp.home ▸ h.reaches'.sound.home⟩

/-- **The same names for temporary directories are free.** -/
theorem free_iff (heads : r.Heads dirs m) (n : Nat) :
    m'.tree.node? (m.scratch ++ [FileTree.numbered m.scratchName n]) = none ↔
      m.tree.node? (m.scratch ++ [FileTree.numbered m.scratchName n]) = none := by
  refine h.along.tree.eq_none_iff heads.tree fun free => ?_
  rw [h.along.setUp.scratch, h.along.setUp.scratchName] at free ⊢
  exact r.spare n (h.begun.grows.eq_none free)

end Follows

theorem Heads.of_extends (h : r.Heads dirs m₁) (ext : m.Extends .everywhere m₁) :
    r.Heads dirs m := by
  obtain ⟨made, makes, -⟩ := ext.within
  obtain ⟨rest, makes'⟩ := h.makes
  exact ⟨⟨made ++ rest, makes.trans makes'⟩, h.tree.of_lasts ext.grows.lasts⟩

/-- **A program that was called in the first pass** keeps to its temporary directory and goes by
it. -/
theorem Follows.confined {c : Call} {exit : Exit} (h : r.Follows dirs scope m m')
    (makes : m.Makes [c] m₁) (heads : r.Heads dirs m₁)
    (replied : m.replies[0]? = some (Reply.ended exit)) :
    exit.StaysIn r.first c ∧ exit.GoesBy r.first c := by
  obtain ⟨made, before, -⟩ := h.begun.within
  obtain ⟨rest, after⟩ := heads.makes
  obtain ⟨confined, isolated⟩ := r.confined _ ((before.trans makes).trans after)
  have called : (made ++ [c] ++ rest)[made.length]? = some c := by simp
  have answered : r.first.replies[made.length]? = some (Reply.ended exit) := by
    rw [before.replies, List.getElem?_drop] at replied
    exact replied
  exact ⟨confined _ c exit called answered, isolated _ c exit called answered⟩

/-- The trees of both passes are such as the first machine may have. -/
theorem Follows.hosts (h : r.Follows dirs scope m m') :
    r.first.Hosts m.tree ∧ r.first.Hosts m'.tree := by
  obtain ⟨tree, home, found, -⟩ := h.reaches.sound
  obtain ⟨tree', home', found', -⟩ := h.reaches'.sound
  rw [h.along.setUp.home] at home
  rw [h.along.setUp.scratch] at found
  rw [h.along.setUp'.home] at home'
  rw [h.along.setUp'.scratch] at found'
  exact ⟨⟨tree, home, h.reaches.aliases, found⟩,
    ⟨tree', home', h.along.tree.aliases.trans h.reaches.aliases, found'⟩⟩

/-- **What a program leaves** leaves trees that track. -/
theorem Follows.leaveFiles {c : Call} {exit : Exit} (h : r.Follows dirs scope m m')
    (covers : ∀ x, c.Gives (r.first.scratch ++ [x]) → r.first.scratch ++ [x] ∈ dirs)
    (stays : exit.StaysIn r.first c) (goesBy : exit.GoesBy r.first c) :
    Tracks r.last.tree dirs scope (Job.leaveFiles r.first.home c exit m.tree)
      (Job.leaveFiles r.first.home c exit m'.tree) := by
  obtain ⟨hosts, hosts'⟩ := h.hosts
  have grows := Job.grows_leaveFiles hosts.sound hosts.home c exit
  have grows' := Job.grows_leaveFiles hosts'.sound hosts'.home c exit
  refine ⟨grows'.aliases.trans (h.along.tree.aliases.trans grows.aliases.symm), fun l => ?_⟩
  by_cases given : ∃ x, c.Gives (r.first.scratch ++ [x]) ∧ r.first.scratch ++ [x] <+: l
  · obtain ⟨x, gives, below⟩ := given
    have same : ∀ k, r.first.scratch ++ [x] <+: k → m'.tree.node? k = m.tree.node? k :=
      fun k inside => (h.along.tree.node k).resolve_right fun ⟨outside, _⟩ =>
        outside ⟨_, covers x gives, inside⟩
    exact .inl (goesBy _ _ hosts hosts' x gives same l below)
  · have kept : ∀ t, r.first.Hosts t →
        (Job.leaveFiles r.first.home c exit t).node? l = t.node? l := fun t hosts =>
      by_contra fun changed =>
        given (stays t hosts.sound hosts.home hosts.aliases hosts.found l changed)
    rw [kept _ hosts, kept _ hosts']
    exact h.along.tree.node l

/-- **Both passes make the same temporary directory**, and the first one that they make has a name
that was free from the start. -/
theorem Follows.enter (h : r.Follows dirs scope m m') (heads : r.Heads dirs m) :
    ∃ x, x ≠ ".." ∧
      (dirs = [] → x = r.first.tree.freeName r.first.scratch r.first.scratchName) ∧
      Job.makeScratch m = (.ok ⟨.single, r.first.scratch ++ [x]⟩,
        { m with tree := m.tree.put (r.first.scratch ++ [x]) .directory }) ∧
      Job.makeScratch m' = (.ok ⟨.single, r.first.scratch ++ [x]⟩,
        { m' with tree := m'.tree.put (r.first.scratch ++ [x]) .directory }) ∧
      r.Follows ((r.first.scratch ++ [x]) :: dirs) scope
        { m with tree := m.tree.put (r.first.scratch ++ [x]) .directory }
        { m' with tree := m'.tree.put (r.first.scratch ++ [x]) .directory } := by
  have spare := h.free_iff heads
  obtain ⟨scratch, scratchName⟩ := And.intro h.along.setUp.scratch h.along.setUp.scratchName
  obtain ⟨scratch', scratchName'⟩ := And.intro h.along.setUp'.scratch h.along.setUp'.scratchName
  rw [scratch, scratchName] at spare
  obtain ⟨n, -, name_eq, free, -⟩ :=
    m.tree.exists_freeName r.first.scratch r.first.scratchName
  have name_eq' := (FileTree.freeName_congr spare).trans name_eq
  have free' := (spare n).2 free
  have ne : r.first.scratch ++ [FileTree.numbered r.first.scratchName n] ≠ [] :=
    List.append_ne_nil_of_right_ne_nil _ (List.cons_ne_nil _ _)
  refine ⟨_, FileTree.numbered_ne_up r.first.scratchName n, fun none_used => ?_,
    Job.makeScratch_eq scratch (scratchName ▸ name_eq),
    Job.makeScratch_eq scratch' (scratchName' ▸ name_eq'), ?_, ?_, ?_⟩
  · subst none_used
    rw [← name_eq]
    refine FileTree.freeName_congr fun k => ⟨h.begun.grows.eq_none, fun free => ?_⟩
    exact (heads.tree _ fun ⟨_, among, _⟩ => List.not_mem_nil among).eq_none (r.spare k free)
  · refine h.begun.trans (.of_grows (.put_directory ⟨_, _, rfl, ?_, ?_⟩ free))
    · exact scratch ▸ h.reaches.sound.scratch
    · rw [free]
      exact (Option.some_ne_none _).symm
  · refine h.resumed.trans (.of_grows (.put_directory ⟨_, _, rfl, ?_, ?_⟩ free'))
    · exact scratch' ▸ h.reaches'.sound.scratch
    · rw [free']
      exact (Option.some_ne_none _).symm
  · exact h.along.update
      (h.along.tree.enter h.reaches.sound.tree h.reaches'.sound.tree ne free free')
      h.along.replies

/-! ## Jobs that repeat -/

/-- **Two jobs end alike**: with one value or failure, or both with a fault of the files. -/
inductive SameEnd {α : Type} : Except Failure α → Except Failure α → Prop
  | same (e : Except Failure α) : SameEnd e e
  | files (e e' : FileFault) : SameEnd (.error (.files e)) (.error (.files e'))

variable (r) in
/-- Two jobs end alike on two machines, and leave machines that go along. -/
def EndsAt {α : Type} (dirs : List Location) (scope : Scope) (m m' : Machine) (job job' : Job α) :
    Prop :=
  r.Heads dirs (job m).2 →
    SameEnd (job m).1 (job' m').1 ∧ r.Along dirs scope (job m).2 (job' m').2

variable (r) in
/-- **A job repeats another one**: while the second pass follows the first, they end alike, and the
second still follows. -/
structure Repeats {α : Type} (dirs : List Location) (scope : Scope) (job job' : Job α) : Prop where
  within : Job.Within r.first .everywhere job
  within' : Job.Within r.second .everywhere job'
  ends : ∀ m m', r.Follows dirs scope m m' → r.EndsAt dirs scope m m' job job'

variable {α β : Type} {job job' : Job α} {next next' : α → Job β}

theorem Along.mono (h : r.Along dirs scope m m') (wider : ∀ l n, scope l n → scope' l n) :
    r.Along dirs scope' m m' := ⟨h.setUp, h.setUp', h.replies, h.tree.mono wider⟩

/-- The second pass goes on following from where two jobs ended. -/
theorem Follows.after {e : Except Failure α} {e' : Except Failure α} {scope₁ : Scope}
    (h : r.Follows dirs scope m m') (within : Job.Within r.first .everywhere job)
    (within' : Job.Within r.second .everywhere job') (hj : job m = (e, m₁))
    (hj' : job' m' = (e', m₁')) (along : r.Along dirs scope₁ m₁ m₁') :
    r.Follows dirs scope₁ m₁ m₁' :=
  ⟨h.begun.trans (within.at_end hj h.reaches), h.resumed.trans (within'.at_end hj' h.reaches'),
    along⟩

/-- What comes after has to end alike where the parts before it ended with one value. -/
theorem EndsAt.bind (h : r.EndsAt dirs scope m m' job job')
    (wider : ∀ l n, scope l n → scope' l n)
    (ext : ∀ a m₁, job m = (.ok a, m₁) → m₁.Extends .everywhere (next a m₁).2)
    (hn : ∀ a m₁ m₁', job m = (.ok a, m₁) → job' m' = (.ok a, m₁') → r.Along dirs scope m₁ m₁' →
      r.EndsAt dirs scope' m₁ m₁' (next a) (next' a)) :
    r.EndsAt dirs scope' m m' (job >>= next) (job' >>= next') := by
  intro heads
  rcases hj : job m with ⟨e, m₁⟩
  rcases hj' : job' m' with ⟨e', m₁'⟩
  unfold EndsAt at h
  rw [hj, hj'] at h
  cases e with
  | error f =>
    rw [Job.bind_error hj] at heads ⊢
    obtain ⟨alike, along⟩ := h heads
    cases alike with
    | same =>
      rw [Job.bind_error hj']
      exact ⟨.same _, along.mono wider⟩
    | files =>
      rw [Job.bind_error hj']
      exact ⟨.files _ _, along.mono wider⟩
  | ok a =>
    rw [Job.bind_ok hj] at heads ⊢
    obtain ⟨alike, along⟩ := h (heads.of_extends (ext a m₁ hj))
    cases alike
    rw [Job.bind_ok hj']
    exact hn a m₁ m₁' hj hj' along heads

namespace Repeats

/-- What comes after has to repeat where the parts before it ended with one value. -/
theorem bind_at (h : r.Repeats dirs scope job job')
    (within : ∀ a, Job.Within r.first .everywhere (next a))
    (within' : ∀ a, Job.Within r.second .everywhere (next' a))
    (hn : ∀ m m' a m₁ m₁', job m = (.ok a, m₁) → r.Follows dirs scope m m' →
      r.Follows dirs scope m₁ m₁' → r.EndsAt dirs scope m₁ m₁' (next a) (next' a)) :
    r.Repeats dirs scope (job >>= next) (job' >>= next') where
  within := h.within.bind within
  within' := h.within'.bind within'
  ends m m' follows := by
    refine (h.ends m m' follows).bind (fun _ _ => id) (fun a m₁ hj => ?_)
      fun a m₁ m₁' hj hj' along =>
        hn m m' a m₁ m₁' hj follows (follows.after h.within h.within' hj hj' along)
    exact within a m₁ (h.within.reaches follows.reaches hj)

/-- **What comes after has to repeat** for values that the first part can have. -/
theorem bind_of_ok (h : r.Repeats dirs scope job job')
    (within : ∀ a, Job.Within r.first .everywhere (next a))
    (within' : ∀ a, Job.Within r.second .everywhere (next' a))
    (hn : ∀ m m' a m₁, r.Follows dirs scope m m' → r.Heads dirs m → job m = (.ok a, m₁) →
      r.Repeats dirs scope (next a) (next' a)) :
    r.Repeats dirs scope (job >>= next) (job' >>= next') :=
  h.bind_at within within' fun m m' a m₁ m₁' hj follows after heads => by
    have start := (heads.of_extends (within a m₁ after.reaches)).of_extends
      (h.within.at_end hj follows.reaches)
    exact (hn m m' a m₁ follows start hj).ends m₁ m₁' after heads

theorem bind (h : r.Repeats dirs scope job job')
    (hn : ∀ a, r.Repeats dirs scope (next a) (next' a)) :
    r.Repeats dirs scope (job >>= next) (job' >>= next') :=
  h.bind_at (fun a => (hn a).within) (fun a => (hn a).within')
    fun _ _ a m₁ m₁' _ _ => (hn a).ends m₁ m₁'

theorem ofExcept {e e' : Except Failure α} (alike : SameEnd e e') :
    r.Repeats dirs scope (Job.ofExcept e) (Job.ofExcept e') :=
  ⟨.ofExcept (Machine.lasting_stays _ _) e, .ofExcept (Machine.lasting_stays _ _) e',
    fun _ _ follows _ => ⟨alike, follows.along⟩⟩

theorem done (a : α) : r.Repeats dirs scope (Job.done a) (Job.done a) := ofExcept (.same (.ok a))

theorem fail (e : Failure) : r.Repeats dirs scope (Job.fail e : Job α) (Job.fail e) :=
  ofExcept (.same (.error e))

theorem ite {c : Prop} [Decidable c] {other other' : Job α}
    (h : c → r.Repeats dirs scope job job') (ho : ¬c → r.Repeats dirs scope other other') :
    r.Repeats dirs scope (if c then job else other) (if c then job' else other') := by
  split
  · next hc => exact h hc
  · next hc => exact ho hc

/-- A fault of the files that is caught is not told from another one. -/
theorem attempt {next next' : Except Failure α → Job β} (h : r.Repeats dirs scope job job')
    (hn : ∀ e e', SameEnd e e' → r.Repeats dirs scope (next e) (next' e')) :
    r.Repeats dirs scope (Job.attempt job >>= next) (Job.attempt job' >>= next') where
  within := h.within.attempt.bind fun e => (hn e e (.same e)).within
  within' := h.within'.attempt.bind fun e => (hn e e (.same e)).within'
  ends m m' follows heads := by
    rcases hj : job m with ⟨e, m₁⟩
    rcases hj' : job' m' with ⟨e', m₁'⟩
    have ended := h.ends m m' follows
    have reaches := h.within.reaches follows.reaches hj
    unfold EndsAt at ended
    rw [hj, hj'] at ended
    rw [Job.bind_ok (Job.attempt_eq_ok_iff.2 hj)] at heads ⊢
    rw [Job.bind_ok (Job.attempt_eq_ok_iff.2 hj')]
    have within := (hn e e (.same e)).within m₁ reaches
    obtain ⟨alike, along⟩ := ended (heads.of_extends within)
    exact (hn e e' alike).ends m₁ m₁' (follows.after h.within h.within' hj hj' along) heads

/-- **Looking repeats** where both passes see the same. -/
theorem look {f : FileTree → Location → Except FileFault α}
    (same : ∀ m m', r.Follows dirs scope m m' → r.Heads dirs m →
      f m'.tree m'.home = f m.tree m.home) :
    r.Repeats dirs scope (Job.look f) (Job.look f) where
  within := Job.within_look f
  within' := Job.within_look f
  ends m m' follows heads := by
    refine ⟨?_, follows.along⟩
    rw [Job.look, Job.look, same m m' follows heads]
    exact .same _

/-- The passes need not print the same. -/
theorem printsOther (line line' : String) :
    r.Repeats dirs scope (Job.printLine line) (Job.printLine line') where
  within := (Job.reads_printLine line).within
  within' := (Job.reads_printLine line').within
  ends _ _ follows _ := ⟨.same _, follows.along.update follows.along.tree follows.along.replies⟩

theorem printLine (line : String) :
    r.Repeats dirs scope (Job.printLine line) (Job.printLine line) := printsOther line line

theorem printLines (lines : List String) :
    r.Repeats dirs scope (Job.printLines lines) (Job.printLines lines) := by
  induction lines with
  | nil => exact .done ()
  | cons line rest ih => exact (printLine line).bind fun _ => ih

/-- A step that may be left out. -/
theorem optional {c : Prop} [Decidable c] {step : Job Unit} {next : Unit → Job α}
    (h : r.Repeats dirs scope step step) (hn : ∀ u, r.Repeats dirs scope (next u) (next u)) :
    r.Repeats dirs scope (if c then step >>= next else next ())
      (if c then step >>= next else next ()) :=
  ite (fun _ => h.bind hn) fun _ => hn ()

/-- What reads how the machine is set up goes on alike. -/
theorem machine {next : Machine → Job β} (h : ∀ m m', m.SetUpAs m' → next m' = next m)
    (hn : ∀ m, r.Repeats dirs scope (next m) (next m)) :
    r.Repeats dirs scope (Job.machine >>= next) (Job.machine >>= next) where
  within := Job.within_machine.bind fun m => (hn m).within
  within' := Job.within_machine.bind fun m => (hn m).within'
  ends m m' follows heads := by
    rw [Job.bind_ok (show Job.machine m = (.ok m, m) from rfl)] at heads ⊢
    rw [Job.bind_ok (show Job.machine m' = (.ok m', m') from rfl), h m m' follows.setUp]
    exact (hn m).ends m m' follows heads

/-! ### Files -/

/-- **Making directories repeats.** -/
theorem makeDirectories (p : Path) :
    r.Repeats dirs scope (Job.makeDirectories p) (Job.makeDirectories p) where
  within := Job.within_makeDirectories p
  within' := Job.within_makeDirectories p
  ends m m' follows heads := by
    have alike := follows.along.tree.makeDirectories m.home p
    unfold Job.makeDirectories at heads ⊢
    rcases made : m.tree.makeDirectories m.home p with ⟨t, fault⟩
    rcases made' : m'.tree.makeDirectories m'.home p with ⟨t', fault'⟩
    rw [made, ← follows.setUp.home, made'] at alike
    rw [made] at heads
    cases fault with
    | none =>
      obtain ⟨ended, tracks⟩ := alike heads.tree
      obtain rfl : fault' = none := ended.2 rfl
      exact ⟨.same _, follows.along.update tracks follows.along.replies⟩
    | some e =>
      obtain ⟨ended, tracks⟩ := alike heads.tree
      obtain ⟨e', rfl⟩ := Option.ne_none_iff_exists'.1
        fun none => Option.some_ne_none e (ended.1 none)
      exact ⟨.files e e', follows.along.update tracks follows.along.replies⟩

/-- **A file that is put in a directory** repeats where the changes of the trees end alike. -/
theorem inDirectory {p : Path} {change : FileTree → Location → Except FileFault FileTree}
    (within : ∀ m₀, Job.Within m₀ .everywhere (Job.change change))
    (h : ∀ m m' d, r.Follows dirs scope m m' → r.Heads dirs m →
      m.tree.locate m.home p = .ok ⟨d, some .directory⟩ →
      m'.tree.locate m.home p = .ok ⟨d, some .directory⟩ →
      (∀ t, change m.tree m.home = .ok t → r.last.tree.Heads dirs t) →
      FileTree.Changes r.last.tree dirs scope (change m.tree m.home) (change m'.tree m.home)) :
    r.Repeats dirs scope (Job.makeDirectories p >>= fun _ => Job.change change)
      (Job.makeDirectories p >>= fun _ => Job.change change) := by
  refine (makeDirectories p).bind_at (fun _ => within _) (fun _ => within _) ?_
  intro m m' _ m₁ m₁' made _ follows heads
  have start : r.Heads dirs m₁ := heads.of_extends (within r.first m₁ follows.reaches)
  obtain ⟨d, there⟩ := Job.directory_of_made made
  have there' := follows.along.tree.locate_directory start.tree there
  have changes := h m₁ m₁' d follows start there there' fun t done => by
    have at_end := heads.tree
    rwa [Job.change_ok done] at at_end
  rcases done : change m₁.tree m₁.home with e | t
  all_goals
    rcases done' : change m₁'.tree m₁'.home with e' | t'
    all_goals
      rw [done, ← follows.setUp.home, done'] at changes
      cases changes
  · rw [Job.change_error done, Job.change_error done']
    exact ⟨.files e e', follows.along⟩
  · next tracks =>
    rw [Job.change_ok done, Job.change_ok done']
    exact ⟨.same _, follows.along.update tracks follows.along.replies⟩

/-- **A text is written again.** -/
theorem writeText (p : Path) (text : String) :
    r.Repeats dirs scope (Job.writeText p text) (Job.writeText p text) := by
  unfold Job.writeText
  split
  · exact .fail _
  · refine inDirectory (fun m₀ m => Job.stays_change fun tree reaches written =>
      FileTree.grows_write reaches.sound.tree reaches.sound.home (fun _ _ _ => trivial) written) ?_
    intro m m' d follows heads there there' at_end
    exact follows.along.tree.write follows.reaches.sound.tree follows.reaches'.sound.tree
      follows.home_there.1 follows.home_there.2 there there' heads.tree at_end

/-- **A file is copied again**, if it is found where it was. -/
theorem copyFile {source target : Path} (same : ∀ m m', r.Follows dirs scope m m' →
      r.Heads dirs m → m'.tree.locate m.home source = m.tree.locate m.home source) :
    r.Repeats dirs scope (Job.copyFile source target) (Job.copyFile source target) := by
  refine inDirectory (fun m₀ m => Job.stays_change fun tree reaches copied =>
    (FileTree.grows_copy reaches.sound.tree reaches.sound.home copied).everywhere) ?_
  intro m m' d follows heads there there' at_end
  exact follows.along.tree.copy follows.reaches.sound.tree follows.reaches'.sound.tree
    follows.home_there.1 follows.home_there.2 there there' (same m m' follows heads) heads.tree
    at_end

/-! ### External programs -/

/-- **A call is made again**, of a program that writes in a temporary directory that is in use. -/
theorem call {c : Call}
    (covers : ∀ x, c.Gives (r.first.scratch ++ [x]) → r.first.scratch ++ [x] ∈ dirs) :
    r.Repeats dirs scope (Job.call c) (Job.call c) where
  within := Job.within_call fun _ _ _ _ _ => trivial
  within' := Job.within_call fun _ _ _ _ _ => trivial
  ends m m' follows heads := by
    have confined : ∀ exit, m.replies[0]? = some (Reply.ended exit) → _ :=
      fun exit => follows.confined (Job.makes_call c m) heads
    have answered := follows.along.replies
    unfold Job.call
    rcases replies : m.replies with _ | ⟨reply, rest⟩
    · rw [replies] at answered
      rw [answered]
      exact ⟨.same _, follows.along.update follows.along.tree rfl⟩
    · rw [replies] at answered confined
      rw [answered]
      cases reply with
      | ended exit =>
        obtain ⟨stays, goesBy⟩ := confined exit rfl
        have tracks := follows.leaveFiles covers stays goesBy
        rw [← follows.along.setUp.home] at tracks
        have tracks' : r.last.tree.Tracks dirs scope (Job.leaveFiles m.home c exit m.tree)
            (Job.leaveFiles m'.home c exit m'.tree) := by
          rwa [follows.setUp.home]
        exact ⟨.same _, follows.along.update tracks' rfl⟩
      | timedOut => exact ⟨.same _, follows.along.update follows.along.tree rfl⟩
      | commandMissing => exact ⟨.same _, follows.along.update follows.along.tree rfl⟩
      | interrupted => exact ⟨.same _, follows.along.update follows.along.tree rfl⟩
      | broken reason => exact ⟨.same _, follows.along.update follows.along.tree rfl⟩

/-! ### Temporary directories -/

theorem withScratch {work work' : Path → Job α}
    (within : Job.Within r.first .everywhere (Job.withScratch work))
    (within' : Job.Within r.second .everywhere (Job.withScratch work'))
    (h : ∀ x, x ≠ ".." → (dirs = [] →
        x = r.first.tree.freeName r.first.scratch r.first.scratchName) →
      r.Repeats ((r.first.scratch ++ [x]) :: dirs) scope (work ⟨.single, r.first.scratch ++ [x]⟩)
        (work' ⟨.single, r.first.scratch ++ [x]⟩)) :
    r.Repeats dirs scope (Job.withScratch work) (Job.withScratch work') where
  within := within
  within' := within'
  ends m m' follows heads := by
    have start := heads.of_extends (within m follows.reaches)
    obtain ⟨x, proper, first_name, prepared, prepared', entered⟩ := follows.enter start
    have repeats := h x proper first_name
    rcases worked : work ⟨.single, r.first.scratch ++ [x]⟩ _ with ⟨e, m₂⟩
    rcases worked' : work' ⟨.single, r.first.scratch ++ [x]⟩ _ with ⟨e', m₂'⟩
    have ends := repeats.ends _ _ entered
    unfold EndsAt at ends
    rw [worked, worked'] at ends
    rw [Job.withScratch_eq prepared worked] at heads ⊢
    rw [Job.withScratch_eq prepared' worked']
    obtain ⟨⟨rest, makes⟩, tree⟩ := heads
    obtain ⟨alike, along⟩ := ends ⟨⟨rest, makes.calls, makes.replies⟩, tree.of_prune⟩
    have ne : r.first.scratch ++ [x] ≠ [] :=
      List.append_ne_nil_of_right_ne_nil _ (List.cons_ne_nil _ _)
    exact ⟨alike, along.update (along.tree.leave ne) along.replies⟩

end Repeats

/-! ## What is read -/

variable (r) in
/-- **Both passes find the same at a path.** -/
def Sees (dirs : List Location) (scope : Scope) (p : Path) : Prop :=
  ∀ m m', r.Follows dirs scope m m' → r.Heads dirs m →
    m'.tree.locate m'.home p = m.tree.locate m.home p

variable (r) in
/-- Places where the first pass has put nothing yet. -/
def untouched : Scope := fun l n => n = r.first.tree.node? l

/-- **At the start** the second tree has what the first one has in the end. -/
theorem follows_start (r : Rerun) : r.Follows [] r.untouched r.first r.second where
  begun := .refl _
  resumed := .refl _
  along := ⟨.refl _, ⟨rfl, rfl, rfl, rfl, rfl⟩, rfl, r.extends_last.grows.aliases,
    fun _ => .inr ⟨fun ⟨_, among, _⟩ => List.not_mem_nil among, rfl, rfl⟩⟩

theorem heads_last (r : Rerun) : r.Heads [] r.last := ⟨⟨[], .refl _⟩, fun _ _ => .refl _⟩

variable (r) in
/-- **A place is kept**: the first pass leaves there what it found. -/
def IsKept (l : Location) : Prop := r.last.tree.node? l = r.first.tree.node? l

theorem node_of_isKept (follows : r.Follows dirs r.untouched m m') {l : Location}
    (kept : r.IsKept l) :
    m'.tree.node? l = m.tree.node? l := by
  obtain same | ⟨-, untouched, there⟩ := follows.along.tree.node l
  · exact same
  · rw [there, kept, untouched]

/-- **A path is found again** where all on its way is kept. -/
theorem sees_of_onWay {p : Path}
    (kept : ∀ l, r.first.tree.OnWay r.first.home p l → r.IsKept l) : r.Sees dirs r.untouched p := by
  intro m m' follows _
  rw [follows.setUp.home]
  refine FileTree.locate_congr follows.along.tree.aliases fun l on_way =>
    node_of_isKept follows (kept l ?_)
  rwa [follows.along.setUp.home, FileTree.onWay_congr follows.reaches.aliases] at on_way

/-- A file in a temporary directory is found in both passes. -/
theorem sees_inside {x file : String} (proper : x ≠ "..") (proper_file : file ≠ "..") :
    r.Sees ((r.first.scratch ++ [x]) :: dirs) scope
      ⟨.single, r.first.scratch ++ [x] ++ [file]⟩ := by
  intro m m' follows heads
  obtain ⟨hosts, hosts'⟩ := follows.hosts
  have plain : ∀ rest, rest ≠ [] → ∀ a ∈ m.tree.aliases, a.1 ≠ r.first.scratch ++ rest :=
    fun rest some a among same => some
      (follows.reaches.sound.plain a among rest (follows.along.setUp.scratch ▸ same))
  have inside : ∀ l, r.first.scratch ++ [x] <+: l → m'.tree.node? l = m.tree.node? l :=
    fun l below =>
    (follows.along.tree.node l).resolve_right fun ⟨outside, _⟩ =>
      outside ⟨_, List.mem_cons_self, below⟩
  have at_dir : m.tree.step r.first.scratch x = r.first.scratch ++ [x] :=
    FileTree.step_of_plain (plain [x] (List.cons_ne_nil _ _))
  have at_file : m.tree.step (r.first.scratch ++ [x]) file = r.first.scratch ++ [x] ++ [file] := by
    refine FileTree.step_of_plain ?_
    rw [List.append_assoc]
    exact plain _ (List.cons_ne_nil _ _)
  rw [follows.setUp.home, List.append_assoc]
  refine FileTree.locate_append follows.along.tree.aliases hosts.found hosts'.found ?_
  intro front back split
  match front, split with
  | [], _ =>
    rw [FileTree.resolveNames, hosts.sound.directory_of_walk rfl hosts.found,
      hosts'.sound.directory_of_walk rfl hosts'.found]
  | [_], split =>
    cases split
    rw [FileTree.resolveNames, if_neg proper, FileTree.resolveNames, at_dir]
    exact inside _ (List.prefix_refl _)
  | [_, _], split =>
    cases split
    rw [FileTree.resolveNames, if_neg proper, FileTree.resolveNames, if_neg proper_file,
      FileTree.resolveNames, at_dir, at_file]
    exact inside _ (List.prefix_append _ _)

namespace Repeats

variable {p : Path} (sees : r.Sees dirs scope p)
include sees

theorem isThere : r.Repeats dirs scope (Job.isThere p) (Job.isThere p) :=
  look fun m m' follows heads => by
    rw [FileTree.isThere, FileTree.isThere, FileTree.asks, FileTree.asks, sees m m' follows heads]

theorem isFile : r.Repeats dirs scope (Job.isFile p) (Job.isFile p) :=
  look fun m m' follows heads => by
    rw [FileTree.isFile, FileTree.isFile, FileTree.asks, FileTree.asks, sees m m' follows heads]

theorem isDirectory : r.Repeats dirs scope (Job.isDirectory p) (Job.isDirectory p) :=
  look fun m m' follows heads => by
    rw [FileTree.isDirectory, FileTree.isDirectory, FileTree.asks, FileTree.asks,
      sees m m' follows heads]

theorem readBytes : r.Repeats dirs scope (Job.readBytes p) (Job.readBytes p) :=
  look fun m m' follows heads => by
    rw [FileTree.read, FileTree.read, sees m m' follows heads]

theorem readText : r.Repeats dirs scope (Job.readText p) (Job.readText p) := by
  refine (readBytes sees).bind fun data => ?_
  split
  · exact .done _
  · exact .fail _

end Repeats

/-- Where a path leads that is resolved name by name is a matter of aliases, which stay. -/
theorem Repeats.resolve (p : Path) : r.Repeats dirs scope (Job.resolve p) (Job.resolve p) :=
  .look fun m m' follows _ => by
    rw [FileTree.resolve, FileTree.resolve, follows.setUp.home,
      FileTree.resolveNames_congr follows.along.tree.aliases]

end Rerun

end ProofGrading
