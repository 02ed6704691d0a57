import ProofGrading.Proofs.Atomicity

/-!
# Proofs/Accesses — what a job looks at, writes and calls

`Job.Uses` goes through a job on a machine, step by step, and has an allowance for each of them: the
files that the job looks at, those that it writes, and the programs that it calls.  What does not
touch the files, or only resolves paths by aliases, is always allowed.  Three things follow,
whatever the job ends with:

* the calls that it makes are allowed (`Uses.makes`);
* a place where it may write nothing keeps its file, and gets none, unless a program that it calls
  does something there (`Uses.keeps`);
* what stands at places that are out of the way makes no difference to it (`Uses.overlooks`).
-/

namespace ProofGrading

open FileTree (Grows IsPlace)

/-- What a job may look at, write and call. -/
structure Allowance where
  reads : Path → Prop
  writes : Path → Prop
  calls : Call → Prop

/-! ## Machines that are akin -/

/-- **Machines are akin**: they are set up the same and have the same aliases. -/
structure Machine.Akin (m m' : Machine) : Prop extends m.SetUpAs m' where
  aliases : m'.tree.aliases = m.tree.aliases

namespace Machine

variable {m m₁ m₂ : Machine}

theorem Akin.refl (m : Machine) : m.Akin m := ⟨.refl m, rfl⟩

theorem Akin.trans (h : m.Akin m₁) (h' : m₁.Akin m₂) : m.Akin m₂ :=
  ⟨h.toSetUpAs.trans h'.toSetUpAs, h'.aliases.trans h.aliases⟩

theorem lasting_akin : Lasting Akin := ⟨.refl, .trans⟩

/-- Machines that are akin have the same places. -/
theorem Akin.isPlace_iff (h : m.Akin m₁) {p : Path} {l : Location} :
    m₁.tree.IsPlace m₁.home p l ↔ m.tree.IsPlace m.home p l := by
  rw [h.home, FileTree.isPlace_congr h.aliases]

/-- What was on the files or was printed does not make a machine another one. -/
theorem Akin.of_tree {tree : FileTree} {printed : String}
    (aliases : tree.aliases = m.tree.aliases) : m.Akin { m with tree, printed } :=
  ⟨⟨rfl, rfl, rfl, rfl, rfl⟩, aliases⟩

end Machine

namespace FileTree

variable {t t' : FileTree} {home : Location} {p : Path} {data : ByteArray}

theorem aliases_of_write (h : t.write home p data = .ok t') : t'.aliases = t.aliases := by
  obtain ⟨l, n, -, -, rfl⟩ := exists_of_write h
  rfl

theorem aliases_of_copy {source target : Path} (h : t.copy home source target = .ok t') :
    t'.aliases = t.aliases := by
  obtain ⟨_, _, -, written, -⟩ := exists_of_copy h
  exact aliases_of_write written

end FileTree

namespace Job

theorem aliases_placeEntry (home : Location) (dir : Path) (t : FileTree)
    (entry : String × Option Content) : (placeEntry home dir t entry).aliases = t.aliases := by
  unfold placeEntry
  dsimp only
  have made := fun p => (FileTree.keeps_makeDirectories t home p).aliases
  split
  · split
    · next written => exact (FileTree.aliases_of_write written).trans (made _)
    · exact made _
  · exact made _

/-- **Programs make no aliases.** -/
theorem aliases_leaveFiles (home : Location) (c : Call) (exit : Exit) (t : FileTree) :
    (leaveFiles home c exit t).aliases = t.aliases := by
  have placed : ∀ (dir : Path) (entries : List (String × Option Content)) (t : FileTree),
      (entries.foldl (placeEntry home dir) t).aliases = t.aliases := by
    intro dir entries
    induction entries with
    | nil => exact fun _ => rfl
    | cons entry rest ih => exact fun t => (ih _).trans (aliases_placeEntry home dir t entry)
  unfold leaveFiles
  dsimp only
  refine (placed _ _ _).trans ?_
  cases exit.artifact with
  | none => rfl
  | some content =>
    dsimp only
    split
    · next written => exact FileTree.aliases_of_write written
    · rfl

/-- A call makes no other machine of a machine. -/
theorem akin_call (c : Call) (m : Machine) : m.Akin (call c m).2 := by
  unfold call
  dsimp only
  split
  · exact ⟨⟨rfl, rfl, rfl, rfl, rfl⟩, aliases_leaveFiles _ _ _ _⟩
  all_goals exact ⟨⟨rfl, rfl, rfl, rfl, rfl⟩, rfl⟩

/-! ## Jobs and their accesses -/

/-- **A look at the files goes by one path**: where that leads to the same, it sees the same. -/
def LooksOnlyAt {α : Type} (p : Path) (f : FileTree → Location → Except FileFault α) : Prop :=
  ∀ t t' home home', t'.locate home' p = t.locate home p → f t' home' = f t home

theorem looksOnlyAt_asks (is : Node → Bool) (p : Path) :
    LooksOnlyAt p fun t home => t.asks home is p := by
  intro t t' home home' same
  simp only [FileTree.asks, same]

theorem looksOnlyAt_read (p : Path) : LooksOnlyAt p fun t home => t.read home p := by
  intro t t' home home' same
  simp only [FileTree.read, same]

/-- **A job on a machine keeps to an allowance.**  It looks at files and changes them by paths that
are allowed, and makes calls that are; what it asks the machine for is how that is set up. -/
inductive Uses (a : Allowance) : {α : Type} → Job α → Machine → Prop
  | ends {α : Type} (r : Except Failure α) (m : Machine) : Uses a (ofExcept r) m
  | prints (text : String) (m : Machine) : Uses a (print text) m
  | looks {α : Type} {p : Path} {f : FileTree → Location → Except FileFault α}
      (allowed : a.reads p) (only : LooksOnlyAt p f) (m : Machine) : Uses a (look f) m
  | resolves (p : Path) (m : Machine) : Uses a (resolve p) m
  | makesDirectories {p : Path} (allowed : a.writes p) (m : Machine) :
      Uses a (makeDirectories p.parent) m
  | writes {p : Path} (allowed : a.writes p) (data : ByteArray) (m : Machine) :
      Uses a (change fun t home => t.write home p data) m
  | copies {source target : Path} (readable : a.reads source) (allowed : a.writes target)
      (inside : a.writes (target.join ⟨.relative, [source.name].filter Path.saysSomething⟩))
      (m : Machine) : Uses a (change fun t home => t.copy home source target) m
  | calls {c : Call} (allowed : a.calls c) (m : Machine) : Uses a (call c) m
  | asks {α : Type} {next : Machine → Job α} {m : Machine}
      (same : ∀ m', m.SetUpAs m' → next m' = next m) (h : Uses a (next m) m) :
      Uses a (machine >>= next) m
  | attempts {α : Type} {job : Job α} {m : Machine} (h : Uses a job m) : Uses a (attempt job) m
  | bind {α β : Type} {job : Job α} {next : α → Job β} {m : Machine} (h : Uses a job m)
      (hn : ∀ b m', job m = (.ok b, m') → Uses a (next b) m') : Uses a (job >>= next) m
  | inScratch {α : Type} {work : Path → Job α} {m : Machine}
      (h : ∀ dir m', makeScratch m = (.ok dir, m') → Uses a (work dir) m') :
      Uses a (withScratch work) m

variable {α β : Type} {a : Allowance} {job : Job α} {next : α → Job β} {m m' : Machine}

theorem snd_makeDirectories (p : Path) (m : Machine) : (makeDirectories p m).2 =
    { m with tree := (m.tree.makeDirectories m.home p).1 } := by
  unfold makeDirectories
  split <;> next made => rw [made]

/-- A change of the files is made, or nothing is. -/
theorem snd_change_of {P : Machine → Prop} {f : FileTree → Location → Except FileFault FileTree}
    (kept : P m) (changed : ∀ tree, f m.tree m.home = .ok tree → P { m with tree }) :
    P (change f m).2 := by
  rcases ended : f m.tree m.home with e | tree
  · rwa [change_error ended]
  · rw [change_ok ended]
    exact changed tree ended

namespace Uses

/-- **What calls bring about, and all else leaves**, a job brings about. -/
theorem moves {R : Machine → Machine → Prop} (h : Uses a job m) (lasting : Machine.Lasting R)
    (stays : ∀ m tree printed, tree.aliases = m.tree.aliases → R m { m with tree, printed })
    (called : ∀ m c, a.calls c → R m (call c m).2) : R m (job m).2 := by
  induction h with
  | ends r m => exact lasting.refl m
  | prints text m => exact stays m m.tree _ rfl
  | looks _ _ m => exact lasting.refl m
  | resolves p m => exact lasting.refl m
  | @makesDirectories p _ m =>
    rw [snd_makeDirectories]
    exact stays m _ m.printed (FileTree.keeps_makeDirectories m.tree m.home p.parent).aliases
  | writes _ _ m =>
    exact snd_change_of (lasting.refl m) fun tree written =>
      stays m tree m.printed (FileTree.aliases_of_write written)
  | copies _ _ _ m =>
    exact snd_change_of (lasting.refl m) fun tree copied =>
      stays m tree m.printed (FileTree.aliases_of_copy copied)
  | @calls c allowed m => exact called m c allowed
  | asks _ _ ih => exact ih
  | attempts _ ih => exact ih
  | bind _ _ ih ihn => exact moves_bind_at lasting ih ihn
  | @inScratch _ work m h ih =>
    rcases ended : withScratch work m with ⟨r, m'⟩
    obtain ⟨dir, m₁, m₂, prepared, worked, rfl⟩ := exists_of_withScratch ended
    have worked_there := ih dir m₁ prepared
    rw [worked] at worked_there
    obtain ⟨-, rfl⟩ := Prod.mk.inj (m.makeScratch_eq_inScratch.symm.trans prepared)
    have entered : R m m.inScratch := stays m _ m.printed rfl
    exact lasting.trans entered (lasting.trans worked_there (stays m₂ _ m₂.printed rfl))

/-- **A job makes no other machine of a machine.** -/
theorem akin (h : Uses a job m) : m.Akin (job m).2 :=
  h.moves Machine.lasting_akin (fun _ _ _ => .of_tree) fun m c _ => akin_call c m

/-- **The calls that a job makes are allowed.** -/
theorem makes (h : Uses a job m) :
    ∃ made, m.Makes made (job m).2 ∧ ∀ c ∈ made, a.calls c := by
  refine h.moves (R := fun m m' => ∃ made, m.Makes made m' ∧ ∀ c ∈ made, a.calls c) ⟨?_, ?_⟩ ?_ ?_
  · exact fun m => ⟨[], .refl m, nofun⟩
  · rintro m₁ m₂ m₃ ⟨made, makes, allowed⟩ ⟨made', makes', allowed'⟩
    exact ⟨made ++ made', makes.trans makes', List.forall_mem_append.2 ⟨allowed, allowed'⟩⟩
  · exact fun m _ _ _ => ⟨[], Machine.Quiet.of_eq rfl rfl, nofun⟩
  · exact fun m c allowed => ⟨[c], makes_call c m, List.forall_mem_singleton.2 allowed⟩

end Uses

end Job

/-! ## Places that are kept -/

/-- A program leaves a place as it is, in every tree that a machine may have. -/
def Exit.Spares (m : Machine) (l : Location) (c : Call) (exit : Exit) : Prop :=
  ∀ t, m.Hosts t → (Job.leaveFiles m.home c exit t).node? l = t.node? l

/-- A program that leaves nothing leaves every place as it is. -/
theorem Exit.spares_of_nothing {m : Machine} {l : Location} {c : Call} {exit : Exit}
    (artifact : exit.artifact = none) (checkout : exit.checkout = []) : exit.Spares m l c := by
  intro t _
  rw [Job.leaveFiles, artifact, checkout]
  rfl

namespace Machine

variable {m₀ m m₁ m₂ : Machine} {made made' : List Call} {P : Call → Exit → Prop} {l : Location}

/-- **The programs that answer some calls** have a property. -/
def Answers (m : Machine) (P : Call → Exit → Prop) (made : List Call) : Prop :=
  ∀ (i : Nat) (c : Call) (exit : Exit), made[i]? = some c →
    m.replies[i]? = some (Reply.ended exit) → P c exit

theorem Answers.left (h : m.Answers P (made ++ made')) : m.Answers P made := by
  intro i c exit called
  refine h i c exit ?_
  rw [List.getElem?_append_left (List.getElem?_eq_some_iff.1 called).1, called]

theorem Answers.right (h : m.Answers P (made ++ made')) (makes : m.Makes made m₁) :
    m₁.Answers P made' := by
  intro i c exit called replied
  rw [makes.replies, List.getElem?_drop] at replied
  refine h (made.length + i) c exit ?_ replied
  rw [List.getElem?_append_right (Nat.le_add_right _ _), Nat.add_sub_cancel_left, called]

/-- **A machine is extended aside of a place**: its files grow, and nothing is put at the place
unless a program that was called does so. -/
structure ExtendsAside (m₀ : Machine) (l : Location) (m m' : Machine) : Prop where
  extended : m.Extends .everywhere m'
  aside : ∃ made, m.Makes made m' ∧
    (m.Answers (Exit.Spares m₀ l) made → Grows (fun k _ => k ≠ l) m.tree m'.tree)

theorem ExtendsAside.trans (h : m₀.ExtendsAside l m m₁) (h' : m₀.ExtendsAside l m₁ m₂) :
    m₀.ExtendsAside l m m₂ where
  extended := h.extended.trans h'.extended
  aside := by
    obtain ⟨made, makes, aside⟩ := h.aside
    obtain ⟨made', makes', aside'⟩ := h'.aside
    exact ⟨made ++ made', makes.trans makes', fun spares =>
      (aside spares.left).trans (aside' (spares.right makes))⟩

/-- Without calls, what counts is the tree. -/
theorem ExtendsAside.of_grows {tree : FileTree} {printed : String}
    (h : Grows (fun k _ => k ≠ l) m.tree tree) :
    m₀.ExtendsAside l m { m with tree, printed } where
  extended := ⟨rfl, rfl, h.everywhere, [], Quiet.of_eq rfl rfl, fun _ => h.everywhere⟩
  aside := ⟨[], Quiet.of_eq rfl rfl, fun _ => h⟩

theorem ExtendsAside.refl (m : Machine) : m₀.ExtendsAside l m m := .of_grows (.refl m.tree)

/-- What a machine does that works where a given one does. -/
theorem lasting_extendsAside (m₀ : Machine) (l : Location) :
    Lasting fun m m' => m₀.Reaches m → m₀.ExtendsAside l m m' where
  refl m _ := .refl m
  trans h h' reaches := (h reaches).trans (h' ((h reaches).extended.reaches reaches))

theorem Reaches.hosts (h : m₀.Reaches m) : m₀.Hosts m.tree where
  sound := h.sound.tree
  home := h.home ▸ h.sound.home
  aliases := h.aliases
  found := h.scratch ▸ h.sound.found

/-- **A call** puts nothing at a place that its program spares. -/
theorem extendsAside_call (reaches : m₀.Reaches m) (c : Call) :
    m₀.ExtendsAside l m (Job.call c m).2 := by
  have extended : m.Extends .everywhere (Job.call c m).2 :=
    Job.within_call (fun _ _ _ _ _ => trivial) m reaches
  refine ⟨extended, [c], Job.makes_call c m, fun spares => extended.grows.confine ?_⟩
  rintro k changed - rfl
  obtain ⟨-, -, same | ⟨exit, replied, left⟩⟩ := Job.tree_call c m
  · exact changed (same ▸ rfl)
  · rw [left, reaches.home] at changed
    exact changed (spares 0 c exit rfl replied m.tree reaches.hosts)

end Machine

namespace Job

variable {α : Type} {a : Allowance} {job : Job α} {m₀ m : Machine} {l : Location}

/-- **A job puts nothing at a place** that no path leads to by which it may write. -/
theorem Uses.extendsAside (h : Uses a job m)
    (aside : ∀ p, a.writes p → ¬m₀.tree.IsPlace m₀.home p l) :
    m₀.Reaches m → m₀.ExtendsAside l m (job m).2 := by
  have elsewhere : ∀ {m : Machine} {p : Path}, m₀.Reaches m → a.writes p → ∀ k n,
      m.tree.locate m.home p = .ok ⟨k, n⟩ → k ≠ l := by
    rintro m p reaches allowed k n located rfl
    refine aside p allowed ((FileTree.isPlace_congr reaches.aliases).1 ?_)
    exact reaches.home ▸ FileTree.isPlace_of_locate located
  induction h with
  | ends r m => exact fun _ => .refl m
  | prints text m => exact fun _ => .of_grows (.refl m.tree)
  | looks _ _ m => exact fun _ => .refl m
  | resolves p m => exact fun _ => .refl m
  | makesDirectories _ m =>
    intro reaches
    rw [snd_makeDirectories]
    exact .of_grows (FileTree.grows_makeDirectories reaches.sound.tree reaches.sound.home _)
  | writes allowed _ m =>
    exact fun reaches => snd_change_of (.refl m) fun tree written =>
      .of_grows (FileTree.grows_write reaches.sound.tree reaches.sound.home
        (elsewhere reaches allowed) written)
  | copies _ allowed inside m =>
    refine fun reaches => snd_change_of (.refl m) fun tree copied => ?_
    obtain ⟨target', data, -, written, target_eq⟩ := FileTree.exists_of_copy copied
    have allowed' : a.writes target' := by
      obtain rfl | ⟨-, rfl⟩ := target_eq
      · exact allowed
      · exact inside
    exact .of_grows (FileTree.grows_write reaches.sound.tree reaches.sound.home
      (elsewhere reaches allowed') written)
  | calls _ m => exact fun reaches => Machine.extendsAside_call reaches _
  | asks _ _ ih => exact ih
  | attempts _ ih => exact ih
  | bind _ _ ih ihn => exact moves_bind_at (Machine.lasting_extendsAside m₀ l) ih ihn
  | @inScratch _ work m h ih =>
    intro reaches
    rcases ended : withScratch work m with ⟨r, m'⟩
    obtain ⟨dir, m₁, m₂, prepared, worked, rfl⟩ := exists_of_withScratch ended
    have worked_there := ih dir m₁ prepared
    rw [worked] at worked_there
    obtain ⟨same, rfl⟩ := Prod.mk.inj (m.makeScratch_eq_inScratch.symm.trans prepared)
    obtain rfl := Except.ok.inj same
    obtain ⟨free, room⟩ := reaches.sound.scratchDir_free
    have made : Grows .everywhere m.tree (m.tree.put m.scratchDir .directory) :=
      .put_directory room free
    obtain ⟨⟨home, scratch, grows, -⟩, calls, makes, spared⟩ :=
      worked_there ((Machine.Extends.of_grows made).reaches reaches)
    have pruned : ∀ {scope}, Grows scope (m.tree.put m.scratchDir .directory) m₂.tree →
        Grows scope m.tree (m₂.tree.prune m.scratchDir) := fun grows =>
      .prune reaches.sound.tree room free (grows.mono fun _ _ => .inl)
    exact ⟨⟨home, scratch, pruned grows, calls, ⟨makes.calls, makes.replies⟩,
      fun _ => pruned grows⟩, calls, ⟨makes.calls, makes.replies⟩,
      fun spares => pruned (spared spares)⟩

/-- **A place where a job may write nothing keeps its file, and gets none**, unless a program that
it calls does something there. -/
theorem Uses.keeps (h : Uses a job m) (sound : m.IsSound)
    (aside : ∀ p, a.writes p → ¬m.tree.IsPlace m.home p l)
    (spares : ∀ made, m.Makes made (job m).2 → m.Answers (Exit.Spares m l) made)
    (data : ByteArray) :
    (job m).2.tree.node? l = some (.file data) ↔ m.tree.node? l = some (.file data) := by
  obtain ⟨-, made, makes, spared⟩ := h.extendsAside aside (.refl sound)
  have grows := spared (spares made makes)
  exact ⟨grows.fresh l data fun _ other => other rfl, grows.kept l data fun other => other rfl⟩

/-! ## Putting jobs together -/

/-- **A job keeps to an allowance** on the machines that are akin to a given one. -/
def KeepsTo {α : Type} (m₀ : Machine) (a : Allowance) (job : Job α) : Prop :=
  ∀ m, m₀.Akin m → Uses a job m

namespace KeepsTo

variable {β : Type} {next : α → Job β}

theorem ofExcept (r : Except Failure α) : KeepsTo m₀ a (Job.ofExcept r) := fun m _ => .ends r m

theorem done (b : α) : KeepsTo m₀ a (Job.done b) := ofExcept (.ok b)

theorem fail (e : Failure) : KeepsTo m₀ a (Job.fail e : Job α) := ofExcept (.error e)

/-- What comes after has only to be looked at for values that what comes before can have. -/
theorem bind_of_ok (h : KeepsTo m₀ a job)
    (hn : ∀ b m m', m₀.Akin m → job m = (.ok b, m') → KeepsTo m₀ a (next b)) :
    KeepsTo m₀ a (job >>= next) := fun m akin =>
  .bind (h m akin) fun b m' ended => hn b m m' akin ended m' <| by
    have after := (h m akin).akin
    rw [ended] at after
    exact akin.trans after

theorem bind (h : KeepsTo m₀ a job) (hn : ∀ b, KeepsTo m₀ a (next b)) :
    KeepsTo m₀ a (job >>= next) := h.bind_of_ok fun b _ _ _ _ => hn b

theorem attempt (h : KeepsTo m₀ a job) : KeepsTo m₀ a (Job.attempt job) :=
  fun m akin => .attempts (h m akin)

theorem ite {c : Prop} [Decidable c] {other : Job α} (h : c → KeepsTo m₀ a job)
    (ho : ¬c → KeepsTo m₀ a other) : KeepsTo m₀ a (if c then job else other) := by
  split
  · next hc => exact h hc
  · next hc => exact ho hc

/-- A step that may be left out. -/
theorem optional {c : Prop} [Decidable c] {step : Job Unit} {next : Unit → Job α}
    (h : KeepsTo m₀ a step) (hn : ∀ u, KeepsTo m₀ a (next u)) :
    KeepsTo m₀ a (if c then step >>= next else next ()) := ite (fun _ => h.bind hn) fun _ => hn ()

/-- What reads how the machine is set up goes on for machines that are set up alike. -/
theorem machine {next : Machine → Job β} (same : ∀ m m', m.SetUpAs m' → next m' = next m)
    (hn : ∀ m, m₀.Akin m → KeepsTo m₀ a (next m)) : KeepsTo m₀ a (Job.machine >>= next) :=
  fun m akin => .asks (same m) (hn m akin m akin)

/-- Work keeps to what it does in any of the directories that may be made for it. -/
theorem withScratch {work : Path → Job α}
    (h : ∀ n, KeepsTo m₀ a
      (work ⟨.single, m₀.scratch ++ [FileTree.numbered m₀.scratchName n]⟩)) :
    KeepsTo m₀ a (Job.withScratch work) := by
  refine fun m akin => .inScratch fun dir m₁ prepared => ?_
  obtain ⟨same, rfl⟩ := Prod.mk.inj (m.makeScratch_eq_inScratch.symm.trans prepared)
  obtain rfl := Except.ok.inj same
  obtain ⟨n, -, name_eq, -⟩ := m.tree.exists_freeName m.scratch m.scratchName
  rw [Machine.scratchDir, name_eq, akin.scratch, akin.scratchName]
  exact h n _ (akin.trans (.of_tree rfl))

theorem printLine (line : String) : KeepsTo m₀ a (Job.printLine line) :=
  fun m _ => .prints _ m

theorem printLines (lines : List String) : KeepsTo m₀ a (Job.printLines lines) := by
  induction lines with
  | nil => exact .done ()
  | cons line rest ih => exact (printLine line).bind fun _ => ih

theorem resolve (p : Path) : KeepsTo m₀ a (Job.resolve p) := fun m _ => .resolves p m

theorem call {c : Call} (allowed : a.calls c) : KeepsTo m₀ a (Job.call c) :=
  fun m _ => .calls allowed m

section

variable {p : Path} (allowed : a.reads p)
include allowed

theorem isThere : KeepsTo m₀ a (Job.isThere p) :=
  fun m _ => .looks allowed (looksOnlyAt_asks _ p) m

theorem isFile : KeepsTo m₀ a (Job.isFile p) :=
  fun m _ => .looks allowed (looksOnlyAt_asks _ p) m

theorem readBytes : KeepsTo m₀ a (Job.readBytes p) :=
  fun m _ => .looks allowed (looksOnlyAt_read p) m

theorem readText : KeepsTo m₀ a (Job.readText p) := by
  refine (readBytes allowed).bind fun data => ?_
  split
  · exact .done _
  · exact .fail _

end

theorem writeText {p : Path} (allowed : a.writes p) (text : String) :
    KeepsTo m₀ a (Job.writeText p text) := by
  unfold Job.writeText
  split
  · exact .fail _
  · next data _ =>
    exact bind (fun m _ => .makesDirectories allowed m) fun _ m _ => .writes allowed data m

theorem copyFile {source target : Path} (readable : a.reads source) (allowed : a.writes target)
    (inside : a.writes (target.join ⟨.relative, [source.name].filter Path.saysSomething⟩)) :
    KeepsTo m₀ a (Job.copyFile source target) :=
  bind (fun m _ => .makesDirectories allowed m) fun _ m _ => .copies readable allowed inside m

end KeepsTo

end Job

end ProofGrading
