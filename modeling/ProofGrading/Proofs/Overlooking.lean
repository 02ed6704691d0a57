import ProofGrading.Proofs.Accesses

/-!
# Proofs/Overlooking — what stands out of the way makes no difference

Two trees agree outside some places when the same stands everywhere else
(`FileTree.AgreesOutside`).  A path that passes by the places leads to the same in both, so making
directories, writing and copying end alike and leave trees that agree again.  Main statement: a job
whose paths pass by the places ends alike on both, with the same calls and the same text printed
(`Job.Uses.overlooks`).
-/

namespace ProofGrading

namespace FileTree

variable {t t' : FileTree} {home : Location} {p : Path} {data : ByteArray} {S : Location → Prop}

/-- **Trees agree outside some places**: the aliases are the same, and the same stands elsewhere. -/
structure AgreesOutside (S : Location → Prop) (t t' : FileTree) : Prop where
  aliases : t'.aliases = t.aliases
  node : ∀ l, ¬S l → t'.node? l = t.node? l

/-- **A path passes by some places**: none of them is on its way. -/
def PassesBy (t : FileTree) (home : Location) (S : Location → Prop) (p : Path) : Prop :=
  ∀ l, t.OnWay home p l → ¬S l

theorem PassesBy.parent (h : t.PassesBy home S p) : t.PassesBy home S p.parent :=
  fun l way => h l way.of_parent

theorem PassesBy.congr (h : t.PassesBy home S p) (aliases : t'.aliases = t.aliases) :
    t'.PassesBy home S p := fun l way => h l ((onWay_congr aliases).1 way)

/-- Without aliases names lead through themselves. -/
theorem mem_resolveNames {dir : Location} {names : List String} {name : String}
    (plain : t.aliases = []) (there : name ∈ t.resolveNames dir names) :
    name ∈ dir ∨ name ∈ names := by
  induction names generalizing dir with
  | nil => exact .inl there
  | cons first rest ih =>
    rw [resolveNames] at there
    split at there
    · exact (ih there).imp (List.dropLast_subset dir ·) (List.mem_cons_of_mem first)
    · have free : ∀ a ∈ t.aliases, a.1 ≠ dir ++ [first] := fun a among => by simp [plain] at among
      rw [step_of_plain free] at there
      obtain there | there := ih there
      · refine (List.mem_append.1 there).imp_right fun itself => ?_
        exact List.mem_singleton.1 itself ▸ List.mem_cons_self
      · exact .inr (List.mem_cons_of_mem first there)

/-- **Without aliases a path passes by all places with a name** that it does not have and that is
not in the working directory's. -/
theorem passesBy_of_name {name : String} (plain : t.aliases = []) (aside : name ∉ home)
    (unnamed : name ∉ p.names) : t.PassesBy home (name ∈ ·) p := by
  rintro _ ⟨front, back, split, rfl⟩ there
  obtain at_start | among := mem_resolveNames plain there
  · unfold start at at_start
    split at at_start
    · cases at_start
    · exact aside at_start
  · exact unnamed (split ▸ List.mem_append_left back among)

/-- **Two changes agree outside some places**: they fail for one reason, or leave trees that
agree. -/
inductive ChangesAgree (S : Location → Prop) :
    Except FileFault FileTree → Except FileFault FileTree → Prop
  | failed (e : FileFault) : ChangesAgree S (.error e) (.error e)
  | done {t t' : FileTree} (agree : t.AgreesOutside S t') : ChangesAgree S (.ok t) (.ok t')

namespace AgreesOutside

variable (h : t.AgreesOutside S t')
include h

theorem put (l : Location) (n : Node) : (t.put l n).AgreesOutside S (t'.put l n) where
  aliases := h.aliases
  node k out := by
    by_cases same : k = l
    · subst same
      by_cases root : k = []
      · rw [root]
        rfl
      · rw [node?_put_self t' n root, node?_put_self t n root]
    · rw [node?_put_ne t' n same, node?_put_ne t n same, h.node k out]

theorem prune (dir : Location) : (t.prune dir).AgreesOutside S (t'.prune dir) where
  aliases := h.aliases
  node k out := by
    by_cases root : k = []
    · rw [root]
      rfl
    · by_cases below : dir <+: k
      · rw [node?_prune_of_below below root, node?_prune_of_below below root]
      · rw [node?_prune_of_not_below below, node?_prune_of_not_below below, h.node k out]

/-- **A path that passes by leads to the same.** -/
theorem locate (by_them : t.PassesBy home S p) : t'.locate home p = t.locate home p :=
  locate_congr h.aliases fun l way => h.node l (by_them l way)

theorem makeDirectory (by_them : t.PassesBy home S p) :
    ChangesAgree S (t.makeDirectory home p) (t'.makeDirectory home p) := by
  rw [FileTree.makeDirectory, FileTree.makeDirectory, h.locate by_them]
  rcases t.locate home p with e | ⟨l, _ | node⟩
  · exact .failed e
  · exact .done (h.put l .directory)
  · exact .failed .occupied

theorem write (by_them : t.PassesBy home S p) (data : ByteArray) :
    ChangesAgree S (t.write home p data) (t'.write home p data) := by
  rw [FileTree.write, FileTree.write, h.locate by_them]
  rcases t.locate home p with e | ⟨l, _ | old | _⟩
  · exact .failed e
  · exact .done (h.put l (.file data))
  · exact .done (h.put l (.file data))
  · exact .failed .isDirectory

theorem isDirectory (by_them : t.PassesBy home S p) :
    t'.isDirectory home p = t.isDirectory home p := by
  rw [FileTree.isDirectory, FileTree.isDirectory, asks, asks, h.locate by_them]

theorem unlessDirectory (by_them : t.PassesBy home S p) (e : FileFault) :
    t'.unlessDirectory home p e = t.unlessDirectory home p e := by
  rw [FileTree.unlessDirectory, FileTree.unlessDirectory, h.isDirectory by_them]

end AgreesOutside

namespace ChangesAgree

variable {r : Except FileFault FileTree}

theorem eq_error {e : FileFault} (h : ChangesAgree S (.error e) r) : r = .error e := by
  cases h
  rfl

theorem exists_ok (h : ChangesAgree S (.ok t) r) : ∃ t', r = .ok t' ∧ t.AgreesOutside S t' := by
  cases h with
  | done agree => exact ⟨_, rfl, agree⟩

end ChangesAgree

/-- What a directory stands in is made first. -/
theorem makeDirectories_of_missing (missing : t.makeDirectory home p = .error .notFound)
    (some_names : p.names ≠ []) : t.makeDirectories home p =
      match t.makeDirectories home p.parent with
      | (t, some e) => (t, some e)
      | (t, none) =>
        match t.makeDirectory home p with
        | .ok t => (t, none)
        | .error .notFound => (t, some .notFound)
        | .error e => (t, t.unlessDirectory home p e) := by
  rw [makeDirectories, missing]
  exact dif_neg some_names

/-- **What was made agrees outside some places**, and the same went wrong. -/
def DirectoriesAgree (S : Location → Prop) (r r' : FileTree × Option FileFault) : Prop :=
  r'.2 = r.2 ∧ r.1.AgreesOutside S r'.1

theorem DirectoriesAgree.exists_eq {fault : Option FileFault} {r : FileTree × Option FileFault}
    (h : DirectoriesAgree S (t, fault) r) : ∃ t', r = (t', fault) ∧ t.AgreesOutside S t' :=
  ⟨r.1, Prod.ext rfl h.1, h.2⟩

/-- **Making directories agrees**, step by step. -/
theorem AgreesOutside.makeDirectories (h : t.AgreesOutside S t')
    (by_them : t.PassesBy home S p) :
    DirectoriesAgree S (t.makeDirectories home p) (t'.makeDirectories home p) := by
  have later : ∀ {p t₁ fault}, t.PassesBy home S p → t.makeDirectories home p.parent = (t₁, fault) →
      t₁.PassesBy home S p := fun {p t₁ fault} by_them parents => by
    have keeps := keeps_makeDirectories t home p.parent
    rw [parents] at keeps
    exact by_them.congr keeps.aliases
  fun_induction FileTree.makeDirectories t home p with
  | case1 p t₁ made =>
    obtain ⟨t₁', made', agree⟩ := (made ▸ h.makeDirectory by_them).exists_ok
    rw [FileTree.makeDirectories, made']
    exact ⟨rfl, agree⟩
  | case2 p missing empty =>
    have missing' := (missing ▸ h.makeDirectory by_them).eq_error
    rw [FileTree.makeDirectories, missing']
    simp only [empty, dif_pos]
    exact ⟨rfl, h⟩
  | case3 p missing some_names t₁ e parents ih =>
    have missing' := (missing ▸ h.makeDirectory by_them).eq_error
    obtain ⟨t₁', parents', agree⟩ := (parents ▸ ih by_them.parent).exists_eq
    rw [makeDirectories_of_missing missing' some_names, parents']
    exact ⟨rfl, agree⟩
  | case4 p missing some_names t₁ parents t₂ made ih =>
    have missing' := (missing ▸ h.makeDirectory by_them).eq_error
    obtain ⟨t₁', parents', agree⟩ := (parents ▸ ih by_them.parent).exists_eq
    obtain ⟨t₂', made', agree⟩ :=
      (made ▸ agree.makeDirectory (later by_them parents)).exists_ok
    rw [makeDirectories_of_missing missing' some_names, parents']
    dsimp only
    rw [made']
    exact ⟨rfl, agree⟩
  | case5 p missing some_names t₁ parents still ih =>
    have missing' := (missing ▸ h.makeDirectory by_them).eq_error
    obtain ⟨t₁', parents', agree⟩ := (parents ▸ ih by_them.parent).exists_eq
    have still' := (still ▸ agree.makeDirectory (later by_them parents)).eq_error
    rw [makeDirectories_of_missing missing' some_names, parents']
    dsimp only
    rw [still']
    exact ⟨rfl, agree⟩
  | case6 p missing some_names t₁ parents e other failed ih =>
    have missing' := (missing ▸ h.makeDirectory by_them).eq_error
    obtain ⟨t₁', parents', agree⟩ := (parents ▸ ih by_them.parent).exists_eq
    have failed' := (failed ▸ agree.makeDirectory (later by_them parents)).eq_error
    rw [makeDirectories_of_missing missing' some_names, parents']
    dsimp only
    rw [failed']
    split
    · next made => cases made
    · next same => exact (other (Except.error.inj same)).elim
    · next e' _ same =>
      cases same
      exact ⟨agree.unlessDirectory (later by_them parents) e, agree⟩
  | case7 p e other failed =>
    have failed' := (failed ▸ h.makeDirectory by_them).eq_error
    rw [FileTree.makeDirectories, failed']
    split
    · next made => cases made
    · next same => exact (other (Except.error.inj same)).elim
    · next e' _ same =>
      cases same
      exact ⟨h.unlessDirectory by_them e, h⟩

/-- **Copying agrees.** -/
theorem AgreesOutside.copy (h : t.AgreesOutside S t') {source target : Path}
    (source_by : t.PassesBy home S source) (target_by : t.PassesBy home S target)
    (inside_by : t.PassesBy home S
      (target.join ⟨.relative, [source.name].filter Path.saysSomething⟩)) :
    ChangesAgree S (t.copy home source target) (t'.copy home source target) := by
  have same_target : t'.destination home source target = t.destination home source target := by
    rw [destination, destination, h.isDirectory target_by]
  have by_them : t.PassesBy home S (t.destination home source target) := by
    unfold destination
    split
    · exact inside_by
    · exact target_by
  have found := h.locate source_by
  have located := h.locate by_them
  have same_file : t'.sameFile home source (t.destination home source target) =
      t.sameFile home source (t.destination home source target) := by
    rw [sameFile, sameFile, found, located]
  have same_fault : t'.pathFault? home source = t.pathFault? home source := by
    rw [pathFault?, pathFault?, found]
  have same_fault' : t'.pathFault? home (t.destination home source target) =
      t.pathFault? home (t.destination home source target) := by
    rw [pathFault?, pathFault?, located]
  have same_data : t'.read home source = t.read home source := by rw [read, read, found]
  rw [copy_eq, copy_eq, same_target, same_file, same_fault, same_fault', same_data]
  by_cases itself : t.sameFile home source (t.destination home source target) = true
  · rw [if_pos itself, if_pos itself]
    exact .failed _
  · rw [if_neg itself, if_neg itself]
    rcases (t.pathFault? home source).or _ with _ | e
    · rcases t.read home source with e | data
      · exact .failed e
      · exact h.write by_them data
    · exact .failed e

end FileTree

/-! ## Jobs -/

/-- **Machines agree outside some places**: they differ in nothing but what stands there. -/
def Machine.AgreesOutside (S : Location → Prop) (m m' : Machine) : Prop :=
  ∃ t', m.tree.AgreesOutside S t' ∧ m' = { m with tree := t' }

/-- A machine agrees with what it is after something was put at one of the places. -/
theorem Machine.agreesOutside_put (m : Machine) {S : Location → Prop} {l : Location} (among : S l)
    (n : Node) : m.AgreesOutside S { m with tree := m.tree.put l n } := by
  refine ⟨m.tree.put l n, ⟨rfl, fun k out => FileTree.node?_put_ne m.tree n ?_⟩, rfl⟩
  rintro rfl
  exact out among

/-- **A program overlooks some places**: what it leaves elsewhere does not go by what is there. -/
def Exit.Overlooks (m : Machine) (S : Location → Prop) (c : Call) (exit : Exit) : Prop :=
  ∀ t t' : FileTree, t.aliases = m.tree.aliases → t.AgreesOutside S t' →
    (Job.leaveFiles m.home c exit t).AgreesOutside S (Job.leaveFiles m.home c exit t')

/-- A program that leaves nothing overlooks all places. -/
theorem Exit.overlooks_of_nothing {m : Machine} {S : Location → Prop} {c : Call} {exit : Exit}
    (artifact : exit.artifact = none) (checkout : exit.checkout = []) :
    exit.Overlooks m S c := by
  intro t t' _ agree
  rw [Job.leaveFiles, Job.leaveFiles, artifact, checkout]
  exact agree

/-- **An allowance passes by some places**: so do its paths, and no temporary directory is made
there. -/
structure Allowance.PassesBy (a : Allowance) (m : Machine) (S : Location → Prop) : Prop where
  reads : ∀ p, a.reads p → m.tree.PassesBy m.home S p
  writes : ∀ p, a.writes p → m.tree.PassesBy m.home S p
  scratch : ∀ n, ¬S (m.scratch ++ [FileTree.numbered m.scratchName n])

namespace Job

variable {α : Type} {a : Allowance} {job : Job α} {m₀ m m' : Machine} {S : Location → Prop}

/-- Changes of the files that agree are made on machines that agree. -/
theorem overlooks_change {f : FileTree → Location → Except FileFault FileTree} {t' : FileTree}
    (agree : m.tree.AgreesOutside S t')
    (h : FileTree.ChangesAgree S (f m.tree m.home) (f t' m.home)) :
    (change f { m with tree := t' }).1 = (change f m).1 ∧
      (change f m).2.AgreesOutside S (change f { m with tree := t' }).2 := by
  rcases changed : f m.tree m.home with e | t₁
  · have changed' := (changed ▸ h).eq_error
    rw [change_error changed, change_error changed']
    exact ⟨rfl, t', agree, rfl⟩
  · obtain ⟨t₁', changed', agree₁⟩ := (changed ▸ h).exists_ok
    rw [change_ok changed, change_ok changed']
    exact ⟨rfl, t₁', agree₁, rfl⟩

/-- Directories that agree are made on machines that agree. -/
theorem overlooks_makeDirectories {p : Path} {t' : FileTree}
    (h : FileTree.DirectoriesAgree S (m.tree.makeDirectories m.home p)
      (t'.makeDirectories m.home p)) :
    (makeDirectories p { m with tree := t' }).1 = (makeDirectories p m).1 ∧
      (makeDirectories p m).2.AgreesOutside S (makeDirectories p { m with tree := t' }).2 := by
  rcases made : m.tree.makeDirectories m.home p with ⟨t₁, fault⟩
  obtain ⟨t₁', made', agree⟩ := (made ▸ h).exists_eq
  unfold makeDirectories
  rw [made, made']
  cases fault <;> exact ⟨rfl, t₁', agree, rfl⟩

theorem overlooks_call {c : Call} {t' : FileTree} (akin : m₀.Akin m)
    (agree : m.tree.AgreesOutside S t') (programs : m.Answers (Exit.Overlooks m₀ S) [c]) :
    (call c { m with tree := t' }).1 = (call c m).1 ∧
      (call c m).2.AgreesOutside S (call c { m with tree := t' }).2 := by
  have ended : ∀ exit, m.replies[0]? = some (.ended exit) →
      (leaveFiles m.home c exit m.tree).AgreesOutside S (leaveFiles m.home c exit t') := by
    intro exit replied
    rw [akin.home]
    exact programs 0 c exit rfl replied m.tree t' akin.aliases agree
  unfold call
  dsimp only
  cases replies : m.replies with
  | nil => exact ⟨rfl, t', agree, rfl⟩
  | cons reply rest =>
    rw [replies] at ended
    cases reply with
    | ended exit => exact ⟨rfl, _, ended exit rfl, rfl⟩
    | _ => exact ⟨rfl, t', agree, rfl⟩

/-- **What stands out of the way makes no difference to a job.**  On machines that differ only at
places that the allowance passes by it ends alike, makes the same calls and prints the same, and
leaves machines that differ only there, as far as the programs that it calls overlook the places. -/
theorem Uses.overlooks (h : Uses a job m) (akin : m₀.Akin m) (by_them : a.PassesBy m₀ S)
    (programs : ∀ made, m.Makes made (job m).2 → m.Answers (Exit.Overlooks m₀ S) made)
    (agree : m.AgreesOutside S m') :
    (job m').1 = (job m).1 ∧ (job m).2.AgreesOutside S (job m').2 := by
  have passes : ∀ {m : Machine} {p : Path}, m₀.Akin m → m₀.tree.PassesBy m₀.home S p →
      m.tree.PassesBy m.home S p := fun akin passes => by
    rw [akin.home]
    exact passes.congr akin.aliases
  induction h generalizing m' with
  | ends r m => exact ⟨rfl, agree⟩
  | prints text m =>
    obtain ⟨t', agree, rfl⟩ := agree
    exact ⟨rfl, t', agree, rfl⟩
  | @looks _ p f allowed only m =>
    obtain ⟨t', agree, rfl⟩ := agree
    have same := only m.tree t' m.home m.home
      (agree.locate (passes akin (by_them.reads p allowed)))
    refine ⟨?_, t', agree, rfl⟩
    rw [look, look, same]
  | resolves p m =>
    obtain ⟨t', agree, rfl⟩ := agree
    refine ⟨?_, t', agree, rfl⟩
    rw [resolve, look, look, FileTree.resolve, FileTree.resolve,
      FileTree.resolveNames_congr agree.aliases]
  | @makesDirectories p allowed m =>
    obtain ⟨t', agree, rfl⟩ := agree
    have made := agree.makeDirectories (passes akin (by_them.writes p allowed)).parent
    exact overlooks_makeDirectories made
  | @writes p allowed data m =>
    obtain ⟨t', agree, rfl⟩ := agree
    exact overlooks_change agree (agree.write (passes akin (by_them.writes p allowed)) data)
  | @copies source target readable allowed inside m =>
    obtain ⟨t', agree, rfl⟩ := agree
    exact overlooks_change agree (agree.copy (passes akin (by_them.reads _ readable))
      (passes akin (by_them.writes _ allowed)) (passes akin (by_them.writes _ inside)))
  | @calls c _ m =>
    obtain ⟨t', agree, rfl⟩ := agree
    exact overlooks_call akin agree (programs [c] (makes_call c m))
  | @asks _ next m same _ ih =>
    obtain ⟨t', agree, rfl⟩ := agree
    have asked : ∀ m, (machine >>= next) m = next m m := fun m => bind_ok rfl _
    rw [asked, same { m with tree := t' } ⟨rfl, rfl, rfl, rfl, rfl⟩]
    exact ih akin programs ⟨t', agree, rfl⟩
  | @attempts _ job m _ ih =>
    obtain ⟨same, agree⟩ := ih akin programs agree
    exact ⟨congrArg Except.ok same, agree⟩
  | @bind _ _ job next m h hn ih ihn =>
    rcases hj : job m with ⟨r, m₁⟩
    rcases hj' : job m' with ⟨r', m₁'⟩
    have akin₁ := akin.trans h.akin
    have first := @ih m' akin
    rw [hj] at akin₁
    rw [hj, hj'] at first
    cases r with
    | error e =>
      rw [bind_error hj] at programs ⊢
      obtain ⟨same, agree₁⟩ := first programs agree
      obtain rfl : r' = .error e := same
      rw [bind_error hj']
      exact ⟨rfl, agree₁⟩
    | ok b =>
      rw [bind_ok hj] at programs ⊢
      obtain ⟨made, makes, -⟩ := h.makes
      obtain ⟨made', makes', -⟩ := (hn b m₁ hj).makes
      rw [hj] at makes
      obtain ⟨same, agree₁⟩ := first
        (fun _ makes => (programs _ (makes.trans makes')).left) agree
      obtain rfl : r' = .ok b := same
      rw [bind_ok hj']
      exact ihn b m₁ hj akin₁ (fun _ makes' => (programs _ (makes.trans makes')).right makes) agree₁
  | @inScratch _ work m h ih =>
    obtain ⟨t', agree, rfl⟩ := agree
    have same_name : t'.freeName m.scratch m.scratchName =
        m.tree.freeName m.scratch m.scratchName := by
      refine FileTree.freeName_congr fun n => ?_
      rw [agree.node _ (by rw [akin.scratch, akin.scratchName]; exact by_them.scratch n)]
    have prepared := m.makeScratch_eq_inScratch
    obtain ⟨m₁', prepared', entered⟩ : ∃ m₁', makeScratch { m with tree := t' } =
        (.ok ⟨.single, m.scratchDir⟩, m₁') ∧ m.inScratch.AgreesOutside S m₁' :=
      ⟨_, makeScratch_eq rfl same_name, _, agree.put m.scratchDir .directory, rfl⟩
    rcases worked : work ⟨.single, m.scratchDir⟩ m.inScratch with ⟨r, m₂⟩
    rcases worked' : work ⟨.single, m.scratchDir⟩ m₁' with ⟨r', m₂'⟩
    rw [withScratch_eq prepared worked] at programs ⊢
    rw [withScratch_eq prepared' worked']
    have ended := @ih _ _ prepared m₁' (akin.trans (.of_tree rfl))
    rw [worked, worked'] at ended
    obtain ⟨same, t₂', agree₂, rfl⟩ :=
      ended (fun made makes => programs made ⟨makes.calls, makes.replies⟩) entered
    exact ⟨same, _, agree₂.prune m.scratchDir, rfl⟩

end Job

end ProofGrading
