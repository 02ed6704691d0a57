import ProofGrading.Proofs.Fetching
import ProofGrading.Proofs.Growth

/-!
# Proofs/Footprint — where a job puts files

A machine is extended within a scope when its files grow there, provided that the programs that were
called kept to the temporary directories they were given (`Machine.Extends`, `Machine.Confined`).
This lasts, so it is shown job by job.  Work in a temporary directory leaves nothing there, whoever
wrote in it (`Job.within_withScratch`); so compiling and grading put no file anywhere
(`GradingRun.within_gradeSubmission`).
-/

namespace ProofGrading

open FileTree (Scope Grows IsPlace)

/-! ## What programs leave -/

namespace Job

variable {t : FileTree} {home : Location}

theorem grows_written (sound : t.IsSound) (there : t.node? home = some .directory) (p : Path)
    (data : ByteArray) :
    Grows .everywhere t (match t.write home p data with | .ok t' => t' | .error _ => t) := by
  split
  · next t' written => exact FileTree.grows_write sound there (fun _ _ _ => trivial) written
  · exact .refl t

theorem grows_placeEntry (sound : t.IsSound) (there : t.node? home = some .directory)
    (dir : Path) (entry : String × Option Content) :
    Grows .everywhere t (placeEntry home dir t entry) := by
  unfold placeEntry
  dsimp only
  split
  · have made : Grows .everywhere t _ :=
      FileTree.grows_makeDirectories sound there (dir.child entry.1).parent
    exact made.trans (grows_written (made.sound sound) (made.directory _ there) _ _)
  · exact FileTree.grows_makeDirectories sound there _

theorem grows_placeEntries (sound : t.IsSound) (there : t.node? home = some .directory)
    (dir : Path) (entries : List (String × Option Content)) :
    Grows .everywhere t (entries.foldl (placeEntry home dir) t) := by
  induction entries generalizing t with
  | nil => exact .refl t
  | cons entry rest ih =>
    have first := grows_placeEntry sound there dir entry
    exact first.trans (ih (first.sound sound) (first.directory _ there))

/-- **What a program leaves** is more files, and no directory less. -/
theorem grows_leaveFiles (sound : t.IsSound) (there : t.node? home = some .directory) (c : Call)
    (exit : Exit) : Grows .everywhere t (leaveFiles home c exit t) := by
  unfold leaveFiles
  dsimp only
  cases exit.artifact with
  | none => exact grows_placeEntries sound there _ _
  | some content =>
    have first := grows_written sound there (.ofString (c.command.getLast?.getD "")) content.bytes
    exact first.trans (grows_placeEntries (first.sound sound) (first.directory _ there) _ _)

end Job

/-! ## What programs are given -/

/-- **A call gives a directory to a program**: the clone is to be made in it, or the object or the
export is to be written there. -/
def Call.Gives (c : Call) (dir : Location) : Prop :=
  match c.command with
  | ["git", "clone", _, _, _, target] => target = Path.text ⟨.single, dir ++ ["template"]⟩
  | [_, "env", "lean", "-o", object, _] =>
    object = Path.text ⟨.single, dir ++ [submissionModule ++ ".olean"]⟩
  | [_, "env", "lean", "--run", _, _, output] =>
    output = Path.text ⟨.single, dir ++ ["environment.json"]⟩
  | _ => False

/-- **A program keeps to the temporary directories** that its call gives it: in a sound tree with a
place for temporary directories it changes nothing else. -/
def Exit.StaysIn (m : Machine) (c : Call) (exit : Exit) : Prop :=
  ∀ t : FileTree, t.IsSound → t.node? m.home = some .directory → t.aliases = m.tree.aliases →
    t.walk [] m.scratch = .ok ⟨m.scratch, some .directory⟩ →
      ∀ l, (Job.leaveFiles m.home c exit t).node? l ≠ t.node? l →
        ∃ x, c.Gives (m.scratch ++ [x]) ∧ m.scratch ++ [x] <+: l

/-- A program that leaves nothing keeps to any directory. -/
theorem Exit.staysIn_of_nothing {m : Machine} {c : Call} {exit : Exit}
    (artifact : exit.artifact = none) (checkout : exit.checkout = []) : exit.StaysIn m c := by
  intro t _ _ _ _ l changed
  rw [Job.leaveFiles, artifact, checkout] at changed
  exact absurd rfl changed

namespace Path

/-- A name seen from a path. -/
theorem child_of_plain {name : String} (plain : ofString name = ⟨.relative, [name]⟩) (p : Path) :
    p.child name = ⟨p.root, p.names ++ [name]⟩ := by
  rw [child, plain]
  rfl

/-- A name seen from a path stands in that path. -/
theorem parent_child_of_plain {name : String} (plain : ofString name = ⟨.relative, [name]⟩)
    (p : Path) : (p.child name).parent = p := by
  rw [child_of_plain plain, parent, List.dropLast_concat]

theorem intercalate_cons (sep name : String) {names : List String} (some : names ≠ []) :
    sep.intercalate (name :: names) = name ++ sep ++ sep.intercalate names := by
  cases names with
  | nil => exact absurd rfl some
  | cons next rest => exact String.intercalate_cons_cons

/-- Directories in a directory are told apart by the text of a file in them. -/
theorem text_inside_injective {dir : Location} {x y file : String}
    (same : text ⟨.single, dir ++ [x] ++ [file]⟩ = text ⟨.single, dir ++ [y] ++ [file]⟩) :
    x = y := by
  have names_eq : "/".intercalate (dir ++ [x] ++ [file]) =
      "/".intercalate (dir ++ [y] ++ [file]) := by
    simpa [text, rootText] using same
  clear same
  induction dir with
  | nil =>
    rw [List.nil_append, List.nil_append, List.singleton_append, List.singleton_append,
      intercalate_cons _ _ (List.cons_ne_nil _ _), intercalate_cons _ _ (List.cons_ne_nil _ _)]
      at names_eq
    simpa using names_eq
  | cons name dir ih =>
    refine ih ?_
    rw [List.cons_append, List.cons_append, List.cons_append, List.cons_append,
      intercalate_cons _ _ (by simp), intercalate_cons _ _ (by simp)] at names_eq
    simpa using names_eq

end Path

namespace Machine

/-- **The programs that are called keep to the temporary directories** that they are given. -/
def Confined (m : Machine) (made : List Call) : Prop :=
  ∀ (i : Nat) (c : Call) (exit : Exit), made[i]? = some c →
    m.replies[i]? = some (Reply.ended exit) → exit.StaysIn m c

/-- **A machine is sound**: its tree is, it works in a directory, and the directory for temporary
ones is found where it is, without aliases below it. -/
structure IsSound (m : Machine) : Prop where
  tree : m.tree.IsSound
  home : m.tree.node? m.home = some .directory
  found : m.tree.walk [] m.scratch = .ok ⟨m.scratch, some .directory⟩
  plain : ∀ a ∈ m.tree.aliases, ∀ rest, a.1 = m.scratch ++ rest → rest = []

/-- **A machine is extended within a scope**: it works where it worked, its files grow, and within
the scope if the programs that it called kept to their temporary directories. -/
structure Extends (scope : Scope) (m m' : Machine) : Prop where
  home : m'.home = m.home
  scratch : m'.scratch = m.scratch
  grows : Grows .everywhere m.tree m'.tree
  within : ∃ made, m.Makes made m' ∧ (m.Confined made → Grows scope m.tree m'.tree)

/-- A sound machine that works where another one does. -/
structure Reaches (m₀ m : Machine) : Prop where
  home : m.home = m₀.home
  scratch : m.scratch = m₀.scratch
  aliases : m.tree.aliases = m₀.tree.aliases
  sound : m.IsSound

variable {m₀ m m₁ m₂ m' : Machine} {scope scope' : Scope} {made made' : List Call}

theorem Reaches.refl (sound : m.IsSound) : m.Reaches m := ⟨rfl, rfl, rfl, sound⟩

theorem Extends.reaches (h : m.Extends scope m') (reaches : m₀.Reaches m) : m₀.Reaches m' where
  home := h.home.trans reaches.home
  scratch := h.scratch.trans reaches.scratch
  aliases := h.grows.aliases.trans reaches.aliases
  sound := by
    obtain ⟨tree, home, found, plain⟩ := reaches.sound
    refine ⟨h.grows.sound tree, ?_, ?_, ?_⟩
    · exact h.home ▸ h.grows.directory _ home
    · exact h.scratch ▸ h.grows.walk_directory found
    · rw [h.scratch, h.grows.aliases]
      exact plain

theorem Confined.left (h : m.Confined (made ++ made')) : m.Confined made := by
  intro i c exit called
  refine h i c exit ?_
  rw [List.getElem?_append_left (List.getElem?_eq_some_iff.1 called).1, called]

theorem Confined.right (h : m.Confined (made ++ made')) (makes : m.Makes made m₁)
    (ext : m.Extends scope m₁) : m₁.Confined made' := by
  intro i c exit called replied t sound there aliases found l changed
  rw [makes.replies, List.getElem?_drop] at replied
  rw [ext.home] at there changed
  rw [ext.scratch] at found ⊢
  refine h (made.length + i) c exit ?_ replied t sound there (aliases.trans ext.grows.aliases)
    found l changed
  rw [List.getElem?_append_right (Nat.le_add_right _ _), Nat.add_sub_cancel_left, called]

theorem Extends.refl (m : Machine) : m.Extends scope m where
  home := rfl
  scratch := rfl
  grows := .refl m.tree
  within := ⟨[], .refl m, fun _ => .refl m.tree⟩

theorem Extends.trans (h : m.Extends scope m₁) (h' : m₁.Extends scope m₂) : m.Extends scope m₂ where
  home := h'.home.trans h.home
  scratch := h'.scratch.trans h.scratch
  grows := h.grows.trans h'.grows
  within := by
    obtain ⟨made, makes, within⟩ := h.within
    obtain ⟨made', makes', within'⟩ := h'.within
    exact ⟨made ++ made', makes.trans makes', fun confined =>
      (within confined.left).trans (within' (confined.right makes h))⟩

theorem IsSound.scratch (sound : m.IsSound) : m.tree.node? m.scratch = some .directory :=
  sound.tree.directory_of_walk rfl sound.found

/-- Below the directory for temporary ones names lead where they say. -/
theorem IsSound.resolveNames_below (sound : m.IsSound) {names : List String} (front : List String)
    (proper : ".." ∉ names) :
    m.tree.resolveNames (m.scratch ++ front) names = m.scratch ++ front ++ names := by
  have unaliased : m.tree.IsUnaliased (m.scratch ++ front) := by
    intro a among rest same
    rw [List.append_assoc] at same
    exact (List.append_eq_nil_iff.1 (sound.plain a among _ same)).2
  exact unaliased.resolveNames_eq proper

/-- Names below the directory for temporary ones lead there from the root. -/
theorem IsSound.resolveNames_scratch (sound : m.IsSound) {names : List String}
    (proper : ".." ∉ names) : m.tree.resolveNames [] (m.scratch ++ names) = m.scratch ++ names := by
  have below := sound.resolveNames_below [] proper
  rw [List.append_nil] at below
  rw [FileTree.resolveNames_append, FileTree.resolveNames_of_walk sound.found, below]

theorem resolve_inside (reaches : m₀.Reaches m) {x file : String} {object : Path}
    (proper : x ≠ "..") (proper_file : file ≠ "..")
    (h : m.tree.resolve m.home ⟨.single, m₀.scratch ++ [x] ++ [file]⟩ = .ok object) :
    object = ⟨.single, m₀.scratch ++ [x] ++ [file]⟩ := by
  rw [← reaches.scratch] at h ⊢
  unfold FileTree.resolve at h
  split at h
  · cases h
  · have proper_names : ".." ∉ [x, file] := by simp [Ne.symm proper, Ne.symm proper_file]
    have at_names := reaches.sound.resolveNames_scratch proper_names
    refine (Except.ok.inj h).symm.trans (congrArg (Path.mk .single) ?_)
    rwa [List.append_assoc]

/-- Where no call was made the files grew within the scope. -/
theorem Extends.grows_of_quiet (h : m.Extends scope m') (quiet : m.Quiet m') :
    Grows scope m.tree m'.tree := by
  obtain ⟨made, makes, within⟩ := h.within
  obtain rfl : [] = made := List.append_cancel_left (quiet.calls.symm.trans makes.calls)
  exact within nofun

/-- What a job does to a sound machine that works where a given one does. -/
def Stays (m₀ : Machine) (scope : Scope) (m m' : Machine) : Prop :=
  m₀.Reaches m → m.Extends scope m'

theorem lasting_stays (m₀ : Machine) (scope : Scope) : Lasting (m₀.Stays scope) where
  refl m _ := .refl m
  trans h h' reaches := (h reaches).trans (h' ((h reaches).reaches reaches))

theorem Extends.mono (h : m.Extends scope m') (wider : ∀ l n, scope l n → scope' l n) :
    m.Extends scope' m' where
  home := h.home
  scratch := h.scratch
  grows := h.grows
  within := by
    obtain ⟨made, makes, within⟩ := h.within
    exact ⟨made, makes, fun confined => (within confined).mono wider⟩

/-- Without calls, what counts is the tree. -/
theorem Extends.of_grows {tree : FileTree} (h : Grows scope m.tree tree) :
    m.Extends scope { m with tree } where
  home := rfl
  scratch := rfl
  grows := h.everywhere
  within := ⟨[], Quiet.of_eq rfl rfl, fun _ => h⟩

theorem Prints.stays (h : m.Prints m') : m₀.Stays scope m m' := by
  intro _
  unfold Prints at h
  rw [h]
  exact ⟨rfl, rfl, .refl _, [], Quiet.of_eq rfl rfl, fun _ => .refl _⟩

end Machine

/-! ## Jobs -/

open Machine (lasting_stays)

/-- **A job keeps within a scope**, on machines that work where a given one does. -/
abbrev Job.Within {α : Type} (m₀ : Machine) (scope : Scope) (job : Job α) : Prop :=
  Job.Moves (m₀.Stays scope) job

namespace Job

variable {α β : Type} {m₀ : Machine} {scope scope' : Scope} {job : Job α} {next : α → Job β}

theorem Reads.within (h : Reads job) : Within m₀ scope job :=
  h.mono fun _ _ => Machine.Prints.stays

/-- What comes after has only to be looked at for values that what comes before can have. -/
theorem Within.bind_of_ok (h : Within m₀ scope job)
    (hn : ∀ a m m', m₀.Reaches m → job m = (.ok a, m') → Within m₀ scope (next a)) :
    Within m₀ scope (job >>= next) := by
  intro m reaches
  exact moves_bind_at (lasting_stays m₀ scope) (h m)
    (fun a m₁ ended => hn a m m₁ reaches ended m₁) reaches

theorem Within.bind (h : Within m₀ scope job) (hn : ∀ a, Within m₀ scope (next a)) :
    Within m₀ scope (job >>= next) := Moves.bind (lasting_stays m₀ scope) h hn

/-- A machine that is sound stays sound, and where it is. -/
theorem Within.reaches (h : Within m₀ .everywhere job) {m m' : Machine} {r : Except Failure α}
    (reaches : m₀.Reaches m) (ended : job m = (r, m')) : m₀.Reaches m' :=
  (h.at_end ended reaches).reaches reaches

theorem within_look (f : FileTree → Location → Except FileFault α) : Within m₀ scope (look f) :=
  .look (lasting_stays m₀ scope) f

theorem within_done (a : α) : Within m₀ scope (done a) := .done (lasting_stays m₀ scope) a

theorem within_fail (e : Failure) : Within m₀ scope (fail e : Job α) :=
  .fail (lasting_stays m₀ scope) e

theorem within_machine : Within m₀ scope machine := .machine (lasting_stays m₀ scope)

theorem Within.attempt (h : Within m₀ scope job) : Within m₀ scope (Job.attempt job) :=
  Moves.attempt h

theorem within_makeDirectories (p : Path) : Within m₀ scope (makeDirectories p) := by
  intro m reaches
  have grows : Grows scope m.tree (m.tree.makeDirectories m.home p).1 :=
    FileTree.grows_makeDirectories reaches.sound.tree reaches.sound.home p
  unfold makeDirectories
  rcases made : m.tree.makeDirectories m.home p with ⟨tree, fault⟩
  rw [made] at grows
  cases fault <;> exact .of_grows grows

/-- A directory that was made is there. -/
theorem directory_of_made {p : Path} {m m' : Machine} (h : makeDirectories p m = (.ok (), m')) :
    ∃ d, m'.tree.locate m'.home p = .ok ⟨d, some .directory⟩ := by
  unfold makeDirectories at h
  split at h
  · next tree made =>
    cases h
    exact FileTree.directory_of_makeDirectories made
  · cases h

theorem change_ok {f : FileTree → Location → Except FileFault FileTree} {m : Machine}
    {tree : FileTree} (h : f m.tree m.home = .ok tree) :
    change f m = (.ok (), { m with tree }) := by rw [change, h]

theorem change_error {f : FileTree → Location → Except FileFault FileTree} {m : Machine}
    {e : FileFault} (h : f m.tree m.home = .error e) : change f m = (.error (.files e), m) := by
  rw [change, h]

theorem stays_change {f : FileTree → Location → Except FileFault FileTree} {m : Machine}
    (h : ∀ tree, m₀.Reaches m → f m.tree m.home = .ok tree → Grows scope m.tree tree) :
    m₀.Stays scope m (change f m).2 := by
  intro reaches
  unfold change
  split
  · next tree changed => exact .of_grows (h tree reaches changed)
  · exact .refl m

/-- **A text is written** where its path leads. -/
theorem within_writeText {p : Path} (text : String)
    (covers : ∀ l n, m₀.tree.IsPlace m₀.home p l → scope l n) :
    Within m₀ scope (writeText p text) := by
  unfold writeText
  split
  · exact within_fail _
  · refine (within_makeDirectories _).bind fun _ m => stays_change fun tree reaches written => ?_
    refine FileTree.grows_write reaches.sound.tree reaches.sound.home (fun l n located => ?_)
      written
    refine covers l n ((FileTree.isPlace_congr reaches.aliases).1 ?_)
    exact reaches.home ▸ FileTree.isPlace_of_locate located

/-- **A file is copied** to where its path leads, or into the directory there. -/
theorem within_copyFile {source target : Path}
    (covers : ∀ l n, Scope.path m₀.tree m₀.home target l n → scope l n) :
    Within m₀ scope (copyFile source target) := by
  refine (within_makeDirectories _).bind fun _ m => stays_change fun tree reaches copied => ?_
  have grows := FileTree.grows_copy reaches.sound.tree reaches.sound.home copied
  refine grows.mono fun l n at_target => covers l n ?_
  simpa only [Scope.path, FileTree.isPlace_congr reaches.aliases, reaches.home] using at_target

/-- A call leaves the files as they are, or the program that ended leaves its own. -/
theorem tree_call (c : Call) (m : Machine) : (call c m).2.home = m.home ∧
    (call c m).2.scratch = m.scratch ∧ ((call c m).2.tree = m.tree ∨
      ∃ exit, m.replies[0]? = some (Reply.ended exit) ∧
        (call c m).2.tree = leaveFiles m.home c exit m.tree) := by
  unfold call
  dsimp only
  cases replies : m.replies with
  | nil => exact ⟨rfl, rfl, .inl rfl⟩
  | cons reply rest =>
    cases reply with
    | ended exit => exact ⟨rfl, rfl, .inr ⟨exit, rfl, rfl⟩⟩
    | _ => exact ⟨rfl, rfl, .inl rfl⟩

/-- **A call** changes what is below the temporary directories that it gives. -/
theorem within_call {c : Call}
    (covers : ∀ x, c.Gives (m₀.scratch ++ [x]) → ∀ l n, m₀.scratch ++ [x] <+: l → scope l n) :
    Within m₀ scope (call c) := by
  intro m reaches
  obtain ⟨home, scratch, left⟩ := tree_call c m
  have grows : Grows .everywhere m.tree (call c m).2.tree := by
    obtain same | ⟨exit, -, left⟩ := left
    · exact same ▸ .refl _
    · exact left ▸ grows_leaveFiles reaches.sound.tree reaches.sound.home c exit
  refine ⟨home, scratch, grows, [c], makes_call c m, fun confined => grows.confine ?_⟩
  obtain same | ⟨exit, replied, left⟩ := left
  · exact fun l changed => absurd (same ▸ rfl) changed
  · intro l changed n
    rw [left] at changed
    obtain ⟨x, gives, below⟩ := confined 0 c exit rfl replied m.tree reaches.sound.tree
      reaches.sound.home rfl reaches.sound.found l changed
    rw [reaches.scratch] at gives below
    exact covers x gives l n below

/-- A temporary directory is made under the name that is free. -/
theorem makeScratch_eq {m : Machine} {scratch : Location} {x : String}
    (at_scratch : m.scratch = scratch) (name_eq : m.tree.freeName scratch m.scratchName = x) :
    makeScratch m = (.ok ⟨.single, scratch ++ [x]⟩,
      { m with tree := m.tree.put (scratch ++ [x]) .directory }) := by
  subst at_scratch name_eq
  rfl

/-- A temporary directory is made where nothing stands, and not above. -/
theorem exists_of_makeScratch {m : Machine} (sound : m.IsSound) :
    ∃ n ≤ m.tree.nodes.length, ∃ x, x = FileTree.numbered m.scratchName n ∧ x ≠ ".." ∧
      m.tree.node? (m.scratch ++ [x]) = none ∧ m.tree.HasRoom (m.scratch ++ [x]) ∧
        makeScratch m = (.ok ⟨.single, m.scratch ++ [x]⟩,
          { m with tree := m.tree.put (m.scratch ++ [x]) .directory }) := by
  obtain ⟨n, hn, name_eq, free, -⟩ := m.tree.exists_freeName m.scratch m.scratchName
  refine ⟨n, hn, _, rfl, FileTree.numbered_ne_up m.scratchName n, free,
    ⟨m.scratch, _, rfl, sound.scratch, free ▸ nofun⟩, makeScratch_eq rfl name_eq⟩

/-- **Work in a temporary directory** may put files there, and none is left. -/
theorem within_withScratch {work : Path → Job α}
    (h : ∀ x, x ≠ ".." → Within m₀ (scope.orBelow (m₀.scratch ++ [x]))
      (work ⟨.single, m₀.scratch ++ [x]⟩)) : Within m₀ scope (withScratch work) := by
  intro m reaches
  simp only [← reaches.scratch] at h
  obtain ⟨-, -, x, -, proper, free, room, makes_dir⟩ := exists_of_makeScratch reaches.sound
  rcases ended : withScratch work m with ⟨r, m'⟩
  obtain ⟨dir, m₁, m₂, prepared, worked, rfl⟩ := exists_of_withScratch ended
  cases makes_dir.symm.trans prepared
  have made : Grows .everywhere m.tree _ := .put_directory room free
  have ext := (h x proper).at_end worked ((Machine.Extends.of_grows made).reaches reaches)
  obtain ⟨calls, makes, within⟩ := ext.within
  refine ⟨ext.home, ext.scratch, ?_, calls, ⟨makes.calls, makes.replies⟩, fun confined => ?_⟩
  · exact FileTree.Grows.prune reaches.sound.tree room free
      (ext.grows.mono fun _ _ _ => .inl trivial)
  · exact FileTree.Grows.prune reaches.sound.tree room free (within confined)

end Job

namespace Toolchain

open Job

variable {m₀ : Machine} {scope : Scope} (t : Toolchain)

theorem not_gives_build (project : Path) (home : String) (dir : Location) :
    ¬(t.stepCall project "build" [home] none).Gives dir := by
  simp [Call.Gives, stepCall]

theorem gives_export_iff {project : Path} {exporter home output : String} {path : Option String}
    {dir : Location} :
    (t.stepCall project "env" ["lean", "--run", exporter, home, output] path).Gives dir ↔
      output = Path.text ⟨.single, dir ++ ["environment.json"]⟩ := by
  simp [Call.Gives, stepCall]

theorem gives_compile_iff {project : Path} {object file : String} {dir : Location} :
    (t.stepCall project "env" ["lean", "-o", object, file] none).Gives dir ↔
      object = Path.text ⟨.single, dir ++ [submissionModule ++ ".olean"]⟩ := by
  simp [Call.Gives, stepCall]

theorem gives_clone_iff (s : TemplateSource) {path : Path} {timeout : Int} {dir : Location} :
    (s.cloneCall path timeout).Gives dir ↔
      (path.child "template").text = Path.text ⟨.single, dir ++ ["template"]⟩ := by
  simp [Call.Gives, TemplateSource.cloneCall]

/-- **A step of the build tool** puts files only where its call gives a directory. -/
theorem within_run {step : String} {arguments : List String} {path : Option String}
    (covers : ∀ project x, (t.stepCall project step arguments path).Gives (m₀.scratch ++ [x]) →
      ∀ l n, m₀.scratch ++ [x] <+: l → scope l n) :
    Within m₀ scope (t.run step arguments path) := by
  unfold run
  refine .optional (lasting_stays m₀ scope) (reads_printLine _).within fun _ =>
    (within_look _).bind fun project => (within_call (covers project)).bind fun reply => ?_
  cases reply with
  | timedOut => exact within_done _
  | commandMissing => exact within_done _
  | ended exit =>
    exact .optional (lasting_stays m₀ scope) (reads_printLines _).within fun _ => within_done _
  | interrupted => exact within_fail _
  | broken reason => exact within_fail _

theorem within_buildReference (home : String) : Within m₀ scope (t.buildReference home) :=
  t.within_run fun project _ gives => absurd gives (t.not_gives_build project home _)

/-- **An export** puts no file anywhere but in its temporary directory. -/
theorem within_exportedJson (home : String) (path : Option String) :
    Within m₀ scope (t.exportedJson home path) := by
  refine within_withScratch fun x _ => within_machine.bind fun m =>
    Within.bind (t.within_run fun project y gives l n below => .inr ?_) fun result =>
      .ite (fun _ => within_fail _) fun _ => (within_look _).bind fun there =>
        .ite (fun _ => within_fail _) fun _ => (reads_readText _).within.bind fun text => ?_
  · rw [gives_export_iff, Path.child_of_plain (by decide)] at gives
    rwa [Path.text_inside_injective gives]
  · split
    · exact within_done _
    · exact within_fail _

theorem within_exportEnvironment (home : String) (dir : Option Path) :
    Within m₀ scope (t.exportEnvironment home dir) :=
  (reads_searchPath dir).within.bind fun path => (t.within_exportedJson home path).bind fun _ =>
    .ofExcept (lasting_stays m₀ scope) _

/-- **Compiling a reference** puts no file anywhere. -/
theorem within_compileReference (home : String) :
    Within m₀ scope (t.compileReference home) := by
  refine (reads_printLine _).within.bind fun _ => (t.within_buildReference home).bind fun result =>
    .ite (fun _ => (reads_printLine _).within.bind fun _ => within_fail _) fun _ =>
      (t.within_exportEnvironment home none).attempt.bind fun exported => ?_
  split
  · exact (reads_printLine _).within.bind fun _ => within_done _
  · exact within_fail _
  · exact within_fail _

theorem within_buildSubmission (source : Path) {x : String} (proper : x ≠ "..") :
    Within m₀ (scope.orBelow (m₀.scratch ++ [x]))
      (t.buildSubmission source ⟨.single, m₀.scratch ++ [x]⟩) := by
  unfold buildSubmission
  rw [Path.child_of_plain (by decide)]
  refine .bind_of_ok (within_look _) fun object m m' reaches resolved =>
    (within_look _).bind fun file => t.within_run fun project y gives l n below => .inr ?_
  have leads : m.tree.resolve m.home
      ⟨.single, m₀.scratch ++ [x] ++ [submissionModule ++ ".olean"]⟩ = .ok object :=
    eq_ok_of_mapError (Prod.mk.inj resolved).1
  obtain rfl := Machine.resolve_inside reaches proper (by decide) leads
  rw [gives_compile_iff] at gives
  rwa [Path.text_inside_injective gives]

theorem within_tryCompile (source : Path) : Within m₀ scope (t.tryCompile source) := by
  refine within_withScratch fun x proper => (t.within_buildSubmission source proper).bind
    fun result => .ite (fun _ => within_done _) fun _ =>
      (t.within_exportEnvironment _ _).attempt.bind fun exported => ?_
  split
  · exact (reads_printLine _).within.bind fun _ => within_done _
  · exact within_done _
  · exact within_fail _

/-- **Compiling an upload** puts no file anywhere. -/
theorem within_compileSubmission (source : Path) (reference : Environment) :
    Within m₀ scope (t.compileSubmission source reference) := by
  refine (reads_printLine _).within.bind fun _ => (t.within_tryCompile source).bind
    fun compiled => ?_
  cases compiled with
  | ok env => exact within_done _
  | error details => exact (reads_printLine _).within.bind fun _ => within_done _

end Toolchain

namespace GradingRun

open Job

variable {m₀ : Machine} {scope : Scope}

/-- **Grading** puts no file anywhere. -/
theorem within_gradeSubmission (t : Toolchain) (home : String) (source : Path)
    (notes : List String) : Within m₀ scope (gradeSubmission t home source notes) :=
  (t.within_compileReference home).bind fun reference =>
    (t.within_compileSubmission source reference).bind fun compiled =>
      .optional (lasting_stays m₀ scope) (reads_printLine _).within fun _ =>
        (reads_printLine _).within.bind fun _ =>
          (reads_gradeModule reference compiled.1 home).within.bind fun results =>
            (reads_reportOn _ results).within

end GradingRun

end ProofGrading
