import ProofGrading.Proofs.Outputs
import ProofGrading.Proofs.Repeating

/-!
# Proofs/Reinstalling — the support library is installed once

The first pass may put the support library into the project, and then the second pass finds it there
and puts nothing.  Main statements: the passes end alike, and so do their files, where the project
is a directory (`Job.endsAt_install_of_directory`) and where it is made for the library
(`Job.endsAt_install_of_start`).
-/

namespace ProofGrading

open FileTree (Scope Spot Tracks Grows)
open Rerun (Repeats SameEnd)

/-! ## Trees -/

namespace FileTree

variable {t t' last : FileTree} {home dir d l : Location} {name : String} {names : List String}
  {p : Path} {data : ByteArray} {scope : Scope} {dirs : List Location}

/-- A file that was there can be read later. -/
theorem Grows.exists_read (h : Grows scope t t') (read : t.read home p = .ok data) :
    ∃ data, t'.read home p = .ok data := by
  obtain ⟨k, found⟩ := locate_of_read read
  have not_directory : some (Node.file data) ≠ some .directory := fun same => by cases same
  obtain ⟨data', file⟩ := h.file k data (node?_of_locate found not_directory)
  refine ⟨data', read_of_locate
    (file ▸ locate_of_kept h.aliases h.directory found not_directory ?_)⟩
  rw [file]
  exact fun same => by cases same

/-- A file is copied to another place where no directory stands. -/
theorem copy_to_place {source target : Path} {n : Option Node}
    (read : t.read home source = .ok data) (located : t.locate home target = .ok ⟨l, n⟩)
    (no_directory : n ≠ some .directory) (other : ¬t.IsPlace home source l) :
    t.copy home source target = .ok (t.put l (.file data)) := by
  obtain ⟨k, found⟩ := locate_of_read read
  have at_target : t.destination home source target = target :=
    destination_of_other source fun l' directory =>
      no_directory (Spot.mk.inj (Except.ok.inj (located.symm.trans directory))).2
  have apart : k ≠ l := fun same => other (same ▸ isPlace_of_locate found)
  rw [copy_of_located found (at_target.symm ▸ located) apart, at_target]
  exact write_eq_ok located no_directory

/-- Where a file can be read something stands. -/
theorem not_isPlace_of_read {source : Path} (read : t.read home source = .ok data)
    (free : t.node? l = none) : ¬t.IsPlace home source l := by
  intro place
  obtain ⟨k, found⟩ := locate_of_read read
  obtain rfl := place.unique (isPlace_of_locate found)
  cases free.symm.trans (node?_of_locate found fun same => by cases same)

/-- What stands before the last name of a path that leads somewhere is a directory. -/
theorem exists_of_walk_concat {spot : Spot} (h : t.walk dir (names ++ [name]) = .ok spot) :
    ∃ d, t.walk dir names = .ok ⟨d, some .directory⟩ := by
  induction names generalizing dir with
  | nil => exact ⟨dir, rfl⟩
  | cons first rest ih =>
    rw [List.cons_append, walk] at h
    rw [walk]
    split at h
    · next up => rw [if_pos up]; exact ih h
    · next proper =>
      rw [if_neg proper]
      split at h
      · cases h
      · next fits =>
        rw [if_neg fits]
        dsimp only at h ⊢
        split at h
        · next directory =>
          rw [directory]
          exact ih h
        · next empty _ =>
          exact absurd empty (List.append_ne_nil_of_right_ne_nil _ (List.cons_ne_nil _ _))
        · cases h
        · cases h

theorem exists_of_locate_child {spot : Spot} (plain : Path.ofString name = ⟨.relative, [name]⟩)
    (h : t.locate home (p.child name) = .ok spot) :
    ∃ d, t.locate home p = .ok ⟨d, some .directory⟩ := by
  have proper : (p.child name).IsProper := by
    obtain ⟨spelled, plain, short, -⟩ := locate_eq_ok_iff.1 h
    exact ⟨spelled, plain, short⟩
  have proper_parent := proper.parent
  rw [locate_of_isProper t home proper, Path.child_of_plain plain] at h
  rw [Path.parent_child_of_plain plain] at proper_parent
  rw [locate_of_isProper t home proper_parent]
  exact exists_of_walk_concat h

/-- A name in a directory leads somewhere, unless its path leads nowhere at all. -/
theorem locate_child_error {e : FileFault} (plain : Path.ofString name = ⟨.relative, [name]⟩)
    (other : name ≠ "..") (fits : Text.nameSize name ≤ nameLimit)
    (directory : t.locate home p = .ok ⟨d, some .directory⟩)
    (h : t.locate home (p.child name) = .error e) (t' : FileTree) :
    t'.locate home (p.child name) = .error e := by
  by_cases proper : (p.child name).IsProper
  · have proper_parent := proper.parent
    rw [Path.parent_child_of_plain plain] at proper_parent
    rw [locate_of_isProper t home proper_parent] at directory
    rw [locate_of_isProper t home proper, Path.child_of_plain plain] at h
    cases ((walk_append directory).trans (t.walk_single d other fits)).symm.trans h
  · obtain ⟨e', -, fault⟩ := exists_fault proper
    rw [fault t' home, ← h, fault t home]

/-- A name that is too long is so later. -/
theorem walk_nameTooLong_of_kept (aliases : t'.aliases = t.aliases)
    (kept : ∀ k, t.node? k = some .directory → t'.node? k = some .directory)
    (h : t.walk dir names = .error .nameTooLong) : t'.walk dir names = .error .nameTooLong := by
  induction names generalizing dir with
  | nil => cases h
  | cons name rest ih =>
    have step_eq : t'.step dir name = t.step dir name := by rw [step, step, aliases]
    rw [walk] at h ⊢
    split at h
    · next up => rw [if_pos up]; exact ih h
    · next proper =>
      rw [if_neg proper]
      split at h
      · next long => rw [if_pos long]
      · next fits =>
        rw [if_neg fits]
        dsimp only at h ⊢
        rw [step_eq]
        split at h
        · next directory =>
          rw [kept _ directory]
          exact ih h
        · cases h
        · cases h
        · cases h

theorem locate_nameTooLong_of_kept (aliases : t'.aliases = t.aliases)
    (kept : ∀ k, t.node? k = some .directory → t'.node? k = some .directory)
    (h : t.locate home p = .error .nameTooLong) : t'.locate home p = .error .nameTooLong := by
  by_cases proper : p.IsProper
  · rw [locate_of_isProper _ home proper] at h ⊢
    exact walk_nameTooLong_of_kept aliases kept h
  · obtain ⟨e, -, fault⟩ := exists_fault proper
    rw [fault t' home, ← h, fault t home]

theorem locate_of_isThere_error {e : FileFault} (h : t.isThere home p = .error e) :
    e = .nameTooLong ∧ t.locate home p = .error .nameTooLong := by
  unfold isThere asks at h
  split at h
  · cases h
  · cases h
  · next failed =>
    cases h
    exact ⟨rfl, failed⟩
  · cases h

/-- **A file that was put in the first tree is there in the second**, which was left with it. -/
theorem Tracks.installed {n : Option Node} (h : Tracks last [] scope t t') (sound : t.IsSound)
    (sound' : t'.IsSound) (there : t.node? home = some .directory)
    (there' : t'.node? home = some .directory)
    (parent : t.locate home p.parent = .ok ⟨d, some .directory⟩)
    (parent' : t'.locate home p.parent = .ok ⟨d, some .directory⟩)
    (located : t.locate home p = .ok ⟨l, n⟩) (no_directory : n ≠ some .directory)
    (heads : Heads last [] (t.put l (.file data))) (late : t'.node? l = last.node? l) :
    t'.isThere home p = .ok true ∧ Tracks last [] .everywhere (t.put l (.file data)) t' := by
  have outside : ¬Inside [] l := fun ⟨_, among, _⟩ => List.not_mem_nil among
  have node := node?_of_locate located no_directory
  have ne : l ≠ [] := fun root => no_directory (node.symm.trans (root ▸ rfl))
  have at_end : last.node? l ≠ none := fun none => by
    cases (node?_put_self t (.file data) ne).symm.trans ((heads l outside).eq_none none)
  obtain ⟨node', there_node⟩ := Option.ne_none_iff_exists'.1 at_end
  obtain ⟨e, failed, -⟩ | ⟨l', located₁, located'⟩ :=
    h.locate sound sound' there there' parent parent'
  · cases failed.symm.trans located
  · obtain ⟨rfl, -⟩ := Spot.mk.inj (Except.ok.inj (located.symm.trans located₁))
    rw [late, there_node] at located'
    exact ⟨isThere_of_locate located',
      (h.mono fun _ _ _ => trivial).put_left ne (.inr ⟨outside, trivial, late⟩)⟩

/-- Where nothing stands in the first tree but in the end, the second has what is there in the
end. -/
theorem Tracks.late_of_free (h : Tracks last dirs scope t t') (free : t.node? l = none)
    (there : t'.node? l ≠ none) : t'.node? l = last.node? l := by
  obtain same | ⟨-, -, late⟩ := h.node l
  · exact absurd (same.trans free) there
  · exact late

end FileTree

/-! ## The support library -/

namespace Job

variable {r : Rerun} {scope : Scope} {m m' m₁ : Machine} {project : Path} {d l : Location}
  {data : ByteArray} {e : FileFault}

/-- The support library that comes with a machine. -/
def bundledLibrary (m : Machine) : Path := ⟨.single, m.bundle ++ [supportLibrary]⟩

theorem install_of_isThere (h : m.tree.isThere m.home (project.child supportLibrary) = .ok true) :
    installSupportLibrary project m = (.ok (project.child supportLibrary), m) := by
  have looked : isThere (project.child supportLibrary) m = (.ok true, m) := by
    rw [isThere, look, h]
    rfl
  exact bind_ok looked _

theorem install_of_error (h : m.tree.isThere m.home (project.child supportLibrary) = .error e) :
    installSupportLibrary project m = (.error (.files e), m) := by
  have looked : isThere (project.child supportLibrary) m = (.error (.files e), m) := by
    rw [isThere, look, h]
    rfl
  exact bind_error looked _

/-- Where it is missing the library is copied. -/
theorem install_of_absent (h : m.tree.isThere m.home (project.child supportLibrary) = .ok false) :
    installSupportLibrary project m =
      (copyFile (bundledLibrary m) (project.child supportLibrary) >>= fun _ =>
        printLine s!"  Installed {supportLibrary} into {project.text}" >>= fun _ =>
          done (project.child supportLibrary)) m := by
  have looked : isThere (project.child supportLibrary) m = (.ok false, m) := by
    rw [isThere, look, h]
    rfl
  exact bind_ok looked _

theorem copyFile_library (source : Path) : copyFile source (project.child supportLibrary) =
    makeDirectories project >>= fun _ =>
      change fun t home => t.copy home source (project.child supportLibrary) := by
  rw [copyFile, Path.parent_child_of_plain (by decide)]

/-- The library is put in the project where no directory stands. -/
theorem install_of_made {n : Option Node}
    (absent : m.tree.isThere m.home (project.child supportLibrary) = .ok false)
    (made : makeDirectories project m = (.ok (), m₁))
    (read : m₁.tree.read m₁.home (bundledLibrary m) = .ok data)
    (located : m₁.tree.locate m₁.home (project.child supportLibrary) = .ok ⟨l, n⟩)
    (no_directory : n ≠ some .directory)
    (other : ¬m₁.tree.IsPlace m₁.home (bundledLibrary m) l) :
    ∃ printed, installSupportLibrary project m = (.ok (project.child supportLibrary),
      { m₁ with tree := m₁.tree.put l (.file data), printed }) := by
  have copied : copyFile (bundledLibrary m) (project.child supportLibrary) m =
      (.ok (), { m₁ with tree := m₁.tree.put l (.file data) }) := by
    rw [copyFile_library, bind_ok made]
    exact change_ok (FileTree.copy_to_place read located no_directory other)
  rw [install_of_absent absent, bind_ok copied]
  exact ⟨_, rfl⟩

theorem within_installSupportLibrary (m₀ : Machine) (project : Path) :
    Within m₀ .everywhere (installSupportLibrary project) :=
  fun _ => stays_installSupportLibrary fun _ _ _ _ => trivial

/-- **A library that the first pass puts is there in the second**, which skips the step. -/
theorem install_once {n : Option Node} (follows : r.Follows [] scope m₁ m')
    (directory : m₁.tree.locate m₁.home project = .ok ⟨d, some .directory⟩)
    (directory' : m'.tree.locate m₁.home project = .ok ⟨d, some .directory⟩)
    (located : m₁.tree.locate m₁.home (project.child supportLibrary) = .ok ⟨l, n⟩)
    (no_directory : n ≠ some .directory)
    (heads : r.last.tree.Heads [] (m₁.tree.put l (.file data)))
    (late : m'.tree.node? l = r.last.tree.node? l) (printed : String) :
    installSupportLibrary project m' = (.ok (project.child supportLibrary), m') ∧
      r.Along [] .everywhere { m₁ with tree := m₁.tree.put l (.file data), printed } m' := by
  have plain : Path.ofString supportLibrary = ⟨.relative, [supportLibrary]⟩ := by decide
  have parent_eq := Path.parent_child_of_plain plain project
  rw [← parent_eq] at directory directory'
  obtain ⟨there, tracks⟩ := follows.along.tree.installed follows.reaches.sound.tree
    follows.reaches'.sound.tree follows.home_there.1 follows.home_there.2 directory directory'
    located no_directory heads late
  rw [← follows.setUp.home] at there
  exact ⟨install_of_isThere there, follows.along.update tracks follows.along.replies⟩

/-- A path that is too long is so in both passes. -/
theorem endsAt_install_of_error (follows : r.Follows [] scope m m') (start : r.Heads [] m)
    (looked : m.tree.isThere m.home (project.child supportLibrary) = .error e) :
    r.EndsAt [] .everywhere m m' (installSupportLibrary project)
      (installSupportLibrary project) := by
  intro _
  obtain ⟨rfl, failed⟩ := FileTree.locate_of_isThere_error looked
  have failed' := FileTree.locate_nameTooLong_of_kept follows.along.tree.aliases
    (fun k => (follows.along.tree.lasts start.tree k).directory) failed
  rw [← follows.setUp.home] at failed'
  have looked' : m'.tree.isThere m'.home (project.child supportLibrary) = .error .nameTooLong := by
    rw [FileTree.isThere, FileTree.asks, failed']
  rw [install_of_error looked, install_of_error looked']
  exact ⟨.same _, follows.along.mono fun _ _ _ => trivial⟩

section

variable (bundled : ∃ data, r.first.tree.read r.first.home (bundledLibrary r.first) = .ok data)
include bundled

/-- The bundled library can be read while the first pass lasts. -/
theorem exists_read_bundled (h : r.first.Extends .everywhere m) (setUp : r.first.SetUpAs m) :
    ∃ data, m.tree.read m.home (bundledLibrary m) = .ok data := by
  obtain ⟨data, read⟩ := bundled
  rw [bundledLibrary, setUp.bundle, setUp.home]
  exact h.grows.exists_read read

/-- **Where the project is a directory** the passes end alike. -/
theorem endsAt_install_of_directory (follows : r.Follows [] scope m m')
    (directory : m.tree.locate m.home project = .ok ⟨d, some .directory⟩) :
    r.EndsAt [] .everywhere m m' (installSupportLibrary project)
      (installSupportLibrary project) := by
  intro heads
  have start := heads.of_extends (within_installSupportLibrary r.first project m follows.reaches)
  have directory' := follows.along.tree.locate_directory start.tree directory
  have plain : Path.ofString supportLibrary = ⟨.relative, [supportLibrary]⟩ := by decide
  have parent_eq := Path.parent_child_of_plain plain project
  rcases looked : m.tree.isThere m.home (project.child supportLibrary) with e | _ | _
  · exact endsAt_install_of_error follows start looked heads
  · obtain ⟨l, located⟩ := absent_of_isThere directory looked
    have made : makeDirectories project m = (.ok (), m) := by
      rw [makeDirectories, FileTree.makeDirectories_of_directory directory]
    obtain ⟨data, read⟩ := exists_read_bundled bundled follows.begun follows.along.setUp
    have no_directory : (none : Option Node) ≠ some .directory := fun same => by cases same
    have free := FileTree.node?_of_locate located no_directory
    obtain ⟨printed, installed⟩ := install_of_made looked made read located no_directory
      (FileTree.not_isPlace_of_read read free)
    rw [installed] at heads ⊢
    -- what the first pass puts here is there in the end, and so when the second one starts
    have resumed : m'.tree.node? l ≠ none := fun gone => by
      have ne : l ≠ [] := fun root => by cases (root ▸ free)
      have lasts := heads.tree l (by
        rintro ⟨_, among, -⟩
        exact List.not_mem_nil among)
      cases (FileTree.node?_put_self m.tree (.file data) ne).symm.trans
        (lasts.eq_none (follows.resumed.grows.eq_none gone))
    obtain ⟨skipped, along⟩ := install_once follows directory directory' located no_directory
      heads.tree (follows.along.tree.late_of_free free resumed) printed
    rw [skipped]
    exact ⟨.same _, along⟩
  · obtain ⟨l, node, located⟩ := FileTree.exists_locate_of_isThere looked
    obtain ⟨e, failed, -⟩ | ⟨l', located₁, located'⟩ :=
      follows.along.tree.locate (p := project.child supportLibrary) follows.reaches.sound.tree
        follows.reaches'.sound.tree follows.home_there.1 follows.home_there.2
        (by rwa [parent_eq]) (by rwa [parent_eq])
    · cases failed.symm.trans located
    · obtain ⟨rfl, at_l⟩ := Spot.mk.inj (Except.ok.inj (located.symm.trans located₁))
      have there' : m'.tree.node? l ≠ none := fun gone => by
        cases at_l.trans ((follows.along.tree.lasts start.tree l).eq_none gone)
      obtain ⟨node', at_l'⟩ := Option.ne_none_iff_exists'.1 there'
      rw [at_l', ← follows.setUp.home] at located'
      rw [install_of_isThere looked, install_of_isThere (FileTree.isThere_of_locate located')]
      exact ⟨.same _, follows.along.mono fun _ _ _ => trivial⟩

end

/-! ### A project that is made -/

/-- What the first pass left goes along with all that it had on its way. -/
theorem along_last (follows : r.Follows [] scope m m') (late : m'.tree = r.last.tree)
    (setUp : m.SetUpAs m₁) (replies : m₁.replies = m.replies)
    (aliases : m₁.tree.aliases = m.tree.aliases) : r.Along [] .everywhere m₁ m' where
  setUp := follows.along.setUp.trans setUp
  setUp' := follows.along.setUp'
  replies := follows.along.replies.trans replies.symm
  tree := ⟨follows.along.tree.aliases.trans aliases.symm,
    fun _ => .inr ⟨fun ⟨_, among, _⟩ => List.not_mem_nil among, trivial, late ▸ rfl⟩⟩

theorem eq_of_makeDirectories {e : Except Failure Unit} (h : makeDirectories project m = (e, m₁)) :
    m₁ = { m with tree := (m.tree.makeDirectories m.home project).1 } ∧
      ∀ f, e = .error f → ∃ fault, f = .files fault := by
  unfold makeDirectories at h
  rcases made : m.tree.makeDirectories m.home project with ⟨t, fault⟩
  rw [made] at h
  cases fault with
  | none =>
    obtain ⟨rfl, rfl⟩ := Prod.mk.inj h
    exact ⟨rfl, fun f failed => by cases failed⟩
  | some fault =>
    obtain ⟨rfl, rfl⟩ := Prod.mk.inj h
    exact ⟨rfl, fun f failed => ⟨fault, (Except.error.inj failed).symm⟩⟩

/-- **Where the project cannot be made** both passes fail. -/
theorem endsAt_install_of_failed {f : Failure} (follows : r.Follows [] scope m m')
    (late : m'.tree = r.last.tree)
    (looked : m.tree.isThere m.home (project.child supportLibrary) = .ok false)
    (failed : makeDirectories project m = (.error f, m₁)) :
    r.EndsAt [] .everywhere m m' (installSupportLibrary project)
      (installSupportLibrary project) := by
  have ends := (Repeats.makeDirectories project).ends m m' follows
  have copy_failed : ∀ {m m₁ : Machine} {f : Failure},
      m.tree.isThere m.home (project.child supportLibrary) = .ok false →
      makeDirectories project m = (.error f, m₁) →
        installSupportLibrary project m = (.error f, m₁) := by
    intro m m₁ f looked failed
    rw [install_of_absent looked]
    exact bind_error ((congrFun (copyFile_library _) m).trans (bind_error failed _)) _
  obtain ⟨rfl, isFault⟩ := eq_of_makeDirectories failed
  obtain ⟨fault, rfl⟩ := isFault f rfl
  intro heads
  rw [copy_failed looked failed] at heads ⊢
  rcases failed' : makeDirectories project m' with ⟨e', m₁'⟩
  unfold Rerun.EndsAt at ends
  rw [failed, failed'] at ends
  obtain ⟨alike, along⟩ := ends heads
  rcases looked' : m'.tree.isThere m'.home (project.child supportLibrary) with e | _ | _
  · rw [install_of_error looked']
    exact ⟨.files _ _, along_last follows late ⟨rfl, rfl, rfl, rfl, rfl⟩ rfl
      (FileTree.keeps_makeDirectories _ _ _).aliases⟩
  · cases alike with
    | same =>
      rw [copy_failed looked' failed']
      exact ⟨.same _, along.mono fun _ _ _ => trivial⟩
    | files =>
      rw [copy_failed looked' failed']
      exact ⟨.files _ _, along.mono fun _ _ _ => trivial⟩
  · -- a library that is there stands in a directory, and then nothing has to be made
    obtain ⟨l, node, located⟩ := FileTree.exists_locate_of_isThere looked'
    obtain ⟨d, directory⟩ := FileTree.exists_of_locate_child (by decide) located
    rw [makeDirectories, FileTree.makeDirectories_of_directory directory] at failed'
    obtain ⟨rfl, -⟩ := Prod.mk.inj failed'
    cases alike

/-- What is left to do once the project is there extends the machine. -/
theorem extends_of_made (reaches : r.first.Reaches m)
    (looked : m.tree.isThere m.home (project.child supportLibrary) = .ok false)
    (made : makeDirectories project m = (.ok (), m₁)) :
    m₁.Extends .everywhere (installSupportLibrary project m).2 := by
  have within : Within r.first .everywhere
      ((change fun t home => t.copy home (bundledLibrary m) (project.child supportLibrary)) >>=
        fun _ => printLine s!"  Installed {supportLibrary} into {project.text}" >>= fun _ =>
          done (project.child supportLibrary)) := by
    refine Within.bind (fun m => stays_change fun tree reaches copied => ?_) fun _ =>
      (reads_printLine _).within.bind fun _ => within_done _
    exact (FileTree.grows_copy reaches.sound.tree reaches.sound.home copied).everywhere
  have rest := within m₁ ((within_makeDirectories project).reaches reaches made)
  have split : installSupportLibrary project m =
      ((change fun t home => t.copy home (bundledLibrary m) (project.child supportLibrary)) >>=
        fun _ => printLine s!"  Installed {supportLibrary} into {project.text}" >>= fun _ =>
          done (project.child supportLibrary)) m₁ := by
    rw [install_of_absent looked, copyFile_library]
    exact bind_congr_at (bind_ok made _) _
  rwa [split]

/-- In a project that was made a path to the library leads somewhere. -/
theorem exists_of_made {t t' : FileTree} {home : Location}
    (directory : t'.locate home project = .ok ⟨d, some .directory⟩)
    (looked : t.isThere home (project.child supportLibrary) = .ok false) :
    ∃ l n, t'.locate home (project.child supportLibrary) = .ok ⟨l, n⟩ := by
  rcases looked' : t'.isThere home (project.child supportLibrary) with e | _ | _
  · obtain ⟨-, failed⟩ := FileTree.locate_of_isThere_error looked'
    have failed :=
      FileTree.locate_child_error (by decide) (by decide) (by decide) directory failed t
    rw [FileTree.isThere, FileTree.asks, failed] at looked
    cases looked
  · obtain ⟨l, located⟩ := absent_of_isThere directory looked'
    exact ⟨l, none, located⟩
  · obtain ⟨l, node, located⟩ := FileTree.exists_locate_of_isThere looked'
    exact ⟨l, some node, located⟩

section

variable (bundled : ∃ data, r.first.tree.read r.first.home (bundledLibrary r.first) = .ok data)
  (open_place : ∀ l, r.first.tree.IsPlace r.first.home (project.child supportLibrary) l →
    r.last.tree.node? l ≠ some .directory ∧
      ¬r.first.tree.IsPlace r.first.home (bundledLibrary r.first) l)
include bundled open_place

/-- **Where the project is made for the library** the passes end alike. -/
theorem endsAt_install_of_made (follows : r.Follows [] scope m m') (late : m'.tree = r.last.tree)
    (looked : m.tree.isThere m.home (project.child supportLibrary) = .ok false)
    (made : makeDirectories project m = (.ok (), m₁)) :
    r.EndsAt [] .everywhere m m' (installSupportLibrary project)
      (installSupportLibrary project) := by
  intro heads
  have heads₁ := heads.of_extends (extends_of_made follows.reaches looked made)
  have reaches₁ := (within_makeDirectories project).reaches follows.reaches made
  have begun : r.first.Extends .everywhere m₁ :=
    follows.begun.trans ((within_makeDirectories project).at_end made follows.reaches)
  obtain ⟨d, directory⟩ := directory_of_made made
  obtain ⟨rfl, -⟩ := eq_of_makeDirectories made
  have follows₁ : r.Follows [] .everywhere
      { m with tree := (m.tree.makeDirectories m.home project).1 } m' :=
    ⟨begun, follows.resumed, along_last follows late ⟨rfl, rfl, rfl, rfl, rfl⟩ rfl
      (FileTree.keeps_makeDirectories _ _ _).aliases⟩
  have directory' := follows₁.along.tree.locate_directory heads₁.tree directory
  obtain ⟨l, n, located⟩ := exists_of_made directory looked
  have place := (FileTree.isPlace_congr reaches₁.aliases).1 (FileTree.isPlace_of_locate located)
  dsimp only at place located
  rw [follows.along.setUp.home] at place
  obtain ⟨no_directory_last, other⟩ := open_place l place
  have no_directory : n ≠ some .directory := by
    rintro rfl
    have stands := reaches₁.sound.tree.directory_of_locate reaches₁.sound.home located
    exact no_directory_last
      ((heads₁.tree l fun ⟨_, among, _⟩ => List.not_mem_nil among).directory stands)
  obtain ⟨data, read⟩ := exists_read_bundled bundled begun follows₁.along.setUp
  obtain ⟨printed, installed⟩ := install_of_made looked made read located no_directory
    fun at_bundle => other <| by
      have at_bundle := (FileTree.isPlace_congr reaches₁.aliases).1 at_bundle
      dsimp only at at_bundle
      rwa [bundledLibrary, follows.along.setUp.bundle, follows.along.setUp.home] at at_bundle
  rw [installed] at heads ⊢
  obtain ⟨skipped, along⟩ := install_once follows₁ directory directory' located no_directory
    heads.tree (late ▸ rfl) printed
  rw [skipped]
  exact ⟨.same _, along⟩

/-- **At the start of the passes** they end alike: the library is installed in the first, or both
find that it cannot be. -/
theorem endsAt_install_of_start (follows : r.Follows [] scope m m') (late : m'.tree = r.last.tree)
    (no_directory : ¬∃ d, m.tree.locate m.home project = .ok ⟨d, some .directory⟩) :
    r.EndsAt [] .everywhere m m' (installSupportLibrary project)
      (installSupportLibrary project) := by
  intro heads
  have begin := heads.of_extends (within_installSupportLibrary r.first project m follows.reaches)
  rcases looked : m.tree.isThere m.home (project.child supportLibrary) with e | _ | _
  · exact endsAt_install_of_error follows begin looked heads
  · rcases made : makeDirectories project m with ⟨f | _, m₁⟩
    · exact endsAt_install_of_failed follows late looked made heads
    · exact endsAt_install_of_made bundled open_place follows late looked made heads
  · obtain ⟨l, node, located⟩ := FileTree.exists_locate_of_isThere looked
    exact absurd (FileTree.exists_of_locate_child (by decide) located) no_directory

end

end Job

end ProofGrading
