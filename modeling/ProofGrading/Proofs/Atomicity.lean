import ProofGrading.Proofs.Choosing
import ProofGrading.Proofs.Reinstalling

/-!
# Proofs/Atomicity — a sheet is fetched, or nothing happens

The clone is made in a temporary directory, and a program that keeps to it changes nothing outside
(`TemplateSource.outside_cloned`); a checkout keeps to it (`Exit.IsCheckout.staysIn`).  The sheet is
copied last, so what can go wrong goes wrong before any other file is touched, and what is in the
temporary directory is removed.  Where the same stands on the way of a path, the same directories
are made there (`FileTree.prepare_congr`), so the clone does not decide whether the copy succeeds.
Main statement: a fetch puts the sheet of the clone at its target and changes no other file, or
fails and changes none (`TemplateSource.fetchTemplate_all_or_nothing`).
-/

namespace ProofGrading

open FileTree (IsPlace)

namespace FileTree

variable {t t' : FileTree} {home dir l k : Location} {names : List String} {p : Path}
  {n : Option Node}

/-! ## Trees that agree on the way of a path -/

/-- **Preparing goes by what stands on the way**: where that is the same the same is made. -/
theorem prepare_congr (aliases : t'.aliases = t.aliases)
    (same : ∀ front back, names = front ++ back →
      t'.node? (t.resolveNames dir front) = t.node? (t.resolveNames dir front)) :
    (t'.prepare dir names).2 = (t.prepare dir names).2 ∧
      ∀ k, t'.node? k = t.node? k →
        (t'.prepare dir names).1.node? k = (t.prepare dir names).1.node? k := by
  induction names generalizing t t' dir with
  | nil => exact ⟨rfl, fun _ => id⟩
  | cons name rest ih =>
    by_cases up : name = ".."
    · rw [up, prepare_up, prepare_up]
      refine ih aliases fun front back split => ?_
      have at_front := same (name :: front) back (congrArg (name :: ·) split)
      rwa [resolveNames, if_pos up] at at_front
    by_cases long : nameLimit < Text.nameSize name
    · rw [prepare_long up long, prepare_long up long]
      exact ⟨rfl, fun _ => id⟩
    have fits := Nat.not_lt.1 long
    have step_eq : t'.step dir name = t.step dir name := by rw [step, step, aliases]
    have at_next := same [name] rest rfl
    rw [resolveNames, if_neg up, resolveNames] at at_next
    have beyond : ∀ front back, rest = front ++ back →
        t'.node? (t.resolveNames (t.step dir name) front) =
          t.node? (t.resolveNames (t.step dir name) front) := fun front back split => by
      have at_front := same (name :: front) back (congrArg (name :: ·) split)
      rwa [resolveNames, if_neg up] at at_front
    rcases node : t.node? (t.step dir name) with _ | data | _
    · rw [prepare_none up fits node, prepare_none up fits (by rw [step_eq, at_next, node]), step_eq]
      have put_same : ∀ k, t'.node? k = t.node? k →
          (t'.put (t.step dir name) .directory).node? k =
            (t.put (t.step dir name) .directory).node? k := by
        intro k same_k
        have ne : t.step dir name ≠ [] := fun root => by cases (root ▸ node)
        by_cases here : k = t.step dir name
        · rw [here, node?_put_self t _ ne, node?_put_self t' _ ne]
        · rw [node?_put_ne t _ here, node?_put_ne t' _ here, same_k]
      have put_aliases : (t.put (t.step dir name) .directory).aliases = t.aliases := rfl
      refine And.imp_right ?_ (ih aliases fun front back split => ?_)
      · exact fun nodes k same_k => nodes k (put_same k same_k)
      · rw [resolveNames_congr put_aliases]
        exact put_same _ (beyond front back split)
    · rw [FileTree.prepare_file up fits node,
        FileTree.prepare_file up fits (by rw [step_eq, at_next, node])]
      exact ⟨rfl, fun _ => id⟩
    · rw [prepare_directory up fits node,
        prepare_directory up fits (by rw [step_eq, at_next, node]), step_eq]
      exact ih aliases beyond

/-- **Preparing makes directories where nothing stands on the way**, and changes nothing else. -/
theorem node?_prepare_cases (t : FileTree) (dir : Location) (names : List String) (k : Location) :
    (t.prepare dir names).1.node? k = t.node? k ∨
      t.node? k = none ∧ (t.prepare dir names).1.node? k = some .directory ∧
        ∃ front back, names = front ++ back ∧ k = t.resolveNames dir front := by
  fun_induction prepare t dir names with
  | case1 => exact .inl rfl
  | case2 t dir rest ih =>
    obtain same | ⟨free, made, front, back, split, at_front⟩ := ih
    · exact .inl same
    · refine .inr ⟨free, made, ".." :: front, back, congrArg (".." :: ·) split, ?_⟩
      rw [resolveNames, if_pos rfl, at_front]
  | case3 => exact .inl rfl
  | case4 t dir name rest proper fits directory ih =>
    obtain same | ⟨free, made, front, back, split, at_front⟩ := ih
    · exact .inl same
    · refine .inr ⟨free, made, name :: front, back, congrArg (name :: ·) split, ?_⟩
      rw [resolveNames, if_neg proper, at_front]
  | case5 t dir name rest proper fits free ih =>
    have put_aliases : (t.put (t.step dir name) .directory).aliases = t.aliases := rfl
    have ne : t.step dir name ≠ [] := fun root => by cases (root ▸ free)
    by_cases here : k = t.step dir name
    · subst here
      rw [node?_put_self t _ ne] at ih
      have at_name : t.step dir name = t.resolveNames dir [name] := by
        rw [resolveNames, if_neg proper, resolveNames]
      obtain made | ⟨gone, -⟩ := ih
      · exact .inr ⟨free, made, [name], rest, rfl, at_name⟩
      · cases gone
    · rw [node?_put_ne t _ here] at ih
      obtain same | ⟨free, made, front, back, split, at_front⟩ := ih
      · exact .inl same
      · refine .inr ⟨free, made, name :: front, back, congrArg (name :: ·) split, ?_⟩
        rw [resolveNames, if_neg proper, at_front, resolveNames_congr put_aliases]
  | case6 => exact .inl rfl

theorem OnWay.of_parent (h : t.OnWay home p.parent l) : t.OnWay home p l := by
  obtain ⟨front, back, split, rfl⟩ := h
  obtain ⟨last, names_eq⟩ := List.dropLast_prefix p.names
  refine ⟨front, back ++ last, ?_, rfl⟩
  rw [← List.append_assoc, ← split, ← names_eq]
  rfl

/-- **Directories are made on the way of a path**, and nothing else is changed. -/
theorem node?_makeDirectories_cases (t : FileTree) (home : Location) (p : Path) (k : Location) :
    (t.makeDirectories home p).1.node? k = t.node? k ∨
      t.node? k = none ∧ (t.makeDirectories home p).1.node? k = some .directory ∧
        t.OnWay home p k := by
  by_cases proper : p.IsProper
  · rw [(makeDirectories_eq_prepare t home proper).1]
    exact node?_prepare_cases t (start home p) p.names k
  · rw [(makeDirectories_of_not_isProper t home proper).1]
    exact .inl rfl

/-- **Where the same stands on the way of a path, a file can be written there alike.** -/
theorem CanWrite.congr (h : t.CanWrite home p) (aliases : t'.aliases = t.aliases)
    (same : ∀ l, t.OnWay home p l → t'.node? l = t.node? l) : t'.CanWrite home p := by
  obtain ⟨t₁, l, n, made, located, other⟩ := h
  by_cases proper : p.parent.IsProper
  · have same_names : ∀ front back, p.parent.names = front ++ back →
        t'.node? (t.resolveNames (start home p.parent) front) =
          t.node? (t.resolveNames (start home p.parent) front) := fun front back split =>
      same _ (OnWay.of_parent ⟨front, back, split, rfl⟩)
    obtain ⟨alike, nodes⟩ := prepare_congr aliases same_names
    obtain ⟨same_tree, ended⟩ := makeDirectories_eq_prepare t home proper
    obtain ⟨same_tree', ended'⟩ := makeDirectories_eq_prepare t' home proper
    rw [made] at same_tree ended
    have made' : (t'.makeDirectories home p.parent).2 = none := by
      rw [ended', alike]
      exact ended.1 rfl
    have aliases₁ : (t'.makeDirectories home p.parent).1.aliases = t₁.aliases := by
      have keeps := keeps_makeDirectories t home p.parent
      rw [made] at keeps
      exact (keeps_makeDirectories t' home p.parent).aliases.trans
        (aliases.trans keeps.aliases.symm)
    refine ⟨_, l, n, Prod.ext rfl made', ?_, other⟩
    rw [locate_congr aliases₁ fun l on_way => ?_, located]
    have keeps := keeps_makeDirectories t home p.parent
    rw [made] at keeps
    rw [same_tree', nodes l (same l ((onWay_congr keeps.aliases).1 on_way)), ← same_tree]
  · have failed := (makeDirectories_of_not_isProper t home proper).2
    rw [made] at failed
    exact absurd rfl failed

theorem locate_of_isFile_error {e : FileFault} (h : t.isFile home p = .error e) :
    e = .nameTooLong ∧ t.locate home p = .error .nameTooLong := by
  unfold isFile asks at h
  split at h
  · cases h
  · cases h
  · next far => exact ⟨(Except.error.inj h).symm, far⟩
  · cases h

end FileTree

open Job

/-! ## Copying a file -/

/-- **A file is copied where a file can be written**: it stands where the path leads, what was on
the way is there or was made, and all else is as before. -/
theorem Job.exists_of_copyFile {m : Machine} {source target : Path} {data : ByteArray}
    (can : m.tree.CanWrite m.home target) (read : m.tree.read m.home source = .ok data)
    (apart : ∀ l, m.tree.IsPlace m.home target l → ¬m.tree.IsPlace m.home source l) :
    ∃ l tree, m.tree.IsPlace m.home target l ∧
      copyFile source target m = (.ok (), { m with tree }) ∧ tree.aliases = m.tree.aliases ∧
      tree.locate m.home target = .ok ⟨l, some (.file data)⟩ ∧
      ∀ k, k ≠ l → tree.node? k = m.tree.node? k ∨
        m.tree.node? k = none ∧ tree.node? k = some .directory ∧ m.tree.OnWay m.home target k := by
  obtain ⟨made, l, n, made_eq, located, other⟩ := can
  have keeps := FileTree.keeps_makeDirectories m.tree m.home target.parent
  have cases := FileTree.node?_makeDirectories_cases m.tree m.home target.parent
  rw [made_eq] at keeps cases
  have place : m.tree.IsPlace m.home target l :=
    (FileTree.isPlace_congr keeps.aliases).1 (FileTree.isPlace_of_locate located)
  have copied := FileTree.copy_to_place (keeps.read read) located other fun at_source =>
    apart l place ((FileTree.isPlace_congr keeps.aliases).1 at_source)
  have prepared : makeDirectories target.parent m = (.ok (), { m with tree := made }) := by
    rw [makeDirectories, made_eq]
  refine ⟨l, made.put l (.file data), place, ?_, keeps.aliases,
    FileTree.locate_put located other, fun k elsewhere => ?_⟩
  · rw [copyFile, bind_ok prepared]
    exact change_ok copied
  · rw [FileTree.node?_put_ne made _ elsewhere]
    obtain same | ⟨free, directory, on_way⟩ := cases k
    · exact .inl same
    · exact .inr ⟨free, directory, on_way.of_parent⟩

/-! ## The clone -/

namespace Machine

variable {m : Machine}

/-- The next temporary directory. -/
def scratchDir (m : Machine) : Location := m.scratch ++ [m.tree.freeName m.scratch m.scratchName]

/-- A machine on which the next temporary directory is made. -/
def inScratch (m : Machine) : Machine := { m with tree := m.tree.put m.scratchDir .directory }

theorem makeScratch_eq_inScratch (m : Machine) :
    makeScratch m = (.ok ⟨.single, m.scratchDir⟩, m.inScratch) := rfl

theorem freeName_ne_up (m : Machine) : m.tree.freeName m.scratch m.scratchName ≠ ".." := by
  obtain ⟨n, -, name_eq, -⟩ := m.tree.exists_freeName m.scratch m.scratchName
  rw [name_eq]
  exact FileTree.numbered_ne_up m.scratchName n

theorem scratchDir_ne_nil (m : Machine) : m.scratchDir ≠ [] :=
  List.append_ne_nil_of_right_ne_nil _ (List.cons_ne_nil _ _)

theorem IsSound.scratchDir_free (sound : m.IsSound) :
    m.tree.node? m.scratchDir = none ∧ m.tree.HasRoom m.scratchDir := by
  obtain ⟨-, -, x, -, -, free, room, made⟩ := exists_of_makeScratch sound
  obtain ⟨same, -⟩ := Prod.mk.inj (made.symm.trans (makeScratch_eq_inScratch m))
  rw [← (Path.mk.inj (Except.ok.inj same)).2]
  exact ⟨free, room⟩

/-- A machine works on in a temporary directory. -/
theorem IsSound.reaches_inScratch (sound : m.IsSound) : m.Reaches m.inScratch := by
  obtain ⟨free, room⟩ := sound.scratchDir_free
  have grows : FileTree.Grows .everywhere m.tree m.inScratch.tree := .put_directory room free
  exact (Extends.of_grows grows).reaches (.refl sound)

/-- Nothing stands in a temporary directory that is still to be made. -/
theorem IsSound.eq_none_of_scratchDir (sound : m.IsSound) {l : Location}
    (below : m.scratchDir <+: l) : m.tree.node? l = none := by
  obtain ⟨free, -⟩ := sound.scratchDir_free
  by_cases here : m.scratchDir = l
  · exact here ▸ free
  · refine sound.tree.eq_none_of_prefix (fun directory => ?_) below here
    cases free.symm.trans directory

/-- What was put into a temporary directory goes with it. -/
theorem IsSound.node?_prune_of_below (sound : m.IsSound) (t : FileTree) {l : Location}
    (below : m.scratchDir <+: l) : (t.prune m.scratchDir).node? l = m.tree.node? l := by
  have some_name : l ≠ [] := fun root => m.scratchDir_ne_nil (List.prefix_nil.1 (root ▸ below))
  rw [FileTree.node?_prune_of_below below some_name, sound.eq_none_of_scratchDir below]

/-- **Once a temporary directory is removed again**, files that are as they were outside of it are
as they were. -/
theorem IsSound.node?_prune_scratchDir (sound : m.IsSound) {t : FileTree}
    (outside : ∀ l, ¬m.scratchDir <+: l → t.node? l = m.tree.node? l) (l : Location) :
    (t.prune m.scratchDir).node? l = m.tree.node? l := by
  by_cases below : m.scratchDir <+: l
  · exact sound.node?_prune_of_below t below
  · rw [FileTree.node?_prune_of_not_below below, outside l below]

end Machine

/-! ## A checkout -/

/-- **A checkout of a tree**: its entries are spelled from the directory down, and no other file is
written. -/
structure Exit.IsCheckout (exit : Exit) : Prop where
  artifact : exit.artifact = none
  relative : ∀ entry ∈ exit.checkout, (Path.ofString entry.1).isAbsolute = false
  proper : ∀ entry ∈ exit.checkout, ".." ∉ (Path.ofString entry.1).names

namespace Machine

variable {m : Machine} {t t' : FileTree} {home l : Location} {x : String}
  {inside names : List String}

/-- More files leave the places where they are. -/
theorem Hosts.of_grows (hosts : m.Hosts t) (grows : FileTree.Grows .everywhere t t') :
    m.Hosts t' where
  sound := grows.sound hosts.sound
  home := grows.directory _ hosts.home
  aliases := grows.aliases.trans hosts.aliases
  found := grows.walk_directory hosts.found

section

variable (sound : m.IsSound) (hosts : m.Hosts t)
include sound hosts

/-- Directories that are made on the way to a place in a temporary directory are in it. -/
theorem below_of_makeDirectories (proper : ".." ∉ x :: inside) (within : names <+: x :: inside)
    (changed : (t.makeDirectories home ⟨.single, m.scratch ++ names⟩).1.node? l ≠ t.node? l) :
    m.scratch ++ [x] <+: l := by
  by_cases spelled : Path.IsProper ⟨.single, m.scratch ++ names⟩
  · have from_root : FileTree.start home ⟨.single, m.scratch ++ names⟩ = [] := rfl
    rw [(FileTree.makeDirectories_eq_prepare t home spelled).1, from_root, FileTree.prepare_append,
      FileTree.prepare_of_walk hosts.found] at changed
    obtain ⟨free, -, front, back, split, rfl⟩ :=
      (FileTree.node?_prepare_cases t m.scratch names l).resolve_left changed
    obtain ⟨rest, within⟩ := within
    rw [split, List.append_assoc] at within
    have proper_front : ".." ∉ front := fun among =>
      proper (within ▸ List.mem_append_left _ among)
    have at_front := sound.resolveNames_below [] proper_front
    rw [List.append_nil, ← FileTree.resolveNames_congr hosts.aliases] at at_front
    rw [at_front] at free ⊢
    cases front with
    | nil =>
      have directory := hosts.sound.directory_of_walk rfl hosts.found
      rw [List.append_nil, directory] at free
      cases free
    | cons name front =>
      obtain ⟨rfl, -⟩ := List.cons.inj within
      exact ⟨front, List.append_assoc _ _ _⟩
  · rw [(FileTree.makeDirectories_of_not_isProper t home spelled).1] at changed
    exact absurd rfl changed

/-- A file that is written in a temporary directory is in it. -/
theorem below_of_write {data : ByteArray} (proper : ".." ∉ x :: inside)
    (written : t.write home ⟨.single, m.scratch ++ x :: inside⟩ data = .ok t')
    (changed : t'.node? l ≠ t.node? l) : m.scratch ++ [x] <+: l := by
  obtain ⟨k, n, located, -, rfl⟩ := FileTree.exists_of_write written
  have here : l = k := by_contra fun other => changed (FileTree.node?_put_ne t _ other)
  have at_names := sound.resolveNames_scratch proper
  rw [← FileTree.resolveNames_congr hosts.aliases] at at_names
  obtain ⟨-, -, -, walked⟩ := FileTree.locate_eq_ok_iff.1 located
  rw [here, ← FileTree.resolveNames_of_walk walked]
  exact ⟨inside, (List.append_assoc _ _ _).trans at_names.symm⟩

/-- An entry of a checkout in a temporary directory is in it. -/
theorem below_of_placeEntry {entry : String × Option Content} (proper : ".." ∉ x :: inside)
    (relative : (Path.ofString entry.1).isAbsolute = false)
    (proper_entry : ".." ∉ (Path.ofString entry.1).names)
    (changed : (Job.placeEntry m.home ⟨.single, m.scratch ++ x :: inside⟩ t entry).node? l ≠
      t.node? l) : m.scratch ++ [x] <+: l := by
  have path_eq : Path.child ⟨.single, m.scratch ++ x :: inside⟩ entry.1 =
      ⟨.single, m.scratch ++ x :: (inside ++ (Path.ofString entry.1).names)⟩ := by
    rw [Path.child, Path.names_join _ relative, List.append_assoc, List.cons_append]
  have proper_names : ".." ∉ x :: (inside ++ (Path.ofString entry.1).names) := fun among =>
    (List.mem_append.1 (List.cons_append ▸ among)).elim proper proper_entry
  generalize inside ++ (Path.ofString entry.1).names = more at path_eq proper_names
  unfold Job.placeEntry at changed
  dsimp only at changed
  rw [path_eq] at changed
  split at changed
  · have parent_eq : Path.parent ⟨.single, m.scratch ++ x :: more⟩ =
        ⟨.single, m.scratch ++ (x :: more).dropLast⟩ := by
      rw [Path.parent, List.dropLast_append_of_ne_nil (List.cons_ne_nil _ _)]
    rw [parent_eq] at changed
    have grows : FileTree.Grows .everywhere t _ := FileTree.grows_makeDirectories hosts.sound
      hosts.home ⟨.single, m.scratch ++ (x :: more).dropLast⟩
    by_cases made : t.node? l =
        (t.makeDirectories m.home ⟨.single, m.scratch ++ (x :: more).dropLast⟩).1.node? l
    · split at changed
      · next written =>
        exact below_of_write sound (hosts.of_grows grows) proper_names written (made ▸ changed)
      · exact absurd made.symm changed
    · exact below_of_makeDirectories sound hosts proper_names (List.dropLast_prefix _)
        (Ne.symm made)
  · exact below_of_makeDirectories sound hosts proper_names (List.prefix_refl _) changed

end

/-- Entries of a checkout in a temporary directory are in it. -/
theorem below_of_placeEntries {entries : List (String × Option Content)} (sound : m.IsSound)
    (hosts : m.Hosts t) (proper : ".." ∉ x :: inside)
    (relative : ∀ entry ∈ entries, (Path.ofString entry.1).isAbsolute = false)
    (proper_entries : ∀ entry ∈ entries, ".." ∉ (Path.ofString entry.1).names)
    (changed : t.node? l ≠
      (entries.foldl (Job.placeEntry m.home ⟨.single, m.scratch ++ x :: inside⟩) t).node? l) :
    m.scratch ++ [x] <+: l := by
  induction entries generalizing t with
  | nil => exact absurd rfl changed
  | cons entry rest ih =>
    obtain ⟨relative_entry, relative⟩ := List.forall_mem_cons.1 relative
    obtain ⟨proper_entry, proper_entries⟩ := List.forall_mem_cons.1 proper_entries
    have grows := grows_placeEntry hosts.sound hosts.home ⟨.single, m.scratch ++ x :: inside⟩ entry
    by_cases first : t.node? l =
        (Job.placeEntry m.home ⟨.single, m.scratch ++ x :: inside⟩ t entry).node? l
    · exact ih (hosts.of_grows grows) relative proper_entries (first ▸ changed)
    · exact below_of_placeEntry sound hosts proper relative_entry proper_entry (Ne.symm first)

end Machine

/-- **A checkout into a temporary directory keeps to it.** -/
theorem Exit.IsCheckout.staysIn {exit : Exit} {m : Machine} {c : Call} {x : String}
    {inside : List String} (checkout : exit.IsCheckout) (sound : m.IsSound)
    (gives : c.Gives (m.scratch ++ [x])) (proper : ".." ∉ x :: inside)
    (last : Path.ofString (c.command.getLast?.getD "") = ⟨.single, m.scratch ++ x :: inside⟩) :
    exit.StaysIn m c := by
  intro t tree there aliases found l changed
  rw [leaveFiles, checkout.artifact, last] at changed
  exact ⟨x, gives, Machine.below_of_placeEntries sound ⟨tree, there, aliases, found⟩ proper
    checkout.relative checkout.proper (Ne.symm changed)⟩

/-! ## A call and its reply -/

/-- **A program was run to an end**, within its time or not, or is missing. -/
def Reply.IsAnswer : Reply → Prop
  | .ended _ | .timedOut | .commandMissing => True
  | .interrupted | .broken _ => False

/-- What a call leaves of the files, by the reply to it. -/
def Reply.leaves (reply : Reply) (home : Location) (c : Call) (t : FileTree) : FileTree :=
  match reply with
  | .ended exit => leaveFiles home c exit t
  | _ => t

theorem Job.exists_of_answered {m : Machine} (c : Call) (answered : m.upcoming.IsAnswer) :
    ∃ m', call c m = (.ok m.upcoming, m') ∧ m'.home = m.home ∧
      m'.tree = m.upcoming.leaves m.home c m.tree := by
  unfold call
  dsimp only
  rw [show (nextReply m.replies).1 = m.upcoming from rfl]
  cases upcoming : m.upcoming with
  | ended exit => exact ⟨_, rfl, rfl, rfl⟩
  | timedOut => exact ⟨_, rfl, rfl, rfl⟩
  | commandMissing => exact ⟨_, rfl, rfl, rfl⟩
  | interrupted =>
    rw [upcoming] at answered
    exact answered.elim
  | broken reason =>
    rw [upcoming] at answered
    exact answered.elim

namespace TemplateSource

variable {template : TemplateSource} {timeout : Int} {target : Path} {m : Machine}

/-- The call that clones the repository, for the next temporary directory. -/
def scratchCall (template : TemplateSource) (timeout : Int) (m : Machine) : Call :=
  template.cloneCall ⟨.single, m.scratchDir⟩ timeout

/-- The files after the call. -/
def cloned (template : TemplateSource) (timeout : Int) (m : Machine) : FileTree :=
  m.upcoming.leaves m.home (template.scratchCall timeout m) m.inScratch.tree

/-- The sheet in the clone. -/
def clonedSheet (template : TemplateSource) (m : Machine) : Path :=
  template.sheetIn ⟨.single, m.scratchDir⟩

/-- **A clone succeeds with the sheet**: it exits with 0, and the sheet is a regular file then. -/
structure Brings (template : TemplateSource) (timeout : Int) (m : Machine) (sheet : ByteArray) :
    Prop where
  ended : ∃ exit, m.upcoming = .ended exit ∧ exit.code = 0
  present : (template.cloned timeout m).read m.home (template.clonedSheet m) = .ok sheet

/-- **The program keeps to the temporary directory** that it is given. -/
def KeepsToScratch (template : TemplateSource) (timeout : Int) (m : Machine) : Prop :=
  ∀ exit, m.upcoming = .ended exit → exit.StaysIn m (template.scratchCall timeout m)

/-- **A checkout into the clone keeps to the temporary directory**, if the path of the clone is read
as it is spelled. -/
theorem keepsToScratch_of_isCheckout (sound : m.IsSound)
    (checkouts : ∀ exit, m.upcoming = .ended exit → exit.IsCheckout)
    (spelled : Path.ofString (Path.text (Path.child ⟨.single, m.scratchDir⟩ "template")) =
      ⟨.single, m.scratchDir ++ ["template"]⟩) : template.KeepsToScratch timeout m := by
  intro exit upcoming
  have gives : (template.scratchCall timeout m).Gives m.scratchDir := by
    refine (Toolchain.gives_clone_iff template).2 ?_
    rw [Path.child_of_plain (by decide)]
  have proper : ".." ∉ [m.tree.freeName m.scratch m.scratchName, "template"] := by
    simp [m.freeName_ne_up.symm]
  refine (checkouts exit upcoming).staysIn sound gives proper (spelled.trans ?_)
  rw [Machine.scratchDir, List.append_assoc]
  rfl

/-- Outside of the temporary directory the clone changes nothing. -/
theorem outside_cloned (sound : m.IsSound) (keeps : template.KeepsToScratch timeout m)
    {l : Location} (outside : ¬m.scratchDir <+: l) :
    (template.cloned timeout m).node? l = m.tree.node? l := by
  have other : l ≠ m.scratchDir := fun here => outside (here ▸ List.prefix_refl _)
  have entered : m.inScratch.tree.node? l = m.tree.node? l := FileTree.node?_put_ne _ _ other
  rw [← entered]
  unfold cloned Reply.leaves
  split
  · next exit upcoming =>
    by_contra changed
    have reaches := sound.reaches_inScratch
    obtain ⟨x, gives, below⟩ := keeps exit upcoming m.inScratch.tree reaches.sound.tree
      reaches.sound.home reaches.aliases reaches.sound.found l changed
    have given := (Toolchain.gives_clone_iff template).1 gives
    rw [Path.child_of_plain (by decide)] at given
    rw [← Path.text_inside_injective given] at below
    exact outside below
  · rfl

theorem aliases_cloned (template : TemplateSource) (timeout : Int) (sound : m.IsSound) :
    (template.cloned timeout m).aliases = m.tree.aliases := by
  have reaches := sound.reaches_inScratch
  unfold cloned Reply.leaves
  split
  · exact (grows_leaveFiles reaches.sound.tree reaches.sound.home _ _).aliases
  · rfl

/-- A clone that fails is a misconfiguration. -/
theorem exists_of_clone_failure {m' : Machine} {dir : Path} {reply : Reply}
    (called : call (template.cloneCall dir timeout) m = (.ok reply, m'))
    (failed : ¬∃ exit, reply = .ended exit ∧ exit.code = 0) (answered : reply.IsAnswer) :
    ∃ reason, cloneTemplate template (dir.child "template") timeout m =
      (.error (.configuration reason), m') := by
  cases reply with
  | ended exit =>
    have code : ¬exit.code = 0 := fun zero => failed ⟨exit, rfl, zero⟩
    exact ⟨_, (bind_ok called _).trans (congrFun (if_neg code) m')⟩
  | timedOut => exact ⟨_, bind_ok called _⟩
  | commandMissing => exact ⟨_, bind_ok called _⟩
  | interrupted => exact answered.elim
  | broken reason => exact answered.elim

theorem clone_success {m' : Machine} {dir : Path} {exit : Exit}
    (called : call (template.cloneCall dir timeout) m = (.ok (.ended exit), m'))
    (code : exit.code = 0) :
    cloneTemplate template (dir.child "template") timeout m = (.ok (), m') :=
  (bind_ok called _).trans (congrFun (if_pos code) m')

/-! ## The fetch -/

/-- What comes after a clone that succeeded: the sheet is looked for, and copied. -/
theorem exists_of_cloned {exit : Exit} (template : TemplateSource) (target : Path) (timeout : Int)
    (upcoming : m.upcoming = .ended exit) (code : exit.code = 0) :
    ∃ m', m'.tree = template.cloned timeout m ∧ m'.home = m.home ∧
      cloneAndCopy template target timeout ⟨.single, m.scratchDir⟩ m.inScratch =
        (Job.isFile (template.clonedSheet m) >>= fun there =>
          if !there then
            fail (.configuration
              s!"Assignment file {template.sheet} not found in {template.repository}")
          else copyFile (template.clonedSheet m) target) m' ∧
      Job.isFile (template.clonedSheet m) m' =
        (((template.cloned timeout m).isFile m.home (template.clonedSheet m)).mapError .files,
          m') := by
  obtain ⟨m', called, home_eq, tree_eq⟩ :=
    exists_of_answered (m := m.inScratch) (template.scratchCall timeout m)
      (show m.upcoming.IsAnswer by rw [upcoming]; exact trivial)
  have tree_eq : m'.tree = template.cloned timeout m := tree_eq
  have home_eq : m'.home = m.home := home_eq
  rw [show m.inScratch.upcoming = m.upcoming from rfl, upcoming] at called
  refine ⟨m', tree_eq, home_eq, bind_ok (clone_success called code) _, ?_⟩
  rw [Job.isFile, look, tree_eq, home_eq]

/-- A sheet whose path is too long cannot be looked for. -/
theorem exists_of_far {exit : Exit} (target : Path) (upcoming : m.upcoming = .ended exit)
    (code : exit.code = 0)
    (far : (template.cloned timeout m).locate m.home (template.clonedSheet m) =
      .error .nameTooLong) :
    ∃ m', cloneAndCopy template target timeout ⟨.single, m.scratchDir⟩ m.inScratch =
      (.error (.files .nameTooLong), m') ∧ m'.tree = template.cloned timeout m := by
  obtain ⟨m', tree_eq, -, copies, looked⟩ := exists_of_cloned template target timeout upcoming code
  rw [FileTree.isFile, FileTree.asks, far] at looked
  exact ⟨m', copies.trans (bind_error looked _), tree_eq⟩

/-- **A clone without the sheet** ends the work in the temporary directory; it is a
misconfiguration, unless the path of the sheet is too long to be looked up. -/
theorem exists_of_missing (target : Path) (answered : m.upcoming.IsAnswer)
    (missing : ∀ sheet, ¬template.Brings timeout m sheet) :
    ∃ e m', cloneAndCopy template target timeout ⟨.single, m.scratchDir⟩ m.inScratch =
        (.error e, m') ∧ m'.tree = template.cloned timeout m ∧
      ((∃ reason, e = .configuration reason) ∨ e = .files .nameTooLong ∧
        (template.cloned timeout m).locate m.home (template.clonedSheet m) =
          .error .nameTooLong) := by
  by_cases ended : ∃ exit, m.upcoming = .ended exit ∧ exit.code = 0
  · obtain ⟨exit, upcoming, code⟩ := ended
    rcases asked : (template.cloned timeout m).isFile m.home (template.clonedSheet m) with e | found
    · obtain ⟨-, far⟩ := FileTree.locate_of_isFile_error asked
      obtain ⟨m', copies, tree_eq⟩ := exists_of_far target upcoming code far
      exact ⟨_, m', copies, tree_eq, .inr ⟨rfl, far⟩⟩
    · cases found with
      | false =>
        obtain ⟨m', tree_eq, -, copies, looked⟩ :=
          exists_of_cloned template target timeout upcoming code
        rw [asked] at looked
        exact ⟨_, m', copies.trans (bind_ok looked _), tree_eq, .inl ⟨_, rfl⟩⟩
      | true =>
        obtain ⟨sheet, present⟩ := FileTree.exists_read_of_isFile asked
        exact absurd ⟨⟨exit, upcoming, code⟩, present⟩ (missing sheet)
  · obtain ⟨m', called, -, tree_eq⟩ :=
      exists_of_answered (m := m.inScratch) (template.scratchCall timeout m) answered
    obtain ⟨reason, failed⟩ := exists_of_clone_failure called ended answered
    exact ⟨_, m', bind_error failed _, tree_eq, .inl ⟨reason, rfl⟩⟩

/-- **A clone with the sheet** is copied from, if a file can be written at the target. -/
theorem exists_of_brought {sheet : ByteArray} (brings : template.Brings timeout m sheet)
    (can : (template.cloned timeout m).CanWrite m.home target)
    (apart : ∀ l, (template.cloned timeout m).IsPlace m.home target l →
      ¬(template.cloned timeout m).IsPlace m.home (template.clonedSheet m) l) :
    ∃ l m', (template.cloned timeout m).IsPlace m.home target l ∧
      cloneAndCopy template target timeout ⟨.single, m.scratchDir⟩ m.inScratch = (.ok (), m') ∧
      m'.home = m.home ∧ m'.tree.aliases = (template.cloned timeout m).aliases ∧
      m'.tree.locate m.home target = .ok ⟨l, some (.file sheet)⟩ ∧
      ∀ k, k ≠ l → m'.tree.node? k = (template.cloned timeout m).node? k ∨
        (template.cloned timeout m).node? k = none ∧ m'.tree.node? k = some .directory ∧
          (template.cloned timeout m).OnWay m.home target k := by
  obtain ⟨⟨exit, upcoming, code⟩, present⟩ := brings
  obtain ⟨m₁, tree_eq, home_eq, copies, looked⟩ :=
    exists_of_cloned template target timeout upcoming code
  rw [← tree_eq, ← home_eq] at can apart present looked ⊢
  have found : Job.isFile (template.clonedSheet m) m₁ = (.ok true, m₁) := by
    obtain ⟨k, located⟩ := FileTree.locate_of_read present
    rw [looked, FileTree.isFile, FileTree.asks, located]
    rfl
  obtain ⟨l, tree, place, copied, aliases, located, rest⟩ := exists_of_copyFile can present apart
  refine ⟨l, { m₁ with tree }, place, ?_, rfl, aliases, located, rest⟩
  exact copies.trans ((bind_ok found _).trans copied)

/-! ### All or nothing -/

section

variable (sound : m.IsSound) (keeps : template.KeepsToScratch timeout m)
include sound keeps

/-- **A clone without the sheet leaves all files as they were.** -/
theorem nothing_of_missing (answered : m.upcoming.IsAnswer)
    (missing : ∀ sheet, ¬template.Brings timeout m sheet) :
    ∃ e m', withScratch (cloneAndCopy template target timeout) m = (.error e, m') ∧
      m'.tree.aliases = m.tree.aliases ∧ (∀ l, m'.tree.node? l = m.tree.node? l) ∧
      ((∃ reason, e = .configuration reason) ∨ e = .files .nameTooLong ∧
        (template.cloned timeout m).locate m.home (template.clonedSheet m) =
          .error .nameTooLong) := by
  obtain ⟨e, m', worked, tree_eq, reason⟩ := exists_of_missing target answered missing
  refine ⟨e, _, withScratch_eq m.makeScratch_eq_inScratch worked, ?_, ?_, reason⟩
  · exact (congrArg FileTree.aliases tree_eq).trans (aliases_cloned template timeout sound)
  · rw [tree_eq]
    exact sound.node?_prune_scratchDir fun l outside => outside_cloned sound keeps outside

/-- **A clone with the sheet leaves the sheet at the target** and all other files as they were. -/
theorem placed_of_brought {sheet : ByteArray} (brings : template.Brings timeout m sheet)
    (can : m.tree.CanWrite m.home target)
    (aside : ∀ l, m.tree.OnWay m.home target l → ¬m.scratchDir <+: l)
    (apart : ∀ l, m.tree.IsPlace m.home target l →
      ¬m.tree.IsPlace m.home (template.clonedSheet m) l) :
    ∃ l m', m.tree.IsPlace m.home target l ∧
      withScratch (cloneAndCopy template target timeout) m = (.ok (), m') ∧
      m'.tree.read m.home target = .ok sheet ∧ m'.tree.node? l = some (.file sheet) ∧
      ∀ k, k ≠ l → m'.tree.node? k = m.tree.node? k ∨ m.tree.node? k = none ∧
        m'.tree.node? k = some .directory ∧ m.tree.OnWay m.home target k := by
  have aliases := aliases_cloned template timeout sound
  have outside : ∀ l, ¬m.scratchDir <+: l →
      (template.cloned timeout m).node? l = m.tree.node? l := fun l => outside_cloned sound keeps
  obtain ⟨l, m', place, worked, -, aliases', located, rest⟩ := exists_of_brought brings
    (can.congr aliases fun l way => outside l (aside l way))
    (by simpa only [FileTree.isPlace_congr aliases] using apart)
  have place := (FileTree.isPlace_congr aliases).1 place
  have pruned : ∀ k, ¬m.scratchDir <+: k →
      (m'.tree.prune m.scratchDir).node? k = m'.tree.node? k := fun k =>
    FileTree.node?_prune_of_not_below
  have located' : (m'.tree.prune m.scratchDir).locate m.home target =
      .ok ⟨l, some (.file sheet)⟩ := by
    rw [← located]
    exact FileTree.locate_congr rfl fun k way =>
      pruned k (aside k ((FileTree.onWay_congr (aliases'.trans aliases)).1 way))
  refine ⟨l, _, place, withScratch_eq m.makeScratch_eq_inScratch worked, ?_, ?_, fun k other => ?_⟩
  · exact FileTree.read_of_locate located'
  · exact FileTree.node?_of_locate located' nofun
  · show (m'.tree.prune m.scratchDir).node? k = _ ∨ _ ∧ (m'.tree.prune m.scratchDir).node? k = _ ∧ _
    by_cases below : m.scratchDir <+: k
    · exact .inl (sound.node?_prune_of_below _ below)
    · rw [pruned k below, ← outside k below, ← FileTree.onWay_congr aliases]
      exact rest k other

end

/-- What is announced first changes no file. -/
theorem exists_announced (template : TemplateSource) (target : Path) (timeout : Int) (m : Machine) :
    ∃ printed, ∀ {r : Except Failure Unit} {m'},
      withScratch (cloneAndCopy template target timeout) { m with printed } = (r, m') →
        fetchTemplate template target timeout m = (ofExcept r >>= fun _ =>
          printLine s!"  Reference sheet placed at {target.text}" >>= fun _ => done target) m' := by
  refine ⟨m.printed ++ (s!"Fetching reference sheet from {template.url}..." ++ "\n"), ?_⟩
  intro r m' worked
  rw [fetchTemplate_eq, printLine_bind]
  cases r with
  | ok => exact bind_ok worked _
  | error => exact bind_error worked _

/-- **A fetch is all or nothing.**  Whatever becomes of the clone, if it does not bring the sheet
the fetch fails and all files are as they were, an older one at the target included; it is a
misconfiguration unless the path of the sheet in the clone is too long to be looked up.  If the
clone brings the sheet and a file can be written at the target, the target is returned and has the
bytes of the sheet; what else was there is as it was, and only directories on the way of the target
are new.  The target may not be in the temporary directory, nor be what the path of the sheet leads
to. -/
theorem fetchTemplate_all_or_nothing (target : Path) (sound : m.IsSound)
    (keeps : template.KeepsToScratch timeout m) (answered : m.upcoming.IsAnswer) :
    ((∀ sheet, ¬template.Brings timeout m sheet) →
      ∃ e m', fetchTemplate template target timeout m = (.error e, m') ∧
        m'.tree.aliases = m.tree.aliases ∧ (∀ l, m'.tree.node? l = m.tree.node? l) ∧
        ((∃ reason, e = .configuration reason) ∨ e = .files .nameTooLong ∧
          (template.cloned timeout m).locate m.home (template.clonedSheet m) =
            .error .nameTooLong)) ∧
    ∀ sheet, template.Brings timeout m sheet → m.tree.CanWrite m.home target →
      (∀ l, m.tree.OnWay m.home target l → ¬m.scratchDir <+: l) →
      (∀ l, m.tree.IsPlace m.home target l →
        ¬m.tree.IsPlace m.home (template.clonedSheet m) l) →
      ∃ l m', m.tree.IsPlace m.home target l ∧
        fetchTemplate template target timeout m = (.ok target, m') ∧
        m'.tree.read m.home target = .ok sheet ∧ m'.tree.node? l = some (.file sheet) ∧
        ∀ k, k ≠ l → m'.tree.node? k = m.tree.node? k ∨ m.tree.node? k = none ∧
          m'.tree.node? k = some .directory ∧ m.tree.OnWay m.home target k := by
  obtain ⟨printed, fetched⟩ := exists_announced template target timeout m
  have sound' : Machine.IsSound { m with printed } :=
    ⟨sound.tree, sound.home, sound.found, sound.plain⟩
  refine ⟨fun missing => ?_, fun sheet brings can aside apart => ?_⟩
  · obtain ⟨e, m', worked, kept⟩ :=
      nothing_of_missing (m := { m with printed }) sound' keeps answered fun sheet brings =>
        missing sheet ⟨brings.ended, brings.present⟩
    exact ⟨e, m', fetched worked, kept⟩
  · obtain ⟨l, m', place, worked, left⟩ :=
      placed_of_brought (m := { m with printed }) sound' keeps ⟨brings.ended, brings.present⟩
        can aside apart
    exact ⟨l, _, place, fetched worked, left⟩

/-- A machine with an older sheet, for which a newer one is in the next clone. -/
def olderSheet : Machine where
  home := ["work"]
  scratch := ["tmp"]
  scratchName := "grading"
  bundle := ["bundle"]
  tree :=
    { nodes := [(["tmp"], .directory), (["work"], .directory),
        (["work", "Sheet.lean"], .file (Content.bytes "-- older"))] }
  replies := [.ended { checkout := [("sheets/Sheet.lean", some "-- newer")] }]

namespace olderSheet

theorem isSound : olderSheet.IsSound := by
  refine ⟨FileTree.isSound_of_nodes (fun e among => ?_) nofun, rfl,
    FileTree.walk_single _ [] (by decide) (by decide), nofun⟩
  simp only [olderSheet, List.mem_cons, List.not_mem_nil, or_false] at among
  obtain rfl | rfl | rfl := among <;> rfl

theorem keepsToScratch (template : TemplateSource) :
    template.KeepsToScratch cloneTimeout olderSheet := by
  refine keepsToScratch_of_isCheckout isSound (fun exit upcoming => ?_) (by decide +kernel)
  obtain rfl := Reply.ended.inj upcoming
  exact ⟨rfl, by decide, by decide⟩

/-- A sheet that is in the clone replaces the older one; one that is not does not. -/
theorem replaced_or_kept :
    (∃ m', fetchTemplate ⟨"course/sheets", "sheets/Sheet.lean"⟩ (.ofString "Sheet.lean")
        cloneTimeout olderSheet = (.ok (.ofString "Sheet.lean"), m') ∧
      m'.tree.node? ["work", "Sheet.lean"] = some (.file (Content.bytes "-- newer"))) ∧
    ∃ reason m', fetchTemplate ⟨"course/sheets", "Sheet.lean"⟩ (.ofString "Sheet.lean") cloneTimeout
        olderSheet = (.error (.configuration reason), m') ∧
      m'.tree.node? ["work", "Sheet.lean"] = some (.file (Content.bytes "-- older")) := by
  constructor
  · have place : olderSheet.tree.IsPlace ["work"] (.ofString "Sheet.lean")
        ["work", "Sheet.lean"] := by
      unfold FileTree.IsPlace
      decide +kernel
    have other_place : olderSheet.tree.IsPlace ["work"]
        (clonedSheet ⟨"course/sheets", "sheets/Sheet.lean"⟩ olderSheet)
        ["tmp", "grading-0", "template", "sheets", "Sheet.lean"] := by
      unfold FileTree.IsPlace
      decide +kernel
    have in_work : olderSheet.tree.locate ["work"] (Path.parent (.ofString "Sheet.lean")) =
        .ok ⟨["work"], some .directory⟩ :=
      FileTree.locate_of_isProper _ _ ⟨by decide, by decide, by decide⟩
    have older : olderSheet.tree.locate ["work"] (.ofString "Sheet.lean") =
        .ok ⟨["work", "Sheet.lean"], some (.file (Content.bytes "-- older"))⟩ :=
      (FileTree.locate_of_isProper _ _ ⟨by decide, by decide, by decide⟩).trans
        (FileTree.walk_single _ _ (by decide) (by decide))
    have aside : ∀ l, olderSheet.tree.OnWay ["work"] (.ofString "Sheet.lean") l →
        ¬olderSheet.scratchDir <+: l := by
      rintro l ⟨front, back, split, rfl⟩
      have names_eq : (Path.ofString "Sheet.lean").names = ["Sheet.lean"] := by decide
      obtain ⟨rfl, -⟩ | ⟨rfl, -⟩ := List.singleton_eq_append_iff.1 (names_eq.symm.trans split)
      · decide +kernel
      · decide +kernel
    have apart : ∀ l, olderSheet.tree.IsPlace ["work"] (.ofString "Sheet.lean") l →
        ¬olderSheet.tree.IsPlace ["work"]
          (clonedSheet ⟨"course/sheets", "sheets/Sheet.lean"⟩ olderSheet) l := by
      intro l at_l at_other
      exact absurd ((place.unique at_l).trans (at_other.unique other_place)) (by decide)
    have brings : Brings ⟨"course/sheets", "sheets/Sheet.lean"⟩ cloneTimeout olderSheet
        (Content.bytes "-- newer") := ⟨⟨_, rfl, rfl⟩, by decide +kernel⟩
    obtain ⟨l, m', at_l, fetched, -, stands, -⟩ := (fetchTemplate_all_or_nothing _ isSound
      (keepsToScratch _) trivial).2 _ brings (FileTree.canWrite_of_directory in_work older nofun)
      aside apart
    obtain rfl := place.unique at_l
    exact ⟨m', fetched, stands⟩
  · have absent : (cloned ⟨"course/sheets", "Sheet.lean"⟩ cloneTimeout olderSheet).read ["work"]
        (clonedSheet ⟨"course/sheets", "Sheet.lean"⟩ olderSheet) = .error .notFound := by
      decide +kernel
    obtain ⟨e, m', failed, -, kept, misconfigured⟩ :=
      (fetchTemplate_all_or_nothing (.ofString "Sheet.lean") isSound
        (keepsToScratch ⟨"course/sheets", "Sheet.lean"⟩) trivial).1
        fun sheet brings => by cases absent.symm.trans brings.present
    obtain ⟨reason, rfl⟩ | ⟨-, far⟩ := misconfigured
    · exact ⟨reason, m', failed, kept _⟩
    · change FileTree.locate _ ["work"] _ = _ at far
      rw [FileTree.read, far] at absent
      cases absent

end olderSheet

/-- A sheet with a name that is too long for a file. -/
def endlessSheet : TemplateSource := ⟨"course/templates", endlessName⟩

/-- **A name that is too long is missing from the clone, and yet no misconfiguration.** -/
theorem endlessSheet_not_misconfigured :
    (∀ sheet, ¬endlessSheet.Brings cloneTimeout olderSheet sheet) ∧
      ¬∃ reason, (fetchTemplate endlessSheet (.ofString "Sheet.lean") cloneTimeout olderSheet).1 =
        .error (.configuration reason) := by
  have isDir : (cloned endlessSheet cloneTimeout olderSheet).isDirectory olderSheet.home
      (Path.child ⟨.single, olderSheet.scratchDir⟩ "template") = .ok true := by decide +kernel
  obtain ⟨d, directory⟩ := FileTree.exists_of_isDirectory isDir
  have far := FileTree.locate_of_long directory possible_endlessName long_endlessName
  rw [← Path.child_of_plain ofString_endlessName] at far
  obtain ⟨printed, fetched⟩ :=
    exists_announced endlessSheet (.ofString "Sheet.lean") cloneTimeout olderSheet
  obtain ⟨m', worked, -⟩ := exists_of_far (m := { olderSheet with printed })
    (.ofString "Sheet.lean") rfl rfl far
  have ends := fetched (withScratch_eq (Machine.makeScratch_eq_inScratch _) worked)
  refine ⟨fun sheet brings => ?_, fun ⟨reason, misconfigured⟩ => ?_⟩
  · obtain ⟨l, located⟩ := FileTree.locate_of_read brings.present
    cases far.symm.trans located
  · rw [ends] at misconfigured
    cases misconfigured

end TemplateSource

end ProofGrading
