import Mathlib.Data.List.Lex
import Mathlib.Data.String.Basic
import ProofGrading.Proofs.Refetching

/-!
# Proofs/Choosing — which upload is graded

Of the files below a directory those are **eligible** that are called `*.lean` and are not hidden,
nor in a hidden directory.  In a directory tree each place below a directory is listed once, and by
its names (`FileTree.mem_eligible_iff`), so the files that are chosen from are those that are
eligible.  Main statement: the eligible file with the least names is chosen, whatever the order in
which files are listed, and the choice is refused just when there is none (`Job.upload_chosen`).
-/

namespace ProofGrading

/-! ## The first of some lists of names -/

theorem cons_le_cons_iff {x y : String} {xs ys : List String} :
    x :: xs ≤ y :: ys ↔ x < y ∨ x = y ∧ xs ≤ ys := by
  have after : y :: ys < x :: xs ↔ y < x ∨ y = x ∧ ys < xs := List.cons_lt_cons_iff
  rw [← not_lt, after]
  rcases lt_trichotomy x y with before | rfl | before
  · simp [before, before.ne', before.not_gt]
  · simp
  · simp [before, before.ne', before.not_gt]

theorem namesLe_iff {a b : List String} : namesLe a b = true ↔ a ≤ b := by
  induction a generalizing b with
  | nil =>
    refine iff_of_true (by rw [namesLe]) ?_
    cases b with
    | nil => exact le_refl _
    | cons y ys => exact le_of_lt List.Lex.nil
  | cons x xs ih =>
    cases b with
    | nil => exact iff_of_false (by simp [namesLe]) (not_le.2 List.Lex.nil)
    | cons y ys =>
      rw [namesLe, cons_le_cons_iff]
      split
      · next same => simp [same, ih]
      · next other => simp [other]

theorem firstPath?_eq_none_iff {ps : List (List String)} : firstPath? ps = none ↔ ps = [] := by
  cases ps with
  | nil => simp [firstPath?]
  | cons p rest =>
    rw [firstPath?]
    split <;> simp

/-- **The first of some lists of names comes before all of them.** -/
theorem firstPath?_le {ps : List (List String)} {p : List String} (first : firstPath? ps = some p) :
    ∀ q ∈ ps, p ≤ q := by
  induction ps generalizing p with
  | nil => cases first
  | cons x rest ih =>
    rw [firstPath?] at first
    split at first
    · next none_left =>
      cases first
      obtain rfl := firstPath?_eq_none_iff.1 none_left
      simp
    · next y first_left =>
      have least := ih first_left
      obtain rfl := Option.some.inj first
      intro q among
      split
      · next before =>
        obtain rfl | among := List.mem_cons.1 among
        · exact le_refl _
        · exact le_trans (namesLe_iff.1 before) (least q among)
      · next after =>
        obtain rfl | among := List.mem_cons.1 among
        · exact (le_total y q).resolve_right fun before => after (namesLe_iff.2 before)
        · exact least q among

namespace FileTree

variable {t t' : FileTree} {home place : Location} {dir : Path} {names : List String}

/-! ## Directory trees -/

/-- A name that a file can have. -/
structure IsName (name : String) : Prop where
  possible : nameFault? name = none
  proper : name ≠ ".."
  fits : Text.nameSize name ≤ nameLimit

/-- **A directory tree**: whatever stands in it stands in a directory, it is listed once and under a
name that a file can have, and nothing else stands where an alias does. -/
structure IsDirectoryTree (t : FileTree) : Prop where
  sound : t.IsSound
  once : (t.nodes.map (·.1)).Nodup
  named : ∀ l ∈ t.nodes.map (·.1), ∀ name ∈ l, IsName name
  unshadowed : ∀ a ∈ t.aliases, t.node? a.1 = none

theorem mem_descendants_iff :
    names ∈ t.descendants place ↔ names ≠ [] ∧ t.node? (place ++ names) ≠ none := by
  constructor
  · intro among
    refine ⟨?_, node?_of_mem_descendants among⟩
    rintro rfl
    rw [descendants_eq, List.mem_filterMap] at among
    obtain ⟨k, -, at_place⟩ := among
    split at at_place
    · next below =>
      obtain ⟨starts, longer⟩ := Bool.and_eq_true_iff.1 below
      obtain ⟨rest, rfl⟩ := List.isPrefixOf_iff_prefix.1 starts
      rw [List.drop_left] at at_place
      cases at_place
      simp at longer
    · cases at_place
  · rintro ⟨some_name, there⟩
    have some_place : place ++ names ≠ [] := List.append_ne_nil_of_right_ne_nil _ some_name
    rw [descendants_eq, List.mem_filterMap]
    refine ⟨_, mem_keys_of_node? there some_place, ?_⟩
    simp [some_name]

theorem nodup_descendants (once : (t.nodes.map (·.1)).Nodup) (place : Location) :
    (t.descendants place).Nodup := by
  rw [descendants_eq]
  refine once.filterMap fun k k' names from_k from_k' => ?_
  simp only [Option.mem_def, Option.ite_none_right_eq_some, Bool.and_eq_true,
    List.isPrefixOf_iff_prefix] at from_k from_k'
  obtain ⟨⟨⟨rest, rfl⟩, -⟩, at_names⟩ := from_k
  obtain ⟨⟨⟨rest', rfl⟩, -⟩, at_names'⟩ := from_k'
  simp only [List.drop_left, Option.some.injEq] at at_names at_names'
  rw [at_names, at_names']

/-! ## Another order -/

theorem find?_of_mem {nodes : List (Location × Node)} (once : (nodes.map (·.1)).Nodup)
    {e : Location × Node} (among : e ∈ nodes) : nodes.find? (·.1 == e.1) = some e := by
  induction nodes with
  | nil => cases among
  | cons first rest ih =>
    obtain ⟨new, once⟩ := List.nodup_cons.1 once
    obtain rfl | among := List.mem_cons.1 among
    · exact List.find?_cons_of_pos (beq_self_eq_true _)
    · have other : first.1 ≠ e.1 := fun same => new (List.mem_map.2 ⟨e, among, same.symm⟩)
      rw [List.find?_cons_of_neg (by simpa using other), ih once among]

/-- **The order in which nodes are listed does not matter** for what stands where. -/
theorem node?_perm {nodes : List (Location × Node)} (once : (t.nodes.map (·.1)).Nodup)
    (perm : nodes.Perm t.nodes) (l : Location) :
    ({ t with nodes } : FileTree).node? l = t.node? l := by
  have once' : (nodes.map (·.1)).Nodup := (perm.map _).nodup_iff.2 once
  have same : nodes.find? (·.1 == l) = t.nodes.find? (·.1 == l) := by
    cases found : t.nodes.find? (·.1 == l) with
    | none =>
      rw [List.find?_eq_none] at found ⊢
      exact fun e among => found e (perm.mem_iff.1 among)
    | some e =>
      have key : e.1 = l := by simpa using List.find?_some found
      rw [← key]
      exact find?_of_mem once' (perm.mem_iff.2 (List.mem_of_find?_eq_some found))
  rw [node?, node?, same]

namespace IsDirectoryTree

variable (tree : t.IsDirectoryTree)
include tree

/-- What stands somewhere has a possible name, and so has all it stands in. -/
theorem isName (there : t.node? (place ++ names) ≠ none) : ∀ name ∈ names, IsName name := by
  intro name among
  have some_place : place ++ names ≠ [] :=
    List.append_ne_nil_of_right_ne_nil _ (List.ne_nil_of_mem among)
  exact tree.named _ (mem_keys_of_node? there some_place) name (List.mem_append_right _ among)

/-- **Names lead to what they are listed for**, from the directory where they are listed. -/
theorem walk_eq (start : t.node? place = some .directory)
    (there : t.node? (place ++ names) ≠ none) :
    t.walk place names = .ok ⟨place ++ names, t.node? (place ++ names)⟩ := by
  have usable := tree.isName there
  induction names generalizing place with
  | nil => rw [List.append_nil, walk, start]
  | cons name rest ih =>
    obtain ⟨-, proper, fits⟩ := usable name List.mem_cons_self
    have single : t.node? (place ++ [name]) ≠ none →
        t.walk place [name] = .ok ⟨place ++ [name], t.node? (place ++ [name])⟩ := by
      intro next_there
      rw [walk_single t place proper fits,
        step_of_plain fun a among same => next_there (same ▸ tree.unshadowed a among)]
    have split : place ++ name :: rest = place ++ [name] ++ rest := List.append_cons ..
    by_cases last : rest = []
    · subst last
      exact single there
    · have directory : t.node? (place ++ [name]) = some .directory := by
        by_contra no_directory
        refine there (tree.sound.eq_none_of_prefix no_directory ⟨rest, split.symm⟩ ?_)
        simpa using Ne.symm last
      rw [directory] at single
      rw [split] at there ⊢
      rw [← List.singleton_append, walk_append (single (Option.some_ne_none _))]
      exact ih directory there fun other among => usable other (List.mem_cons_of_mem _ among)

/-- **A path to what is listed leads there**, if it is short enough. -/
theorem locate_eq (there_home : t.node? home = some .directory)
    (located : t.locate home dir = .ok ⟨place, some .directory⟩)
    (there : t.node? (place ++ names) ≠ none)
    (short : Text.nameSize (dir.join ⟨.relative, names⟩).text < pathLimit) :
    t.locate home (dir.join ⟨.relative, names⟩) =
      .ok ⟨place ++ names, t.node? (place ++ names)⟩ := by
  obtain ⟨spelled, plain, -, walked⟩ := locate_eq_ok_iff.1 located
  have directory := tree.sound.directory_of_walk (directory_start there_home dir) walked
  have usable := fun name among => nameFault?_eq_none_iff.1 (tree.isName there name among).possible
  have joined : dir.join ⟨.relative, names⟩ = ⟨dir.root, dir.names ++ names⟩ :=
    Path.names_join dir rfl
  rw [joined] at short ⊢
  refine locate_eq_ok_iff.2 ⟨?_, ?_, short, ?_⟩
  · rw [List.all_append, spelled, Bool.true_and, List.all_eq_true]
    exact fun name among => (usable name among).1
  · rw [List.any_append, plain, Bool.false_or, List.any_eq_false]
    exact fun name among => Bool.not_eq_true _ ▸ (usable name among).2
  · exact (walk_append walked).trans (tree.walk_eq directory there)

theorem reordered {nodes : List (Location × Node)} (perm : nodes.Perm t.nodes) :
    ({ t with nodes } : FileTree).IsDirectoryTree where
  sound := by
    have same := node?_perm tree.once perm
    have inDirectory : ∀ (dir : Location) (name : String),
        FileTree.node? { t with nodes } (dir ++ [name]) ≠ none →
          FileTree.node? { t with nodes } dir = some .directory := by
      intro dir name there
      rw [same] at there ⊢
      exact tree.sound.inDirectory dir name there
    have aliased : ∀ a ∈ t.aliases, FileTree.node? { t with nodes } a.2 = some .directory := by
      intro a among
      rw [same]
      exact tree.sound.aliased a among
    exact ⟨inDirectory, aliased⟩
  once := (perm.map _).nodup_iff.2 tree.once
  named l among := tree.named l ((perm.map _).mem_iff.1 among)
  unshadowed a among := (node?_perm tree.once perm _).trans (tree.unshadowed a among)

end IsDirectoryTree

/-! ## Eligible files -/

/-- **A file is eligible**, by the names that lead to it from the directory of the uploads: it is
called `*.lean`, and no name is hidden. -/
structure IsEligible (t : FileTree) (place : Location) (names : List String) : Prop where
  isFile : ∃ data, t.node? (place ++ names) = some (.file data)
  suffixed : ∃ front name, names = front ++ [name] ∧ ".lean".toList <:+ name.toList
  shown : ∀ name ∈ names, name.toList.head? ≠ some '.'

theorem isEligible_congr (same : ∀ l, t'.node? l = t.node? l) :
    t'.IsEligible place names ↔ t.IsEligible place names := by
  constructor
  · rintro ⟨isFile, suffixed, shown⟩
    exact ⟨same _ ▸ isFile, suffixed, shown⟩
  · rintro ⟨isFile, suffixed, shown⟩
    exact ⟨(same _).symm ▸ isFile, suffixed, shown⟩

theorem isCandidate_iff : isCandidate names = true ↔
    (∃ front name, names = front ++ [name] ∧ ".lean".toList <:+ name.toList) ∧
      ∀ name ∈ names, name.toList.head? ≠ some '.' := by
  rw [isCandidate, Bool.and_eq_true]
  refine and_congr ?_ (by simp)
  rcases List.eq_nil_or_concat names with rfl | ⟨front, name, rfl⟩
  · simp
  · simp [leanSuffix]

/-- Whether a file stands at a location. -/
def holdsFile (t : FileTree) (l : Location) : Bool :=
  match t.node? l with
  | some (.file _) => true
  | _ => false

theorem holdsFile_iff {l : Location} :
    t.holdsFile l = true ↔ ∃ data, t.node? l = some (.file data) := by
  unfold holdsFile
  split
  · next data there => simp [there]
  · next other =>
    simp only [Bool.false_eq_true, false_iff, not_exists]
    exact fun data there => other data there

theorem isFile_eq {p : Path} {l : Location}
    (located : t.locate home p = .ok ⟨l, t.node? l⟩) : t.isFile home p = .ok (t.holdsFile l) := by
  rw [isFile, asks, located, holdsFile]
  cases t.node? l with
  | none => rfl
  | some n => cases n <;> rfl

/-- The eligible files below a directory, as they are listed. -/
def eligible (t : FileTree) (place : Location) : List (List String) :=
  ((t.descendants place).filter isCandidate).filter fun names => t.holdsFile (place ++ names)

theorem mem_eligible_iff : names ∈ t.eligible place ↔ t.IsEligible place names := by
  rw [eligible, List.mem_filter, List.mem_filter, mem_descendants_iff, isCandidate_iff,
    holdsFile_iff]
  constructor
  · rintro ⟨⟨-, suffixed, shown⟩, isFile⟩
    exact ⟨isFile, suffixed, shown⟩
  · rintro ⟨⟨data, there⟩, suffixed, shown⟩
    refine ⟨⟨⟨?_, ?_⟩, suffixed, shown⟩, data, there⟩
    · obtain ⟨front, name, rfl, -⟩ := suffixed
      exact List.append_ne_nil_of_right_ne_nil _ (List.cons_ne_nil _ _)
    · rw [there]
      exact Option.some_ne_none _

theorem nodup_eligible (once : (t.nodes.map (·.1)).Nodup) (place : Location) :
    (t.eligible place).Nodup :=
  ((nodup_descendants once place).filter _).filter _

end FileTree

namespace Job

variable {m : Machine} {dir : Path} {place : Location}

/-- Those that lead to files are found, if it can be told of all of them. -/
theorem filesAmong_eq {is : List String → Bool} {candidates : List (List String)}
    (told : ∀ names ∈ candidates,
      m.tree.isFile m.home (dir.join ⟨.relative, names⟩) = .ok (is names)) :
    filesAmong dir candidates m = (.ok (candidates.filter is), m) := by
  induction candidates with
  | nil => rfl
  | cons names rest ih =>
    have here : isFile (dir.join ⟨.relative, names⟩) m = (.ok (is names), m) := by
      rw [isFile, look, told names List.mem_cons_self]
      rfl
    have others := ih fun other among => told other (List.mem_cons_of_mem _ among)
    rw [filesAmong, bind_ok here, bind_ok others, List.filter_cons]
    rfl

/-- What is told if there is no directory of uploads. -/
def missingUploads (dir : Path) : String := "Submission directory not found: " ++ dir.text

/-- What is told if no upload is eligible. -/
def missingUpload : String :=
  "No Lean file found in your submission. Please upload a single .lean file."

/-- What is told of a choice among several uploads. -/
def choiceNote (count : Nat) (names : List String) : String :=
  let shown := Path.text ⟨.relative, names⟩
  s!"Warning: Submission has {count} Lean files, using {shown}. "
    ++ "Please submit a single Lean file."

/-- **What choosing an upload comes to**, whatever the order in which files are listed: a refusal if
there is no directory or nothing eligible in it, the eligible file if it is the only one, and the
first one with a note if there are several. -/
inductive Chooses (t : FileTree) (home : Location) (dir : Path) : Except Failure Selection → Prop
  | noDirectory (missing : ∀ place, t.locate home dir ≠ .ok ⟨place, some .directory⟩) :
      Chooses t home dir (.error (.submission (missingUploads dir)))
  | noUpload {place : Location} (located : t.locate home dir = .ok ⟨place, some .directory⟩)
      (none_eligible : ∀ names, ¬t.IsEligible place names) :
      Chooses t home dir (.error (.submission missingUpload))
  | only {place : Location} {names : List String}
      (located : t.locate home dir = .ok ⟨place, some .directory⟩)
      (eligible : ∀ other, t.IsEligible place other ↔ other = names) :
      Chooses t home dir (.ok ⟨dir.join ⟨.relative, names⟩, ""⟩)
  | first {place : Location} {names : List String} {found : List (List String)}
      (located : t.locate home dir = .ok ⟨place, some .directory⟩)
      (once : found.Nodup) (several : 1 < found.length)
      (eligible : ∀ other, t.IsEligible place other ↔ other ∈ found)
      (among : names ∈ found) (least : ∀ other ∈ found, names ≤ other) :
      Chooses t home dir (.ok ⟨dir.join ⟨.relative, names⟩, choiceNote found.length names⟩)

/-- What choosing among some uploads comes to. -/
def chosenAmong (dir : Path) (found : List (List String)) : Except Failure Selection :=
  match firstPath? found with
  | none => .error (.submission missingUpload)
  | some names =>
    .ok ⟨dir.join ⟨.relative, names⟩,
      if found.length ≤ 1 then "" else choiceNote found.length names⟩

theorem chooses_chosenAmong {t : FileTree} {home : Location} {found : List (List String)}
    (located : t.locate home dir = .ok ⟨place, some .directory⟩) (once : found.Nodup)
    (eligible : ∀ names, names ∈ found ↔ t.IsEligible place names) :
    Chooses t home dir (chosenAmong dir found) := by
  unfold chosenAmong
  split
  · next nothing =>
    obtain rfl := firstPath?_eq_none_iff.1 nothing
    exact .noUpload located fun names is => List.not_mem_nil ((eligible names).2 is)
  · next names first =>
    have among := mem_of_firstPath? first
    split
    · next few =>
      obtain ⟨only, rfl⟩ : ∃ only, found = [only] :=
        List.length_eq_one_iff.1 (Nat.le_antisymm few (List.length_pos_of_mem among))
      obtain rfl := List.mem_singleton.1 among
      exact .only located fun other => (eligible other).symm.trans List.mem_singleton
    · next several =>
      exact .first located once (Nat.lt_of_not_le several) (fun other => (eligible other).symm)
        among (firstPath?_le first)

theorem selectSubmission_eq {all found : List (List String)}
    (isDir : isDirectory dir m = (.ok true, m)) (listed : namesBelow dir m = (.ok all, m))
    (searched : filesAmong dir (all.filter isCandidate) m = (.ok found, m)) :
    selectSubmission dir m = (chosenAmong dir found, m) := by
  refine (bind_ok isDir _).trans <| (bind_ok listed _).trans <| (bind_ok searched _).trans ?_
  unfold chosenAmong
  cases firstPath? found <;> rfl

theorem isDirectory_eq {t : FileTree} {home : Location}
    (located : t.locate home dir = .ok ⟨place, some .directory⟩) :
    t.isDirectory home dir = .ok true := by
  rw [FileTree.isDirectory, FileTree.asks, located]

/-- What is not found to be a directory is none, unless its path is too long. -/
theorem isDirectory_eq_false {t : FileTree} {home : Location}
    (near : t.locate home dir ≠ .error .nameTooLong)
    (missing : ∀ place, t.locate home dir ≠ .ok ⟨place, some .directory⟩) :
    t.isDirectory home dir = .ok false := by
  unfold FileTree.isDirectory FileTree.asks
  split
  · next l n located =>
    cases n with
    | file data => rfl
    | directory => exact absurd located (missing l)
  · rfl
  · next far => exact absurd far near
  · rfl

theorem selectSubmission_of_missing (near : m.tree.locate m.home dir ≠ .error .nameTooLong)
    (missing : ∀ place, m.tree.locate m.home dir ≠ .ok ⟨place, some .directory⟩) :
    selectSubmission dir m = (.error (.submission (missingUploads dir)), m) := by
  have no_directory : isDirectory dir m = (.ok false, m) := by
    rw [isDirectory, look, isDirectory_eq_false near missing]
    rfl
  exact bind_ok no_directory _

/-- A path that is too long cannot be looked up, and so nothing is chosen or refused. -/
theorem selectSubmission_of_far (far : m.tree.locate m.home dir = .error .nameTooLong) :
    selectSubmission dir m = (.error (.files .nameTooLong), m) := by
  have looked : isDirectory dir m = (.error (.files .nameTooLong), m) := by
    rw [isDirectory, look, FileTree.isDirectory, FileTree.asks, far]
    rfl
  exact bind_error looked _

/-- Paths to what stands below a directory of uploads are short enough to be looked up. -/
def AreShort (t : FileTree) (home : Location) (dir : Path) : Prop :=
  ∀ place names, t.locate home dir = .ok ⟨place, some .directory⟩ →
    t.node? (place ++ names) ≠ none →
      Text.nameSize (dir.join ⟨.relative, names⟩).text < FileTree.pathLimit

theorem selectSubmission_of_directory (tree : m.tree.IsDirectoryTree)
    (there : m.tree.node? m.home = some .directory) (short : AreShort m.tree m.home dir)
    (located : m.tree.locate m.home dir = .ok ⟨place, some .directory⟩) :
    selectSubmission dir m = (chosenAmong dir (m.tree.eligible place), m) := by
  have directory : isDirectory dir m = (.ok true, m) := by
    rw [isDirectory, look, isDirectory_eq located]
    rfl
  have listed : namesBelow dir m = (.ok (m.tree.descendants place), m) := by
    rw [namesBelow, located]
  have searched : filesAmong dir ((m.tree.descendants place).filter isCandidate) m =
      (.ok (m.tree.eligible place), m) := by
    refine filesAmong_eq fun names among => FileTree.isFile_eq ?_
    have stands := FileTree.node?_of_mem_descendants (List.mem_filter.1 among).1
    exact tree.locate_eq there located stands (short place names located stands)
  exact selectSubmission_eq directory listed searched

/-- An upload is chosen, or there is none to choose. -/
theorem chooses_selectSubmission (tree : m.tree.IsDirectoryTree)
    (there : m.tree.node? m.home = some .directory)
    (near : m.tree.locate m.home dir ≠ .error .nameTooLong) (short : AreShort m.tree m.home dir) :
    Chooses m.tree m.home dir (selectSubmission dir m).1 := by
  by_cases isDir : ∃ place, m.tree.locate m.home dir = .ok ⟨place, some .directory⟩
  · obtain ⟨place, located⟩ := isDir
    rw [selectSubmission_of_directory tree there short located]
    exact chooses_chosenAmong located (FileTree.nodup_eligible tree.once place) fun names =>
      FileTree.mem_eligible_iff
  · rw [not_exists] at isDir
    rw [selectSubmission_of_missing near isDir]
    exact .noDirectory isDir

/-- Choosing is refused just when there is nothing to choose. -/
theorem Chooses.refused_iff {t : FileTree} {home : Location} {r : Except Failure Selection}
    (h : Chooses t home dir r) : (∃ reason, r = .error (.submission reason)) ↔
      ¬∃ place names, t.locate home dir = .ok ⟨place, some .directory⟩ ∧
        t.IsEligible place names := by
  have same_place {place place' : Location}
      (located : t.locate home dir = .ok ⟨place, some .directory⟩)
      (located' : t.locate home dir = .ok ⟨place', some .directory⟩) : place' = place :=
    (FileTree.Spot.mk.inj (Except.ok.inj (located'.symm.trans located))).1
  cases h with
  | noDirectory missing =>
    exact iff_of_true ⟨_, rfl⟩ fun ⟨place, _, located, _⟩ => missing place located
  | noUpload located none_eligible =>
    refine iff_of_true ⟨_, rfl⟩ fun ⟨place', names, located', eligible⟩ => ?_
    obtain rfl := same_place located located'
    exact none_eligible names eligible
  | only located eligible =>
    refine iff_of_false nofun (not_not_intro ⟨_, _, located, (eligible _).2 rfl⟩)
  | first located _ _ eligible among =>
    exact iff_of_false nofun (not_not_intro ⟨_, _, located, (eligible _).2 among⟩)

/-- What is chosen does not depend on the order in which uploads are found. -/
theorem chosenAmong_congr {found found' : List (List String)} (once : found.Nodup)
    (once' : found'.Nodup) (same : ∀ names, names ∈ found ↔ names ∈ found') :
    chosenAmong dir found = chosenAmong dir found' := by
  have perm : found.Perm found' := (List.perm_ext_iff_of_nodup once once').2 same
  have first : firstPath? found = firstPath? found' := by
    cases first : firstPath? found with
    | none =>
      obtain rfl := firstPath?_eq_none_iff.1 first
      rw [List.nil_perm.1 perm]
      rfl
    | some names =>
      have among := mem_of_firstPath? first
      cases first' : firstPath? found' with
      | none =>
        obtain rfl := firstPath?_eq_none_iff.1 first'
        exact absurd ((same names).1 among) List.not_mem_nil
      | some names' =>
        have among' := mem_of_firstPath? first'
        rw [le_antisymm (firstPath?_le first names' ((same names').2 among'))
          (firstPath?_le first' names ((same names).1 among))]
  rw [chosenAmong, chosenAmong, first, perm.length_eq]

/-- **An upload is chosen whatever the order in which files are listed.** -/
theorem selectSubmission_reordered (tree : m.tree.IsDirectoryTree)
    (there : m.tree.node? m.home = some .directory)
    (near : m.tree.locate m.home dir ≠ .error .nameTooLong) (short : AreShort m.tree m.home dir)
    {nodes : List (Location × Node)} (perm : nodes.Perm m.tree.nodes) :
    (selectSubmission dir { m with tree := { m.tree with nodes } }).1 =
      (selectSubmission dir m).1 := by
  have same := FileTree.node?_perm tree.once perm
  have found : FileTree.locate { m.tree with nodes } m.home dir = m.tree.locate m.home dir :=
    FileTree.locate_congr rfl fun l _ => same l
  by_cases isDir : ∃ place, m.tree.locate m.home dir = .ok ⟨place, some .directory⟩
  · obtain ⟨place, located⟩ := isDir
    have tree' := tree.reordered perm
    have short' : AreShort { m.tree with nodes } m.home dir := fun place names located stands =>
      short place names (found.symm.trans located) (same _ ▸ stands)
    have chosen' := selectSubmission_of_directory (m := { m with tree := { m.tree with nodes } })
      tree' ((same _).trans there) short' (found.trans located)
    rw [selectSubmission_of_directory tree there short located, chosen']
    refine chosenAmong_congr (FileTree.nodup_eligible tree'.once place)
      (FileTree.nodup_eligible tree.once place) fun names => ?_
    rw [FileTree.mem_eligible_iff, FileTree.mem_eligible_iff]
    exact FileTree.isEligible_congr same
  · rw [not_exists] at isDir
    rw [selectSubmission_of_missing near isDir, selectSubmission_of_missing (found ▸ near)
      fun place => found ▸ isDir place]

/-- **Which upload is chosen.**  In a directory tree, choosing is refused just when there is no
directory of uploads or no eligible file in it.  Otherwise the eligible file with the least names is
chosen, compared name by name, with a note on how many there are if it is not the only one; in what
order the files are listed does not matter. -/
theorem upload_chosen (tree : m.tree.IsDirectoryTree)
    (there : m.tree.node? m.home = some .directory)
    (near : m.tree.locate m.home dir ≠ .error .nameTooLong) (short : AreShort m.tree m.home dir) :
    ((∃ reason, (selectSubmission dir m).1 = .error (.submission reason)) ↔
        ¬∃ place names, m.tree.locate m.home dir = .ok ⟨place, some .directory⟩ ∧
          m.tree.IsEligible place names) ∧
      Chooses m.tree m.home dir (selectSubmission dir m).1 ∧
      ∀ nodes : List (Location × Node), nodes.Perm m.tree.nodes →
        (selectSubmission dir { m with tree := { m.tree with nodes } }).1 =
          (selectSubmission dir m).1 := by
  have chooses := chooses_selectSubmission tree there near short
  exact ⟨chooses.refused_iff, chooses,
    fun _ perm => selectSubmission_reordered tree there near short perm⟩

/-- A machine with two eligible uploads, the first of which comes second when paths are compared as
texts; a hidden file, and a directory that is called like an upload. -/
def twoUploads : Machine where
  home := ["work"]
  scratch := ["tmp"]
  scratchName := "grading"
  bundle := ["bundle"]
  tree :=
    { nodes := [(["work"], .directory), (["work", "upload"], .directory),
        (["work", "upload", "a-b.lean"], .file .empty), (["work", "upload", "a"], .directory),
        (["work", "upload", "a", "b.lean"], .file .empty),
        (["work", "upload", ".git"], .directory),
        (["work", "upload", ".git", "a.lean"], .file .empty),
        (["work", "upload", "A.lean"], .directory)] }

namespace twoUploads

theorem isDirectoryTree : twoUploads.tree.IsDirectoryTree where
  sound := by
    refine FileTree.isSound_of_nodes (fun e among => ?_) nofun
    simp only [twoUploads, List.mem_cons, List.not_mem_nil, or_false] at among
    obtain rfl | rfl | rfl | rfl | rfl | rfl | rfl | rfl := among <;> rfl
  once := by decide
  named := by
    have all : ∀ l ∈ twoUploads.tree.nodes.map (·.1), ∀ name ∈ l,
        FileTree.nameFault? name = none ∧ name ≠ ".." ∧
          Text.nameSize name ≤ FileTree.nameLimit := by decide +kernel
    exact fun l listed name among =>
      have ⟨possible, proper, fits⟩ := all l listed name among
      ⟨possible, proper, fits⟩
  unshadowed := nofun

theorem areShort : AreShort twoUploads.tree twoUploads.home (.ofString "upload") := by
  intro place names located stands
  have at_uploads : twoUploads.tree.IsPlace twoUploads.home (.ofString "upload")
      ["work", "upload"] := by
    unfold FileTree.IsPlace
    decide +kernel
  obtain rfl := (FileTree.isPlace_of_locate located).unique at_uploads
  have few : ∀ names ∈ [] :: twoUploads.tree.descendants ["work", "upload"],
      Text.nameSize ((Path.ofString "upload").join ⟨.relative, names⟩).text <
        FileTree.pathLimit := by decide +kernel
  refine few names (List.mem_cons.2 (or_iff_not_imp_left.2 fun some_name => ?_))
  exact FileTree.mem_descendants_iff.2 ⟨some_name, stands⟩

/-- The upload in a directory is chosen of the two, with a note. -/
theorem chosen :
    Chooses twoUploads.tree twoUploads.home (.ofString "upload")
        (selectSubmission (.ofString "upload") twoUploads).1 ∧
      (selectSubmission (.ofString "upload") twoUploads).1 =
        .ok ⟨.ofString "upload/a/b.lean", "Warning: Submission has 2 Lean files, using a/b.lean. "
          ++ "Please submit a single Lean file."⟩ := by
  refine ⟨(upload_chosen isDirectoryTree rfl (fun far => ?_) areShort).2.1, by decide +kernel⟩
  have isDir : twoUploads.tree.isDirectory twoUploads.home (.ofString "upload") = .ok true := by
    decide +kernel
  rw [FileTree.isDirectory, FileTree.asks, far] at isDir
  cases isDir

end twoUploads

/-- A name that is too long for a file. -/
def endlessName : String := String.ofList (List.replicate 300 'a')

theorem toList_endlessName : endlessName.toList = List.replicate 300 'a' := String.toList_ofList

theorem long_endlessName : FileTree.nameLimit < Text.nameSize endlessName := by
  rw [Text.nameSize_eq_length, toList_endlessName]
  decide +kernel

theorem possible_endlessName : FileTree.nameFault? endlessName = none := by
  rw [FileTree.nameFault?_eq_none_iff, Text.isFileName, toList_endlessName]
  decide +kernel

theorem ofString_endlessName : Path.ofString endlessName = ⟨.relative, [endlessName]⟩ := by
  have whole : Text.splitOn '/' (List.replicate 300 'a') = [List.replicate 300 'a'] := by
    decide +kernel
  have something : Path.saysSomething endlessName = true := by decide +kernel
  rw [Path.ofString, Text.pieces, toList_endlessName, whole, List.map_singleton]
  change Path.mk .relative ([endlessName].filter Path.saysSomething) = _
  rw [List.filter_singleton, something]
  rfl

/-- **A path that is too long is no directory, and yet not refused as one that is missing.** -/
theorem endlessName_unrefused :
    (∀ place, twoUploads.tree.locate twoUploads.home (.ofString endlessName) ≠
        .ok ⟨place, some .directory⟩) ∧
      ¬∃ reason, (selectSubmission (.ofString endlessName) twoUploads).1 =
        .error (.submission reason) := by
  have here : twoUploads.tree.locate twoUploads.home {} = .ok ⟨["work"], some .directory⟩ :=
    FileTree.locate_of_isProper _ _ ⟨by decide, by decide, by decide⟩
  have far := FileTree.locate_of_long here possible_endlessName long_endlessName
  rw [List.nil_append, ← ofString_endlessName] at far
  have ends := selectSubmission_of_far far
  refine ⟨fun place located => (nomatch far.symm.trans located), fun ⟨reason, refused⟩ => ?_⟩
  rw [ends] at refused
  cases refused

end Job

end ProofGrading
