import ProofGrading.Proofs.Growth

/-!
# Proofs/Preparing — making directories from front to back

Directories are made from the last one backwards: what a directory is to stand in is made when it
turns out to be missing.  What comes of it is found by a walk in the other direction, which makes
each directory that is missing and goes on into it (`FileTree.prepare`).  Main statement: the two
make the same directories and fail on the same paths (`makeDirectories_eq_prepare`), unless the
path is misspelled or too long, and then nothing is made (`makeDirectories_of_not_isProper`).
-/

namespace ProofGrading

/-- **A path that can lead somewhere**: it is spelled as a path and not too long. -/
structure Path.IsProper (p : Path) : Prop where
  spelled : p.names.all Text.isFileName = true
  plain : (p.names.any fun n => n.toList.contains '\x00') = false
  short : Text.nameSize p.text < FileTree.pathLimit

/-- A path without its last name is no longer. -/
theorem Path.nameSize_intercalate_dropLast (names : List String) :
    Text.nameSize ("/".intercalate names.dropLast) ≤ Text.nameSize ("/".intercalate names) := by
  induction names with
  | nil => exact Nat.le_refl _
  | cons name rest ih =>
    match rest with
    | [] => exact Nat.zero_le _
    | [next] =>
      simp only [List.dropLast_cons_cons, List.dropLast_singleton, String.intercalate_cons_cons,
        String.intercalate_singleton, Text.nameSize_join]
      omega
    | next :: third :: rest =>
      have shorter : (name :: next :: third :: rest).dropLast =
          name :: next :: (third :: rest).dropLast := rfl
      rw [shorter, String.intercalate_cons_cons, String.intercalate_cons_cons]
      simp only [Text.nameSize_join]
      exact Nat.add_le_add_left ih _

/-- The spelling of a root comes before the names. -/
theorem Path.nameSize_rootText_append (r : Root) (s : String) :
    Text.nameSize (rootText r ++ s) = (rootText r).length + Text.nameSize s := by
  have slash : ∀ s, Text.nameSize ("/" ++ s) = 1 + Text.nameSize s := fun s => by
    rw [← String.empty_append (s := "/"), Text.nameSize_join]
    rfl
  cases r with
  | relative => rw [rootText, String.empty_append]; exact (Nat.zero_add _).symm
  | single => exact slash s
  | double =>
    rw [rootText, show "//" = "/" ++ "/" from rfl, String.append_assoc, slash, slash]
    exact (Nat.add_assoc ..).symm

/-- What a proper path stands in is a proper path. -/
theorem Path.IsProper.parent {p : Path} (h : p.IsProper) : p.parent.IsProper := by
  refine ⟨?_, ?_, ?_⟩
  · exact List.all_eq_true.2 fun name among =>
      List.all_eq_true.1 h.spelled name (List.dropLast_subset _ among)
  · exact List.any_eq_false.2 fun name among =>
      List.any_eq_false.1 h.plain name (List.dropLast_subset _ among)
  · have short := h.short
    have shorter := nameSize_intercalate_dropLast p.names
    unfold Path.text at short ⊢
    unfold Path.parent
    dsimp only
    split
    · decide
    · split at short
      · next empty => simp_all
      · rw [nameSize_rootText_append] at short ⊢
        omega

namespace FileTree

variable {t t' : FileTree} {home dir l : Location} {name : String} {names rest : List String}
  {p : Path}

/-- Where a path starts. -/
def start (home : Location) (p : Path) : Location := if p.isAbsolute then [] else home

theorem locate_of_isProper (t : FileTree) (home : Location) (h : p.IsProper) :
    t.locate home p = t.walk (start home p) p.names := by
  simp only [locate, h.spelled, h.plain]
  simp [Nat.not_le.2 h.short, start]

/-- Why a path that is not proper leads nowhere. -/
theorem exists_fault (h : ¬p.IsProper) :
    ∃ e, e ≠ .notFound ∧ ∀ (t : FileTree) home, t.locate home p = .error e := by
  cases spelled : p.names.all Text.isFileName with
  | false => exact ⟨.noFileName, by decide, fun t home => by simp only [locate, spelled]; rfl⟩
  | true =>
    cases plain : p.names.any fun n => n.toList.contains '\x00' with
    | true =>
      exact ⟨.nullCharacter, by decide, fun t home => by simp only [locate, spelled, plain]; rfl⟩
    | false =>
      have long : pathLimit ≤ Text.nameSize p.text :=
        Nat.not_lt.1 fun short => h ⟨spelled, plain, short⟩
      refine ⟨.nameTooLong, by decide, fun t home => ?_⟩
      simp only [locate, spelled, plain, long, if_true]
      rfl

/-! ## From front to back -/

/-- Walks names from a directory and makes each directory that is missing; where it ends, unless
something is in the way. -/
def prepare (t : FileTree) (dir : Location) : List String → FileTree × Option Location
  | [] => (t, some dir)
  | name :: rest =>
    if name = ".." then t.prepare dir.dropLast rest
    else if nameLimit < Text.nameSize name then (t, none)
    else
      match t.node? (t.step dir name) with
      | some .directory => t.prepare (t.step dir name) rest
      | none => (t.put (t.step dir name) .directory).prepare (t.step dir name) rest
      | some (.file _) => (t, none)

theorem prepare_up (t : FileTree) (dir : Location) (rest : List String) :
    t.prepare dir (".." :: rest) = t.prepare dir.dropLast rest := by
  rw [prepare, if_pos rfl]

section

variable (proper : name ≠ "..") (fits : Text.nameSize name ≤ nameLimit)
include proper fits

theorem prepare_directory (h : t.node? (t.step dir name) = some .directory) (rest : List String) :
    t.prepare dir (name :: rest) = t.prepare (t.step dir name) rest := by
  rw [prepare, if_neg proper, if_neg (Nat.not_lt.2 fits), h]

theorem prepare_none (h : t.node? (t.step dir name) = none) (rest : List String) :
    t.prepare dir (name :: rest) =
      (t.put (t.step dir name) .directory).prepare (t.step dir name) rest := by
  rw [prepare, if_neg proper, if_neg (Nat.not_lt.2 fits), h]

theorem prepare_file {data : ByteArray} (h : t.node? (t.step dir name) = some (.file data))
    (rest : List String) : t.prepare dir (name :: rest) = (t, none) := by
  rw [prepare, if_neg proper, if_neg (Nat.not_lt.2 fits), h]

end

theorem prepare_long (proper : name ≠ "..") (long : nameLimit < Text.nameSize name)
    (rest : List String) : t.prepare dir (name :: rest) = (t, none) := by
  rw [prepare, if_neg proper, if_pos long]

/-- One name after the other. -/
theorem prepare_append (t : FileTree) (dir : Location) (names rest : List String) :
    t.prepare dir (names ++ rest) =
      match t.prepare dir names with
      | (t, some l) => t.prepare l rest
      | (t, none) => (t, none) := by
  fun_induction prepare t dir names with
  | case1 => rfl
  | case2 t dir names ih => rw [List.cons_append, prepare_up, ih]
  | case3 t dir name names proper long => rw [List.cons_append, prepare_long proper long]
  | case4 t dir name names proper fits directory ih =>
    rw [List.cons_append, prepare_directory proper (Nat.not_lt.1 fits) directory, ih]
  | case5 t dir name names proper fits free ih =>
    rw [List.cons_append, prepare_none proper (Nat.not_lt.1 fits) free, ih]
  | case6 t dir name names proper fits data file =>
    rw [List.cons_append, prepare_file proper (Nat.not_lt.1 fits) file]

/-- Where the walk ends. -/
theorem resolveNames_of_prepare (h : (t.prepare dir names).2 = some l) :
    l = t.resolveNames dir names := by
  induction names generalizing t dir with
  | nil => exact (Option.some.inj h).symm
  | cons name rest ih =>
    rw [prepare] at h
    rw [resolveNames]
    split at h
    · next up => rw [if_pos up]; exact ih h
    · next proper =>
      rw [if_neg proper]
      split at h
      · cases h
      · split at h
        · exact ih h
        · have same : (t.put (t.step dir name) .directory).aliases = t.aliases := rfl
          exact (ih h).trans (resolveNames_congr same _ _)
        · cases h

/-! ### What a walk says of it -/

theorem prepare_of_walk (h : t.walk dir names = .ok ⟨l, some .directory⟩) :
    t.prepare dir names = (t, some l) := by
  induction names generalizing dir with
  | nil =>
    obtain ⟨rfl, -⟩ := Spot.mk.inj (Except.ok.inj h)
    rfl
  | cons name rest ih =>
    rw [walk] at h
    split at h
    · next up => rw [up, prepare_up, ih h]
    · next proper =>
      split at h
      · cases h
      · next fits =>
        dsimp only at h
        split at h
        · next directory => rw [prepare_directory proper (Nat.not_lt.1 fits) directory, ih h]
        · next not_directory =>
          obtain ⟨-, directory⟩ := Spot.mk.inj (Except.ok.inj h)
          exact absurd directory not_directory
        · cases h
        · cases h

theorem Leads.prepare_none (h : Leads t dir names l) (free : t.node? l = none) :
    t.prepare dir names = (t.put l .directory, some l) := by
  induction h with
  | up _ ih => rw [prepare_up, ih free]
  | down proper fits directory _ ih => rw [prepare_directory proper fits directory, ih free]
  | last proper fits _ => rw [FileTree.prepare_none proper fits free]; rfl

theorem Leads.prepare_file {data : ByteArray} (h : Leads t dir names l)
    (file : t.node? l = some (.file data)) : t.prepare dir names = (t, none) := by
  induction h with
  | up _ ih => rw [prepare_up, ih file]
  | down proper fits directory _ ih => rw [prepare_directory proper fits directory, ih file]
  | last proper fits _ => rw [FileTree.prepare_file proper fits file]

/-- Nothing is made where the walk ends at something else than what is missing. -/
theorem prepare_of_walk_error {e : FileFault} (h : t.walk dir names = .error e)
    (other : e ≠ .notFound) : t.prepare dir names = (t, none) := by
  induction names generalizing dir with
  | nil => cases h
  | cons name rest ih =>
    rw [walk] at h
    split at h
    · next up => rw [up, prepare_up, ih h]
    · next proper =>
      split at h
      · next long => exact prepare_long proper long rest
      · next fits =>
        dsimp only at h
        split at h
        · next directory => rw [prepare_directory proper (Nat.not_lt.1 fits) directory, ih h]
        · cases h
        · next file => exact FileTree.prepare_file proper (Nat.not_lt.1 fits) file _
        · cases h
          exact absurd rfl other

/-! ## From back to front -/

/-- What making a directory comes to, once what it stands in is there. -/
def settle (t : FileTree) (home : Location) (p : Path) : FileTree × Option FileFault :=
  match t.makeDirectory home p with
  | .ok t => (t, none)
  | .error e => (t, t.unlessDirectory home p e)

/-- Two attempts to make directories make the same ones, and fail both or neither. -/
def Agrees (made : FileTree × Option FileFault) (prepared : FileTree × Option Location) : Prop :=
  made.1 = prepared.1 ∧ (made.2 = none ↔ prepared.2 ≠ none)

theorem unlessDirectory_ne_none {e : FileFault}
    (h : ∀ dir, t.locate home p ≠ .ok ⟨dir, some .directory⟩) :
    t.unlessDirectory home p e ≠ none := fun excused => by
  obtain ⟨dir, located⟩ := directory_of_unlessDirectory excused
  exact h dir located

theorem unlessDirectory_of_directory {e : FileFault}
    (h : t.locate home p = .ok ⟨dir, some .directory⟩) (other : e.isOfPath = false) :
    t.unlessDirectory home p e = none := by
  have there : t.isDirectory home p = .ok true := by rw [isDirectory, asks, h]
  simp [unlessDirectory, other, there]

theorem agrees_settle (h : p.IsProper) (found : t.makeDirectory home p ≠ .error .notFound) :
    Agrees (t.settle home p) (t.prepare (start home p) p.names) := by
  have located := locate_of_isProper t home h
  unfold settle
  rcases walked : t.walk (start home p) p.names with e | ⟨l, _ | data | _⟩
  · have fault : t.makeDirectory home p = .error e := by rw [makeDirectory, located, walked]
    have other : e ≠ .notFound := by
      rintro rfl
      exact found fault
    have refused : t.unlessDirectory home p e ≠ none := unlessDirectory_ne_none fun dir there => by
      cases there.symm.trans (located.trans walked)
    rw [fault, prepare_of_walk_error walked other]
    exact ⟨rfl, iff_of_false refused (absurd rfl)⟩
  · have not_directory : (none : Option Node) ≠ some .directory := (Option.some_ne_none _).symm
    have free := node?_of_locate (located.trans walked) not_directory
    have made : t.makeDirectory home p = .ok (t.put l .directory) := by
      rw [makeDirectory, located, walked]
    rw [made, (leads_of_walk walked not_directory).prepare_none free]
    exact ⟨rfl, iff_of_true rfl (Option.some_ne_none l)⟩
  · have not_directory : some (Node.file data) ≠ some .directory := by simp
    have file := node?_of_locate (located.trans walked) not_directory
    have occupied : t.makeDirectory home p = .error .occupied := by
      rw [makeDirectory, located, walked]
    have refused : t.unlessDirectory home p .occupied ≠ none :=
      unlessDirectory_ne_none fun dir there => by cases there.symm.trans (located.trans walked)
    rw [occupied, (leads_of_walk walked not_directory).prepare_file file]
    exact ⟨rfl, iff_of_false refused (absurd rfl)⟩
  · have occupied : t.makeDirectory home p = .error .occupied := by
      rw [makeDirectory, located, walked]
    have excused : t.unlessDirectory home p .occupied = none :=
      unlessDirectory_of_directory (located.trans walked) rfl
    rw [occupied, prepare_of_walk walked]
    exact ⟨rfl, iff_of_true excused (Option.some_ne_none l)⟩

/-- Misspelled or too long, a path is not made. -/
theorem makeDirectories_of_not_isProper (t : FileTree) (home : Location) (h : ¬p.IsProper) :
    (t.makeDirectories home p).1 = t ∧ (t.makeDirectories home p).2 ≠ none := by
  obtain ⟨e, found, fault⟩ := exists_fault h
  have refused : t.unlessDirectory home p e ≠ none := unlessDirectory_ne_none fun dir there => by
    cases there.symm.trans (fault t home)
  have fault : t.makeDirectory home p = .error e := by rw [makeDirectory, fault]
  rw [makeDirectories]
  split
  · next made => cases fault.symm.trans made
  · next missing =>
    cases fault.symm.trans missing
    exact absurd rfl found
  · next e' _ fault' =>
    cases fault.symm.trans fault'
    exact ⟨rfl, refused⟩

/-- The last name is made from where the others end. -/
theorem prepare_last {t₁ : FileTree} {d : Location} (some_name : p.names ≠ [])
    (aliases : t₁.aliases = t.aliases)
    (prepared : t.prepare (start home p) p.parent.names = (t₁, some d))
    (walked : t₁.walk (start home p) p.parent.names = .ok ⟨dir, some .directory⟩) :
    t₁.prepare (start home p) p.names = t.prepare (start home p) p.names := by
  have same : d = dir := by
    have at_end := resolveNames_of_prepare (congrArg Prod.snd prepared)
    rw [at_end, ← resolveNames_congr aliases, resolveNames_of_walk walked]
  have names_eq : p.names = p.parent.names ++ [p.names.getLast some_name] :=
    (List.dropLast_append_getLast some_name).symm
  rw [names_eq, prepare_append, prepare_append, prepared, prepare_of_walk walked, same]

/-- In a directory that is there nothing else is missing. -/
theorem makeDirectory_ne_notFound (h : p.IsProper) (some_name : p.names ≠ [])
    (walked : t.walk (start home p) p.parent.names = .ok ⟨dir, some .directory⟩) :
    t.makeDirectory home p ≠ .error .notFound := by
  have names_eq : p.names = p.parent.names ++ [p.names.getLast some_name] :=
    (List.dropLast_append_getLast some_name).symm
  have found : ∀ name, t.walk dir [name] ≠ .error .notFound := by
    intro name missing
    rw [walk] at missing
    split at missing
    · cases missing
    · split at missing
      · cases missing
      · dsimp only at missing
        split at missing
        · cases missing
        · cases missing
        · next same => cases same
        · next same => cases same
  intro missing
  unfold makeDirectory at missing
  split at missing
  · cases missing
  · cases missing
  · next failed =>
    cases missing
    rw [locate_of_isProper t home h, names_eq, walk_append walked] at failed
    exact found _ failed

/-- **From back to front the same is made.** -/
theorem makeDirectories_eq_prepare (t : FileTree) (home : Location) (h : p.IsProper) :
    Agrees (t.makeDirectories home p) (t.prepare (start home p) p.names) := by
  -- once what the last name stands in is made, the last name settles it
  have last : ∀ {p : Path} {t₁ : FileTree}, p.IsProper → p.names ≠ [] →
      t.makeDirectories home p.parent = (t₁, none) →
      Agrees (t₁, none) (t.prepare (start home p) p.parent.names) →
      t₁.makeDirectory home p ≠ .error .notFound ∧
        Agrees (t₁.settle home p) (t.prepare (start home p) p.names) := by
    intro p t₁ proper some_name parents agrees
    have aliases : t₁.aliases = t.aliases := by
      have keeps := keeps_makeDirectories t home p.parent
      rw [parents] at keeps
      exact keeps.aliases
    obtain ⟨dir, located⟩ := directory_of_makeDirectories parents
    rw [locate_of_isProper t₁ home proper.parent] at located
    have found := makeDirectory_ne_notFound proper some_name located
    obtain ⟨same, ended⟩ := agrees
    obtain ⟨d, at_end⟩ := Option.ne_none_iff_exists'.1 (ended.1 rfl)
    have prepared : t.prepare (start home p) p.parent.names = (t₁, some d) :=
      Prod.ext same.symm at_end
    exact ⟨found, prepare_last some_name aliases prepared located ▸ agrees_settle proper found⟩
  fun_induction makeDirectories t home p with
  | case1 p t' made =>
    have settled := agrees_settle h fun missing => by cases made.symm.trans missing
    rwa [settle, made] at settled
  | case2 p missing empty =>
    rw [makeDirectory, locate_of_isProper t home h, empty] at missing
    cases missing
  | case3 p missing some_name t' e parents ih =>
    rw [parents] at ih
    obtain ⟨same, ended⟩ := ih h.parent
    have stopped : (t.prepare (start home p) p.parent.names).2 = none :=
      by_contra fun going => Option.some_ne_none e (ended.2 going)
    have names_eq : p.names = p.parent.names ++ [p.names.getLast some_name] :=
      (List.dropLast_append_getLast some_name).symm
    have prepared : t.prepare (start home p) p.parent.names = (t', none) :=
      Prod.ext same.symm stopped
    rw [names_eq, prepare_append, prepared]
    exact ⟨rfl, iff_of_false (Option.some_ne_none e) (absurd rfl)⟩
  | case4 p missing some_name t' parents t'' made ih =>
    rw [parents] at ih
    obtain ⟨-, settled⟩ := last h some_name parents (ih h.parent)
    rwa [settle, made] at settled
  | case5 p missing some_name t' parents again ih =>
    rw [parents] at ih
    exact absurd again (last h some_name parents (ih h.parent)).1
  | case6 p missing some_name t' parents e other failed ih =>
    rw [parents] at ih
    obtain ⟨-, settled⟩ := last h some_name parents (ih h.parent)
    rwa [settle, failed] at settled
  | case7 p e other failed =>
    have settled := agrees_settle h fun missing =>
      other (Except.error.inj (failed.symm.trans missing))
    rwa [settle, failed] at settled

end FileTree

end ProofGrading
