import ProofGrading.Proofs.Endings

/-!
# Proofs/FileWriting — a file that was written is read

A file that is put where no directory stands changes no walk but the one that ends there
(`Leads.put`), so what is written to a path is read from it (`read_of_write`).  A text with bytes is
written whenever its directory can be made and the path leads to no directory
(`Machine.writeText_ok`), and what was written is read (`Machine.read_of_writeText`); one without
bytes touches nothing (`Machine.writeText_unwritable`).
-/

namespace ProofGrading

namespace FileTree

variable {t : FileTree} {dir l : Location} {name : String} {names : List String}
  {n : Option Node}

@[simp] theorem step_put (t : FileTree) (l : Location) (m : Node) (dir : Location)
    (name : String) : (t.put l m).step dir name = t.step dir name := rfl

/-! ## Places for files -/

/-- **Names lead to a place for a file**: through directories, and at the last name to what is
none. -/
inductive Leads (t : FileTree) : Location → List String → Location → Prop
  | up {dir l : Location} {names : List String} (rest : Leads t dir.dropLast names l) :
      Leads t dir (".." :: names) l
  | down {dir l : Location} {name : String} {names : List String} (proper : name ≠ "..")
      (fits : Text.nameSize name ≤ nameLimit)
      (directory : t.node? (t.step dir name) = some .directory)
      (rest : Leads t (t.step dir name) names l) : Leads t dir (name :: names) l
  | last {dir : Location} {name : String} (proper : name ≠ "..")
      (fits : Text.nameSize name ≤ nameLimit)
      (free : t.node? (t.step dir name) ≠ some .directory) : Leads t dir [name] (t.step dir name)

theorem Leads.free (h : Leads t dir names l) : t.node? l ≠ some .directory := by
  induction h with
  | up _ ih => exact ih
  | down _ _ _ _ ih => exact ih
  | last _ _ free => exact free

theorem Leads.ne_nil (h : Leads t dir names l) : l ≠ [] := by
  rintro rfl
  exact h.free rfl

theorem Leads.walk_eq (h : Leads t dir names l) : t.walk dir names = .ok ⟨l, t.node? l⟩ := by
  induction h with
  | up _ ih => rwa [walk, if_pos rfl]
  | down proper fits directory _ ih =>
    rw [walk, if_neg proper, if_neg (Nat.not_lt.2 fits)]
    dsimp only
    rwa [directory]
  | last proper fits free =>
    rw [walk, if_neg proper, if_neg (Nat.not_lt.2 fits)]
    dsimp only
    split
    · next directory => exact (free directory).elim
    · rfl
    · next h => cases h
    · next h => cases h

theorem leads_of_walk (h : t.walk dir names = .ok ⟨l, n⟩) (hn : n ≠ some .directory) :
    Leads t dir names l := by
  induction names generalizing dir with
  | nil => cases h; exact (hn rfl).elim
  | cons name rest ih =>
    rw [walk] at h
    split at h
    · next up => subst up; exact .up (ih h)
    · next proper =>
      split at h
      · cases h
      · next long =>
        have fits := Nat.not_lt.1 long
        dsimp only at h
        split at h
        · next directory => exact .down proper fits directory (ih h)
        · next free =>
          obtain ⟨hl, -⟩ := Spot.mk.inj (Except.ok.inj h)
          exact hl ▸ .last proper fits free
        · cases h
        · cases h

/-- **A file that is put where names lead is where they lead**: no directory on the way is
touched. -/
theorem Leads.put (h : Leads t dir names l) (data : ByteArray) :
    Leads (t.put l (.file data)) dir names l := by
  have ne_nil := h.ne_nil
  have elsewhere := h.free
  induction h with
  | up _ ih => exact .up (ih ne_nil elsewhere)
  | @down dir l name _ proper fits directory _ ih =>
    have other : t.step dir name ≠ l := fun he => elsewhere (he ▸ directory)
    exact .down proper fits ((node?_put_ne t _ other).trans directory) (ih ne_nil elsewhere)
  | @last dir name proper fits =>
    refine .last proper fits fun directory => ?_
    rw [step_put, node?_put_self t _ ne_nil] at directory
    cases directory

/-! ## Writing and reading -/

section

variable {home : Location} {p : Path} {data : ByteArray}

theorem locate_eq_ok_iff {spot : Spot} :
    t.locate home p = .ok spot ↔
      p.names.all Text.isFileName = true ∧ (p.names.any fun n => n.toList.contains '\x00') = false ∧
        Text.nameSize p.text < pathLimit ∧
        t.walk (if p.isAbsolute then [] else home) p.names = .ok spot := by
  unfold locate
  cases p.names.all Text.isFileName with
  | false => simp
  | true =>
    cases p.names.any fun n => n.toList.contains '\x00' with
    | true => simp
    | false =>
      by_cases short : Text.nameSize p.text < pathLimit
      · simp [short, Nat.not_le.2 short]
      · simp [short, Nat.not_lt.1 short]

theorem locate_put (h : t.locate home p = .ok ⟨l, n⟩) (hn : n ≠ some .directory) :
    (t.put l (.file data)).locate home p = .ok ⟨l, some (.file data)⟩ := by
  obtain ⟨spelled, plain, short, walked⟩ := locate_eq_ok_iff.1 h
  have led := leads_of_walk walked hn
  refine locate_eq_ok_iff.2 ⟨spelled, plain, short, ?_⟩
  rw [(led.put data).walk_eq, node?_put_self t _ led.ne_nil]

theorem write_eq_ok (h : t.locate home p = .ok ⟨l, n⟩) (hn : n ≠ some .directory) :
    t.write home p data = .ok (t.put l (.file data)) := by
  unfold write
  rw [h]
  match n, hn with
  | none, _ => rfl
  | some (.file _), _ => rfl
  | some .directory, hn => exact (hn rfl).elim

theorem read_of_locate (h : t.locate home p = .ok ⟨l, some (.file data)⟩) :
    t.read home p = .ok data := by
  rw [read, h]

/-- A file can be read. -/
theorem exists_read_of_isFile (h : t.isFile home p = .ok true) :
    ∃ data, t.read home p = .ok data := by
  unfold isFile asks at h
  split at h
  · next l node located =>
    cases node with
    | file data => exact ⟨data, read_of_locate located⟩
    | directory => cases h
  all_goals cases h

/-- **What was written is read.** -/
theorem read_of_write {t' : FileTree} (h : t.write home p data = .ok t') :
    t'.read home p = .ok data := by
  unfold write at h
  split at h
  · cases h
  · next l n other located =>
    obtain rfl := Except.ok.inj h
    exact read_of_locate (locate_put located other)
  · cases h

/-- A file can be written at a path: its directory is there or can be made, and the path then leads
to no directory. -/
def CanWrite (t : FileTree) (home : Location) (p : Path) : Prop :=
  ∃ made l n, t.makeDirectories home p.parent = (made, none) ∧
    made.locate home p = .ok ⟨l, n⟩ ∧ n ≠ some .directory

theorem makeDirectories_of_directory (h : t.locate home p = .ok ⟨l, some .directory⟩) :
    t.makeDirectories home p = (t, none) := by
  have occupied : t.makeDirectory home p = .error .occupied := by rw [makeDirectory, h]
  have there : t.isDirectory home p = .ok true := by rw [isDirectory, asks, h]
  have excused : t.unlessDirectory home p .occupied = none := by
    simp [unlessDirectory, FileFault.isOfPath, there]
  rw [makeDirectories, occupied]
  dsimp only
  rw [excused]

/-- Where its directory is there, a file can be written. -/
theorem canWrite_of_directory {dir : Location}
    (there : t.locate home p.parent = .ok ⟨dir, some .directory⟩)
    (h : t.locate home p = .ok ⟨l, n⟩) (hn : n ≠ some .directory) : t.CanWrite home p :=
  ⟨t, l, n, makeDirectories_of_directory there, h, hn⟩

end

end FileTree

/-! ## Writing a text -/

namespace Machine

variable {m : Machine} {p : Path} {text : String}

/-- **A text with bytes is written where a file can be**, and then read there. -/
theorem writeText_ok {data : ByteArray} (h : m.tree.CanWrite m.home p)
    (hb : Text.bytes? text = some data) :
    ∃ tree, Job.writeText p text m = (.ok (), { m with tree }) ∧
      tree.read m.home p = .ok data := by
  obtain ⟨made, l, n, hmade, located, hn⟩ := h
  have written : made.write m.home p data = .ok (made.put l (.file data)) :=
    FileTree.write_eq_ok located hn
  refine ⟨_, ?_, FileTree.read_of_write written⟩
  have first : Job.makeDirectories p.parent m = (.ok (), { m with tree := made }) := by
    rw [Job.makeDirectories, hmade]
  rw [Job.writeText, hb]
  dsimp only
  rw [Job.bind_ok first, Job.change]
  dsimp only
  rw [written]

/-- **A text that was written is read from its file.** -/
theorem read_of_writeText {m' : Machine} (h : Job.writeText p text m = (.ok (), m')) :
    ∃ data, Text.bytes? text = some data ∧ m'.tree.read m'.home p = .ok data := by
  unfold Job.writeText at h
  cases bytes : Text.bytes? text with
  | none => rw [bytes] at h; cases h
  | some data =>
    rw [bytes] at h
    obtain ⟨_, m₁, -, written⟩ := Job.bind_eq_ok_iff.1 h
    unfold Job.change at written
    split at written
    · next tree wrote =>
      obtain ⟨-, rfl⟩ := Prod.mk.inj written
      exact ⟨data, rfl, FileTree.read_of_write wrote⟩
    · cases written

/-- **A text without bytes is refused**, and nothing is touched. -/
theorem writeText_unwritable (hb : Text.bytes? text = none) :
    Job.writeText p text m = (.error .unwritable, m) := by
  rw [Job.writeText, hb]
  rfl

end Machine

end ProofGrading
