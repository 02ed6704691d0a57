import Mathlib.Data.List.Induction
import ProofGrading.Proofs.FileWriting

/-!
# Proofs/SoundTree — where files stand and where paths lead

In a **sound** tree whatever stands somewhere stands in a directory, and aliases lead to
directories.  A path leads to a place whether or not anything stands there (`IsPlace`), and that is
a matter of aliases alone (`isPlace_congr`).  As long as no directory is lost, what is found at a
path is found there later (`locate_of_kept`), and making directories adds to what is there
(`keeps_makeDirectories`).
-/

namespace ProofGrading

namespace FileTree

variable {t t' t'' : FileTree} {home dir l : Location} {name : String} {names : List String}
  {p : Path} {n : Option Node} {data : ByteArray}

/-! ## Sound trees -/

/-- **A tree is sound**: what stands somewhere stands in a directory, and aliases lead to
directories. -/
structure IsSound (t : FileTree) : Prop where
  inDirectory : ∀ dir name, t.node? (dir ++ [name]) ≠ none → t.node? dir = some .directory
  aliased : ∀ a ∈ t.aliases, t.node? a.2 = some .directory

theorem mem_keys_of_node? (there : t.node? l ≠ none) (ne : l ≠ []) :
    l ∈ t.nodes.map (·.1) := by
  rw [node?, if_neg ne, Ne, Option.map_eq_none_iff, List.find?_eq_none] at there
  by_contra absent
  exact there fun e among same => absent (List.mem_map.2 ⟨e, among, beq_iff_eq.1 same⟩)

/-- What is listed stands somewhere. -/
theorem node?_ne_none_of_mem (among : l ∈ t.nodes.map (·.1)) : t.node? l ≠ none := by
  unfold node?
  split
  · exact Option.some_ne_none _
  · obtain ⟨e, among, same⟩ := List.mem_map.1 among
    rw [Ne, Option.map_eq_none_iff, List.find?_eq_none]
    exact fun absent => absent e among (beq_iff_eq.2 same)

/-- A tree is sound when every node that it lists stands in a directory. -/
theorem isSound_of_nodes (nodes : ∀ e ∈ t.nodes, t.node? e.1.dropLast = some .directory)
    (aliased : ∀ a ∈ t.aliases, t.node? a.2 = some .directory) : t.IsSound := by
  refine ⟨fun dir name there => ?_, aliased⟩
  have some_name : dir ++ [name] ≠ [] := List.append_ne_nil_of_right_ne_nil _ (List.cons_ne_nil _ _)
  obtain ⟨e, among, same⟩ := List.mem_map.1 (mem_keys_of_node? there some_name)
  have parent := nodes e among
  rwa [same, List.dropLast_concat] at parent

theorem IsSound.directory_dropLast (h : t.IsSound) (there : t.node? l = some .directory) :
    t.node? l.dropLast = some .directory := by
  rcases List.eq_nil_or_concat l with rfl | ⟨dir, name, rfl⟩
  · exact there
  · rw [List.concat_eq_append, List.dropLast_concat] at *
    refine h.inDirectory dir name ?_
    rw [there]
    exact Option.some_ne_none _

/-- Nothing stands below what is no directory. -/
theorem IsSound.eq_none_of_prefix (h : t.IsSound) (no_directory : t.node? dir ≠ some .directory)
    (below : dir <+: l) (ne : dir ≠ l) : t.node? l = none := by
  obtain ⟨rest, rfl⟩ := below
  have some_rest : rest ≠ [] := by
    rintro rfl
    exact ne (List.append_nil dir).symm
  clear ne
  induction rest using List.reverseRecOn with
  | nil => exact absurd rfl some_rest
  | append_singleton rest name ih =>
    rw [← List.append_assoc]
    refine Option.not_isSome_iff_eq_none.1 fun there => ?_
    have parent := h.inDirectory _ _ (Option.isSome_iff_ne_none.1 there)
    cases rest with
    | nil => exact no_directory (by rwa [List.append_nil] at parent)
    | cons x rest =>
      rw [ih (List.cons_ne_nil x rest)] at parent
      cases parent

/-- A place for a node: in a directory, and no directory itself. -/
def HasRoom (t : FileTree) (l : Location) : Prop :=
  ∃ dir name, l = dir ++ [name] ∧ t.node? dir = some .directory ∧ t.node? l ≠ some .directory

theorem HasRoom.ne_nil (h : t.HasRoom l) : l ≠ [] := by
  obtain ⟨dir, name, rfl, -, -⟩ := h
  exact List.append_ne_nil_of_right_ne_nil _ (List.cons_ne_nil _ _)

theorem IsSound.put (h : t.IsSound) (room : t.HasRoom l) (node : Node) :
    (t.put l node).IsSound := by
  have l_ne_nil := room.ne_nil
  obtain ⟨parent, own, rfl, in_parent, free⟩ := room
  have stays : ∀ k, t.node? k = some .directory →
      (t.put (parent ++ [own]) node).node? k = some .directory := by
    intro k directory
    have other : k ≠ parent ++ [own] := by
      rintro rfl
      exact free directory
    rwa [node?_put_ne t node other]
  refine ⟨fun dir name there => ?_, fun a ha => stays _ (h.aliased a ha)⟩
  by_cases same : dir ++ [name] = parent ++ [own]
  · obtain ⟨rfl, -⟩ := List.append_inj' same rfl
    exact stays dir in_parent
  · rw [node?_put_ne t node same] at there
    exact stays dir (h.inDirectory dir name there)

/-- A name that leads to no directory is no alias. -/
theorem IsSound.step_eq (h : t.IsSound) (free : t.node? (t.step dir name) ≠ some .directory) :
    t.step dir name = dir ++ [name] := by
  unfold step at free ⊢
  dsimp only at free ⊢
  split
  · next a found =>
    rw [found] at free
    exact absurd (h.aliased a (List.mem_of_find?_eq_some found)) free
  · rfl

/-- Where names lead that lead to no directory, there is room. -/
theorem Leads.hasRoom (h : Leads t dir names l) (sound : t.IsSound)
    (start : t.node? dir = some .directory) : t.HasRoom l := by
  induction h with
  | up _ ih => exact ih (sound.directory_dropLast start)
  | down _ _ directory _ ih => exact ih directory
  | @last dir name _ _ free => exact ⟨dir, name, sound.step_eq free, start, free⟩

theorem directory_start (there : t.node? home = some .directory) (p : Path) :
    t.node? (if p.isAbsolute then [] else home) = some .directory := by
  split
  · rfl
  · exact there

theorem node?_of_locate (h : t.locate home p = .ok ⟨l, n⟩) (hn : n ≠ some .directory) :
    t.node? l = n := by
  obtain ⟨-, -, -, walked⟩ := locate_eq_ok_iff.1 h
  have spot := (leads_of_walk walked hn).walk_eq.symm.trans walked
  exact (Spot.mk.inj (Except.ok.inj spot)).2

theorem IsSound.hasRoom_of_locate (sound : t.IsSound) (there : t.node? home = some .directory)
    (h : t.locate home p = .ok ⟨l, n⟩) (hn : n ≠ some .directory) : t.HasRoom l := by
  obtain ⟨-, -, -, walked⟩ := locate_eq_ok_iff.1 h
  exact (leads_of_walk walked hn).hasRoom sound (directory_start there p)

/-- A directory that is found stands where it is found. -/
theorem IsSound.directory_of_walk (sound : t.IsSound) (start : t.node? dir = some .directory)
    (h : t.walk dir names = .ok ⟨l, some .directory⟩) : t.node? l = some .directory := by
  induction names generalizing dir with
  | nil =>
    cases h
    exact start
  | cons name rest ih =>
    rw [walk] at h
    split at h
    · exact ih (sound.directory_dropLast start) h
    · split at h
      · cases h
      · dsimp only at h
        split at h
        · next directory => exact ih directory h
        · next not_directory =>
          obtain ⟨-, directory⟩ := Spot.mk.inj (Except.ok.inj h)
          exact absurd directory not_directory
        · cases h
        · cases h

theorem IsSound.directory_of_locate (sound : t.IsSound) (there : t.node? home = some .directory)
    (h : t.locate home p = .ok ⟨l, some .directory⟩) : t.node? l = some .directory := by
  obtain ⟨-, -, -, walked⟩ := locate_eq_ok_iff.1 h
  exact sound.directory_of_walk (directory_start there p) walked

/-! ## Places -/

/-- **A path leads to a place**, whether or not anything stands there. -/
def IsPlace (t : FileTree) (home : Location) (p : Path) (l : Location) : Prop :=
  t.resolve home p = .ok ⟨.single, l⟩

theorem IsPlace.unique {l' : Location} (h : t.IsPlace home p l) (h' : t.IsPlace home p l') :
    l = l' :=
  (Path.mk.inj (Except.ok.inj (h.symm.trans h'))).2

/-- The place that a path leads to is where its names lead, from the root or from the working
directory. -/
theorem IsPlace.resolveNames_eq (h : t.IsPlace home p l) :
    t.resolveNames (if p.isAbsolute then [] else home) p.names = l := by
  unfold IsPlace resolve at h
  split at h
  · cases h
  · exact (Path.mk.inj (Except.ok.inj h)).2

theorem resolveNames_congr (same : t'.aliases = t.aliases) (dir : Location) (names : List String) :
    t'.resolveNames dir names = t.resolveNames dir names := by
  induction names generalizing dir with
  | nil => rfl
  | cons name rest ih =>
    have step_eq : t'.step dir name = t.step dir name := by rw [step, step, same]
    rw [resolveNames, resolveNames, step_eq, ih, ih]

theorem resolveNames_append (t : FileTree) (dir : Location) (names rest : List String) :
    t.resolveNames dir (names ++ rest) = t.resolveNames (t.resolveNames dir names) rest := by
  induction names generalizing dir with
  | nil => rfl
  | cons name names ih =>
    rw [List.cons_append, resolveNames, resolveNames]
    split <;> exact ih _

theorem step_of_plain (plain : ∀ a ∈ t.aliases, a.1 ≠ dir ++ [name]) :
    t.step dir name = dir ++ [name] := by
  have none_found : t.aliases.find? (·.1 == dir ++ [name]) = none :=
    List.find?_eq_none.2 fun a ha same => plain a ha (beq_iff_eq.1 same)
  rw [step, none_found]

/-- **No alias stands in a directory**, at any depth. -/
def IsUnaliased (t : FileTree) (dir : Location) : Prop :=
  ∀ a ∈ t.aliases, ∀ rest, a.1 = dir ++ rest → rest = []

/-- **Names that do not lead up lead where they say**, in a directory without aliases. -/
theorem IsUnaliased.resolveNames_eq (plain : t.IsUnaliased dir) (proper : ".." ∉ names) :
    t.resolveNames dir names = dir ++ names := by
  induction names generalizing dir with
  | nil => exact (List.append_nil _).symm
  | cons name rest ih =>
    obtain ⟨other, proper⟩ := not_or.1 (mt List.mem_cons.2 proper)
    have no_alias : ∀ a ∈ t.aliases, ∀ rest, a.1 ≠ dir ++ [name] ++ rest := by
      intro a among rest same
      rw [List.append_assoc] at same
      exact absurd (plain a among _ same) (by simp)
    have steps : t.step dir name = dir ++ [name] :=
      step_of_plain fun a among same => no_alias a among [] (same.trans (List.append_nil _).symm)
    rw [resolveNames, if_neg (Ne.symm other), steps,
      ih (fun a among rest same => absurd same (no_alias a among rest)) proper, List.append_assoc,
      List.singleton_append]

/-- Where a path leads is a matter of aliases. -/
theorem isPlace_congr (same : t'.aliases = t.aliases) :
    t'.IsPlace home p l ↔ t.IsPlace home p l := by
  rw [IsPlace, IsPlace, resolve, resolve]
  simp only [resolveNames_congr same]

theorem nameFault?_eq_none_iff : nameFault? name = none ↔
    Text.isFileName name = true ∧ name.toList.contains '\x00' = false := by
  unfold nameFault?
  cases Text.isFileName name <;> cases name.toList.contains '\x00' <;> simp

theorem resolveNames_of_walk (h : t.walk dir names = .ok ⟨l, n⟩) :
    t.resolveNames dir names = l := by
  induction names generalizing dir with
  | nil =>
    cases h
    rfl
  | cons name rest ih =>
    rw [walk] at h
    rw [resolveNames]
    split at h
    · next up => rw [if_pos up]; exact ih h
    · next proper =>
      rw [if_neg proper]
      split at h
      · cases h
      · dsimp only at h
        split at h
        · exact ih h
        · obtain ⟨hl, -⟩ := Spot.mk.inj (Except.ok.inj h)
          exact hl
        · cases h
        · cases h

/-- A path that leads anywhere has names that files can have. -/
theorem possible_of_locate (h : t.locate home p = .ok ⟨l, n⟩) :
    p.names.findSome? nameFault? = none := by
  obtain ⟨spelled, plain, -, -⟩ := locate_eq_ok_iff.1 h
  rw [List.findSome?_eq_none_iff]
  intro name among
  exact nameFault?_eq_none_iff.2 ⟨List.all_eq_true.1 spelled name among,
    Bool.not_eq_true _ ▸ List.any_eq_false.1 plain name among⟩

/-- What is found at a path stands at its place. -/
theorem isPlace_of_locate (h : t.locate home p = .ok ⟨l, n⟩) : t.IsPlace home p l := by
  obtain ⟨-, -, -, walked⟩ := locate_eq_ok_iff.1 h
  rw [IsPlace, resolve, possible_of_locate h, resolveNames_of_walk walked]

theorem walk_append {rest : List String} (h : t.walk dir names = .ok ⟨l, some .directory⟩) :
    t.walk dir (names ++ rest) = t.walk l rest := by
  induction names generalizing dir with
  | nil =>
    obtain ⟨rfl, -⟩ := Spot.mk.inj (Except.ok.inj h)
    rfl
  | cons name more ih =>
    rw [walk] at h
    rw [List.cons_append, walk]
    split at h
    · next up => rw [if_pos up]; exact ih h
    · next proper =>
      rw [if_neg proper]
      split at h
      · cases h
      · next fits =>
        rw [if_neg fits]
        dsimp only at h ⊢
        split at h
        · next directory =>
          rw [directory]
          exact ih h
        · next not_directory =>
          obtain ⟨-, directory⟩ := Spot.mk.inj (Except.ok.inj h)
          exact absurd directory not_directory
        · cases h
        · cases h

/-- A name seen from a directory leads to what stands there. -/
theorem walk_single (t : FileTree) (dir : Location) (proper : name ≠ "..")
    (fits : Text.nameSize name ≤ nameLimit) :
    t.walk dir [name] = .ok ⟨t.step dir name, t.node? (t.step dir name)⟩ := by
  rw [walk, if_neg proper, if_neg (Nat.not_lt.2 fits)]
  dsimp only
  split
  · next directory => rw [walk, directory]
  · rfl
  · next h => cases h
  · next h => cases h

/-- **A name that is too long leads nowhere**, seen from a directory. -/
theorem locate_of_long (directory : t.locate home p = .ok ⟨l, some .directory⟩)
    (possible : nameFault? name = none) (long : nameLimit < Text.nameSize name) :
    t.locate home ⟨p.root, p.names ++ [name]⟩ = .error .nameTooLong := by
  obtain ⟨spelled, plain, -, walked⟩ := locate_eq_ok_iff.1 directory
  obtain ⟨spelled_name, plain_name⟩ := nameFault?_eq_none_iff.1 possible
  have proper : name ≠ ".." := by
    rintro rfl
    exact absurd long (by decide)
  have too_long : t.walk l [name] = .error .nameTooLong := by rw [walk, if_neg proper, if_pos long]
  have spelled_all : (p.names ++ [name]).all Text.isFileName = true := by
    rw [List.all_append, spelled, List.all_cons, spelled_name]
    rfl
  have plain_all : ((p.names ++ [name]).any fun n => n.toList.contains '\x00') = false := by
    rw [List.any_append, plain, List.any_cons, plain_name]
    rfl
  simp only [locate, spelled_all, plain_all, Bool.not_true, Bool.false_eq_true, if_false]
  split
  · rfl
  · exact (walk_append walked).trans too_long

/-- What is read is a file. -/
theorem locate_of_read (h : t.read home p = .ok data) :
    ∃ l, t.locate home p = .ok ⟨l, some (.file data)⟩ := by
  unfold read at h
  split at h
  · next located =>
    cases h
    exact ⟨_, located⟩
  all_goals cases h

theorem isThere_of_locate {node : Node} (h : t.locate home p = .ok ⟨l, some node⟩) :
    t.isThere home p = .ok true := by rw [isThere, asks, h]

/-- What is there is found. -/
theorem exists_locate_of_isThere (h : t.isThere home p = .ok true) :
    ∃ l node, t.locate home p = .ok ⟨l, some node⟩ := by
  unfold isThere asks at h
  split at h
  · next l node located => exact ⟨l, node, located⟩
  all_goals cases h

/-- What is read is there. -/
theorem isThere_of_read (h : t.read home p = .ok data) : t.isThere home p = .ok true :=
  let ⟨_, located⟩ := locate_of_read h
  isThere_of_locate located

/-! ## What is kept -/

/-- Names lead where they led, as long as no directory is lost and none comes in the way. -/
theorem Leads.of_kept (h : Leads t dir names l) (aliases : t'.aliases = t.aliases)
    (kept : ∀ k, t.node? k = some .directory → t'.node? k = some .directory)
    (free : t'.node? l ≠ some .directory) : Leads t' dir names l := by
  have step_eq : ∀ dir name, t'.step dir name = t.step dir name := by
    intro dir name
    rw [step, step, aliases]
  induction h with
  | up _ ih => exact .up (ih free)
  | down proper fits directory _ ih =>
    refine .down proper fits ?_ ?_
    · rw [step_eq]
      exact kept _ directory
    · rw [step_eq]
      exact ih free
  | @last dir name proper fits _ =>
    rw [← step_eq] at free ⊢
    exact .last proper fits free

/-- What leads to a directory still does, as long as no directory is lost. -/
theorem walk_directory_of_kept (aliases : t'.aliases = t.aliases)
    (kept : ∀ k, t.node? k = some .directory → t'.node? k = some .directory)
    (walked : t.walk dir names = .ok ⟨l, some .directory⟩) :
    t'.walk dir names = .ok ⟨l, some .directory⟩ := by
  induction names generalizing dir with
  | nil => exact walked
  | cons name rest ih =>
    have step_eq : t'.step dir name = t.step dir name := by rw [step, step, aliases]
    rw [walk] at walked ⊢
    split at walked
    · next up => rw [if_pos up]; exact ih walked
    · next proper =>
      rw [if_neg proper]
      split at walked
      · cases walked
      · next fits =>
        rw [if_neg fits]
        dsimp only at walked ⊢
        rw [step_eq]
        split at walked
        · next directory =>
          rw [kept _ directory]
          exact ih walked
        · next not_directory =>
          obtain ⟨-, directory⟩ := Spot.mk.inj (Except.ok.inj walked)
          exact absurd directory not_directory
        · cases walked
        · cases walked

theorem locate_directory_of_kept (aliases : t'.aliases = t.aliases)
    (kept : ∀ k, t.node? k = some .directory → t'.node? k = some .directory)
    (located : t.locate home p = .ok ⟨l, some .directory⟩) :
    t'.locate home p = .ok ⟨l, some .directory⟩ := by
  obtain ⟨spelled, plain, short, walked⟩ := locate_eq_ok_iff.1 located
  exact locate_eq_ok_iff.2 ⟨spelled, plain, short, walk_directory_of_kept aliases kept walked⟩

theorem locate_of_kept (aliases : t'.aliases = t.aliases)
    (kept : ∀ k, t.node? k = some .directory → t'.node? k = some .directory)
    (located : t.locate home p = .ok ⟨l, n⟩) (hn : n ≠ some .directory)
    (free : t'.node? l ≠ some .directory) : t'.locate home p = .ok ⟨l, t'.node? l⟩ := by
  obtain ⟨spelled, plain, short, walked⟩ := locate_eq_ok_iff.1 located
  exact locate_eq_ok_iff.2 ⟨spelled, plain, short,
    ((leads_of_walk walked hn).of_kept aliases kept free).walk_eq⟩

/-- **What stands somewhere stays**: things are only added. -/
structure Keeps (t t' : FileTree) : Prop where
  aliases : t'.aliases = t.aliases
  node : ∀ l n, t.node? l = some n → t'.node? l = some n

namespace Keeps

theorem refl (t : FileTree) : Keeps t t := ⟨rfl, fun _ _ => id⟩

theorem trans (h : Keeps t t') (h' : Keeps t' t'') : Keeps t t'' :=
  ⟨h'.aliases.trans h.aliases, fun l n => h'.node l n ∘ h.node l n⟩

theorem put (free : t.node? l = none) (node : Node) : Keeps t (t.put l node) := by
  refine ⟨rfl, fun k n there => ?_⟩
  have other : k ≠ l := by
    rintro rfl
    cases free.symm.trans there
  rwa [node?_put_ne t _ other]

/-- **A file is read as before.** -/
theorem read (h : Keeps t t') (h' : t.read home p = .ok data) : t'.read home p = .ok data := by
  obtain ⟨l, located⟩ := locate_of_read h'
  have there := h.node l _ (node?_of_locate located nofun)
  refine read_of_locate (there ▸ locate_of_kept h.aliases (fun k => h.node k _) located nofun ?_)
  rw [there]
  exact nofun

end Keeps

theorem keeps_makeDirectory (h : t.makeDirectory home p = .ok t') : Keeps t t' := by
  unfold makeDirectory at h
  split at h
  · next l located =>
    cases h
    exact .put (node?_of_locate located nofun) _
  · cases h
  · cases h

/-- What making one directory does, and what lasts, making several does. -/
theorem makeDirectories_of_step {R : FileTree → FileTree → Prop} (refl : ∀ t, R t t)
    (trans : ∀ {t t' t''}, R t t' → R t' t'' → R t t'')
    (step : ∀ {t t' p}, t.makeDirectory home p = .ok t' → R t t') (t : FileTree) (p : Path) :
    R t (t.makeDirectories home p).1 := by
  fun_induction makeDirectories t home p with
  | case1 p t' made => exact step made
  | case2 => exact refl t
  | case3 p _ _ t' e parents ih =>
    rw [parents] at ih
    exact ih
  | case4 p _ _ t' parents t'' made ih =>
    rw [parents] at ih
    exact trans ih (step made)
  | case5 p _ _ t' parents _ ih =>
    rw [parents] at ih
    exact ih
  | case6 p _ _ t' parents _ _ _ ih =>
    rw [parents] at ih
    exact ih
  | case7 => exact refl t

/-- Making directories adds to what is there. -/
theorem keeps_makeDirectories (t : FileTree) (home : Location) (p : Path) :
    Keeps t (t.makeDirectories home p).1 :=
  makeDirectories_of_step Keeps.refl Keeps.trans keeps_makeDirectory t p

end FileTree

end ProofGrading
