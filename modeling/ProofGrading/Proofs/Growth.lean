import Mathlib.Data.List.Nodup
import Mathlib.Data.List.Perm.Subperm
import ProofGrading.Proofs.SoundTree

/-!
# Proofs/Growth — what the operations on files leave as it is

A tree **grows** within a scope when no directory or file is lost, files are put only where the
scope has them, and what is new is listed last (`Grows`); growth is reflexive and transitive, and
every operation on files is growth at the place that its path leads to (`grows_makeDirectories`,
`grows_write`, `grows_copy`).  Work in a directory that is new and removed afterwards is growth
outside of it (`Grows.prune`).
-/

namespace ProofGrading

namespace FileTree

variable {t t' t'' : FileTree} {home dir l : Location} {name : String} {names : List String}
  {p : Path} {n : Option Node} {data : ByteArray}

/-! ## Growth -/

/-- Where files may be put: the places, and what may stand there. -/
abbrev Scope : Type := Location → Option Node → Prop

namespace Scope

/-- All places. -/
def everywhere : Scope := fun _ _ => True

/-- Where a path leads, and if that is a directory, in it. -/
def path (t : FileTree) (home : Location) (p : Path) : Scope := fun l _ =>
  t.IsPlace home p l ∨ ∃ dir name, l = dir ++ [name] ∧ t.IsPlace home p dir

/-- A scope, and all that is below a directory. -/
def orBelow (scope : Scope) (dir : Location) : Scope := fun l n => scope l n ∨ dir <+: l

end Scope

/-- **A tree grows within a scope**: no directory or file is lost, a file is changed only where the
scope has it, a file is new only at a place of the scope, and what is new is listed last. -/
structure Grows (scope : Scope) (t t' : FileTree) : Prop where
  aliases : t'.aliases = t.aliases
  sound : t.IsSound → t'.IsSound
  directory : ∀ l, t.node? l = some .directory → t'.node? l = some .directory
  file : ∀ l data, t.node? l = some (.file data) → ∃ data', t'.node? l = some (.file data')
  listed : ∃ new, t'.nodes.map (·.1) = t.nodes.map (·.1) ++ new ∧ ∀ k ∈ new, t.node? k = none
  kept : ∀ l data, ¬scope l (some (.file data)) → t.node? l = some (.file data) →
    t'.node? l = some (.file data)
  fresh : ∀ l data, (∀ n, ¬scope l n) → t'.node? l = some (.file data) →
    t.node? l = some (.file data)

namespace Grows

variable {scope scope' : Scope}

/-- Nothing stands later where nothing stood: what stood stays. -/
theorem eq_none (h : Grows scope t t') (gone : t'.node? l = none) : t.node? l = none := by
  rcases there : t.node? l with _ | _ | _
  · rfl
  · obtain ⟨_, kept⟩ := h.file l _ there
    cases gone.symm.trans kept
  · cases gone.symm.trans (h.directory l there)

theorem refl (t : FileTree) : Grows scope t t where
  aliases := rfl
  sound := id
  directory _ := id
  file _ data there := ⟨data, there⟩
  listed := ⟨[], (List.append_nil _).symm, nofun⟩
  kept _ _ _ := id
  fresh _ _ _ := id

theorem trans (h : Grows scope t t') (h' : Grows scope t' t'') : Grows scope t t'' where
  aliases := h'.aliases.trans h.aliases
  sound := h'.sound ∘ h.sound
  directory l there := h'.directory l (h.directory l there)
  file l data there := by
    obtain ⟨_, there⟩ := h.file l data there
    exact h'.file l _ there
  listed := by
    obtain ⟨new, keys, fresh⟩ := h.listed
    obtain ⟨new', keys', fresh'⟩ := h'.listed
    refine ⟨new ++ new', by rw [keys', keys, List.append_assoc], fun k among => ?_⟩
    obtain among | among := List.mem_append.1 among
    · exact fresh k among
    · exact h.eq_none (fresh' k among)
  kept l data out there := h'.kept l data out (h.kept l data out there)
  fresh l data out there := h.fresh l data out (h'.fresh l data out there)

theorem mono (h : Grows scope t t') (wider : ∀ l n, scope l n → scope' l n) :
    Grows scope' t t' where
  aliases := h.aliases
  sound := h.sound
  directory := h.directory
  file := h.file
  listed := h.listed
  kept l data out := h.kept l data fun within => out (wider _ _ within)
  fresh l data out := h.fresh l data fun n within => out n (wider _ _ within)

theorem everywhere (h : Grows scope t t') : Grows .everywhere t t' := h.mono fun _ _ _ => trivial

/-- What changed only within a scope grew within it. -/
theorem confine (h : Grows scope' t t')
    (only : ∀ l, t'.node? l ≠ t.node? l → ∀ n, scope l n) : Grows scope t t' where
  aliases := h.aliases
  sound := h.sound
  directory := h.directory
  file := h.file
  listed := h.listed
  kept l data out there := by
    rw [← there]
    exact Classical.not_not.1 fun changed => out (only l changed _)
  fresh l data out there := by
    rw [← there]
    exact Classical.not_not.1 fun changed => out none (only l (Ne.symm changed) none)

/-- What is put is listed where it stood, or last. -/
theorem listed_put (t : FileTree) (ne : l ≠ []) (node : Node) :
    ∃ new, (t.put l node).nodes.map (·.1) = t.nodes.map (·.1) ++ new ∧
      ∀ k ∈ new, k = l ∧ t.node? k = none := by
  have keys : ∀ nodes : List (Location × Node), (putNode nodes l node).map (·.1) =
      nodes.map (·.1) ++ if l ∈ nodes.map (·.1) then [] else [l] := by
    intro nodes
    induction nodes with
    | nil => rfl
    | cons e rest ih =>
      obtain ⟨k, n⟩ := e
      by_cases same : k = l
      · simp [putNode, same]
      · simp only [putNode, if_neg same, List.map_cons, ih, List.mem_cons, Ne.symm same, false_or,
          List.cons_append]
  refine ⟨_, keys t.nodes, fun k among => ?_⟩
  split at among
  · cases among
  · next absent =>
    obtain rfl := List.mem_singleton.1 among
    exact ⟨rfl, by_contra fun there => absent (mem_keys_of_node? there ne)⟩

/-- A file is put where there is room. -/
theorem put_file (room : t.HasRoom l) (within : scope l (t.node? l)) :
    Grows scope t (t.put l (.file data)) := by
  have free : t.node? l ≠ some .directory := room.choose_spec.choose_spec.2.2
  obtain ⟨new, keys, fresh⟩ := listed_put t room.ne_nil (.file data)
  refine ⟨rfl, fun sound => sound.put room _, fun k there => ?_, fun k old there => ?_,
    ⟨new, keys, fun k among => (fresh k among).2⟩, fun k old out there => ?_,
    fun k new out there => ?_⟩
  · have other : k ≠ l := by
      rintro rfl
      exact free there
    rwa [node?_put_ne t _ other]
  · by_cases same : k = l
    · subst same
      exact ⟨data, node?_put_self t _ room.ne_nil⟩
    · exact ⟨old, (node?_put_ne t _ same).trans there⟩
  · have other : k ≠ l := by
      rintro rfl
      exact out (there ▸ within)
    rwa [node?_put_ne t _ other]
  · have other : k ≠ l := by
      rintro rfl
      exact out _ within
    rwa [node?_put_ne t _ other] at there

/-- A directory is put where nothing stands. -/
theorem put_directory (room : t.HasRoom l) (free : t.node? l = none) :
    Grows scope t (t.put l .directory) := by
  have other : ∀ k node, t.node? k = some node → k ≠ l := by
    rintro k node there rfl
    cases free.symm.trans there
  obtain ⟨new, keys, fresh⟩ := listed_put t room.ne_nil .directory
  refine ⟨rfl, fun sound => sound.put room _, fun k there => ?_, fun k old there => ⟨old, ?_⟩,
    ⟨new, keys, fun k among => (fresh k among).2⟩, fun k old _ there => ?_,
    fun k new _ there => ?_⟩
  · rwa [node?_put_ne t _ (other k _ there)]
  · rwa [node?_put_ne t _ (other k _ there)]
  · rwa [node?_put_ne t _ (other k _ there)]
  · by_cases same : k = l
    · subst same
      rw [node?_put_self t _ room.ne_nil] at there
      cases there
    · rwa [node?_put_ne t _ same] at there

/-- What leads to a directory still does. -/
theorem walk_directory (h : Grows scope t t')
    (walked : t.walk dir names = .ok ⟨l, some .directory⟩) :
    t'.walk dir names = .ok ⟨l, some .directory⟩ :=
  walk_directory_of_kept h.aliases h.directory walked

theorem locate_directory (h : Grows scope t t')
    (located : t.locate home p = .ok ⟨l, some .directory⟩) :
    t'.locate home p = .ok ⟨l, some .directory⟩ :=
  locate_directory_of_kept h.aliases h.directory located

end Grows

/-! ## The operations -/

section

variable {scope : Scope}

theorem grows_makeDirectory (sound : t.IsSound) (there : t.node? home = some .directory)
    (h : t.makeDirectory home p = .ok t') : Grows scope t t' := by
  unfold makeDirectory at h
  split at h
  · next l located =>
    cases h
    have free : (none : Option Node) ≠ some .directory := nofun
    exact .put_directory (sound.hasRoom_of_locate there located free) (node?_of_locate located free)
  · cases h
  · cases h

/-- Making directories puts no file anywhere. -/
theorem grows_makeDirectories (sound : t.IsSound) (there : t.node? home = some .directory)
    (p : Path) : Grows scope t (t.makeDirectories home p).1 := by
  let R (t t' : FileTree) : Prop :=
    t.IsSound → t.node? home = some .directory → Grows scope t t'
  have lasts : R t (t.makeDirectories home p).1 := makeDirectories_of_step
    (fun t _ _ => .refl t)
    (fun h h' sound there =>
      (h sound there).trans (h' ((h sound there).sound sound) ((h sound there).directory _ there)))
    (fun made sound there => grows_makeDirectory sound there made) t p
  exact lasts sound there

/-- Names that lead to a new directory lead there. -/
theorem Leads.walk_put_directory (h : Leads t dir names l) (free : t.node? l = none) :
    (t.put l .directory).walk dir names = .ok ⟨l, some .directory⟩ := by
  have ne_nil := h.ne_nil
  induction h with
  | up _ ih => rw [walk, if_pos rfl, ih free ne_nil]
  | @down dir l name _ proper fits directory _ ih =>
    have other : t.step dir name ≠ l := by
      rintro rfl
      cases directory.symm.trans free
    rw [walk, if_neg proper, if_neg (Nat.not_lt.2 fits)]
    dsimp only
    rw [step_put, node?_put_ne t _ other, directory]
    exact ih free ne_nil
  | @last dir name proper fits _ =>
    rw [walk, if_neg proper, if_neg (Nat.not_lt.2 fits)]
    dsimp only
    rw [step_put, node?_put_self t _ ne_nil]
    rfl

theorem exists_of_isDirectory (h : t.isDirectory home p = .ok true) :
    ∃ dir, t.locate home p = .ok ⟨dir, some .directory⟩ := by
  unfold isDirectory asks at h
  split at h
  · next dir node located =>
    cases node with
    | directory => exact ⟨dir, located⟩
    | file => cases h
  all_goals cases h

theorem directory_of_makeDirectory (h : t.makeDirectory home p = .ok t') :
    ∃ dir, t'.locate home p = .ok ⟨dir, some .directory⟩ := by
  unfold makeDirectory at h
  split at h
  · next l located =>
    cases h
    have not_directory : (none : Option Node) ≠ some .directory := nofun
    have free := node?_of_locate located not_directory
    obtain ⟨spelled, plain, short, walked⟩ := locate_eq_ok_iff.1 located
    exact ⟨l, locate_eq_ok_iff.2 ⟨spelled, plain, short,
      (leads_of_walk walked not_directory).walk_put_directory free⟩⟩
  · cases h
  · cases h

theorem directory_of_unlessDirectory {e : FileFault} (h : t.unlessDirectory home p e = none) :
    ∃ dir, t.locate home p = .ok ⟨dir, some .directory⟩ := by
  unfold unlessDirectory at h
  split at h
  · cases h
  · split at h
    · next there => exact exists_of_isDirectory there
    · cases h
    · cases h

/-- **A directory that was made is there.** -/
theorem directory_of_makeDirectories (h : t.makeDirectories home p = (t', none)) :
    ∃ dir, t'.locate home p = .ok ⟨dir, some .directory⟩ := by
  rw [makeDirectories] at h
  split at h
  · next made =>
    cases h
    exact directory_of_makeDirectory made
  · split at h
    · cases h
    · split at h
      · cases h
      · split at h
        · next made =>
          cases h
          exact directory_of_makeDirectory made
        · cases h
        · obtain ⟨rfl, excused⟩ := Prod.mk.inj h
          exact directory_of_unlessDirectory excused
  · obtain ⟨rfl, excused⟩ := Prod.mk.inj h
    exact directory_of_unlessDirectory excused

theorem exists_of_write (h : t.write home p data = .ok t') :
    ∃ l n, t.locate home p = .ok ⟨l, n⟩ ∧ n ≠ some .directory ∧ t' = t.put l (.file data) := by
  unfold write at h
  split at h
  · cases h
  · next l n other located => exact ⟨l, n, located, other, (Except.ok.inj h).symm⟩
  · cases h

/-- Writing puts a file where the path leads. -/
theorem grows_write (sound : t.IsSound) (there : t.node? home = some .directory)
    (within : ∀ l n, t.locate home p = .ok ⟨l, n⟩ → scope l n)
    (h : t.write home p data = .ok t') : Grows scope t t' := by
  obtain ⟨l, n, located, other, rfl⟩ := exists_of_write h
  refine .put_file (sound.hasRoom_of_locate there located other) ?_
  rw [node?_of_locate located other]
  exact within l n located

/-- What is copied is written to the path, or into the directory that stands there. -/
theorem exists_of_copy {source target : Path} (h : t.copy home source target = .ok t') :
    ∃ target' data, t.read home source = .ok data ∧ t.write home target' data = .ok t' ∧
      (target' = target ∨ (∃ dir, t.locate home target = .ok ⟨dir, some .directory⟩) ∧
        target' = target.join ⟨.relative, [source.name].filter Path.saysSomething⟩) := by
  unfold copy at h
  extract_lets target' at h
  have target_eq : target' = target ∨ (∃ dir, t.locate home target = .ok ⟨dir, some .directory⟩) ∧
      target' = target.join ⟨.relative, [source.name].filter Path.saysSomething⟩ := by
    dsimp only [target']
    split
    · next directory => exact .inr ⟨exists_of_isDirectory directory, rfl⟩
    · exact .inl rfl
  split at h
  · cases h
  · split at h
    · cases h
    · split at h
      · next data read => exact ⟨target', data, read, h, target_eq⟩
      · cases h

theorem Leads.eq_of_single (h : Leads t dir [name] l) : l = t.step dir name := by
  cases h with
  | up rest => cases rest
  | down _ _ _ rest => cases rest
  | last => rfl

/-- Copying puts a file where the path leads, or into the directory that stands there. -/
theorem grows_copy {source target : Path} (sound : t.IsSound)
    (there : t.node? home = some .directory) (h : t.copy home source target = .ok t') :
    Grows (.path t home target) t t' := by
  obtain ⟨target', data, -, written, target_eq⟩ := exists_of_copy h
  refine grows_write sound there (fun l n located => ?_) written
  obtain ⟨l', n', located', other, -⟩ := exists_of_write written
  cases located'.symm.trans located
  rcases target_eq with rfl | ⟨⟨dir, directory⟩, rfl⟩
  · exact .inl (isPlace_of_locate located)
  · rw [Path.names_join _ rfl] at located
    obtain ⟨-, -, -, walked⟩ := locate_eq_ok_iff.1 located
    obtain ⟨-, -, -, to_dir⟩ := locate_eq_ok_iff.1 directory
    have leads : Leads t dir ([source.name].filter Path.saysSomething) l :=
      leads_of_walk ((walk_append to_dir).symm.trans walked) other
    by_cases named : Path.saysSomething source.name = true
    · rw [List.filter_cons_of_pos named] at leads
      refine .inr ⟨dir, source.name, ?_, isPlace_of_locate directory⟩
      have free := leads.free
      rw [leads.eq_of_single] at free ⊢
      exact sound.step_eq free
    · rw [List.filter_cons_of_neg named] at leads
      cases leads

/-! ## Temporary directories -/

/-- The names that are tried for a new directory. -/
def numbered (base : String) (n : Nat) : String := base ++ "-" ++ toString n

theorem numbered_ne_up (base : String) (n : Nat) : numbered base n ≠ ".." := by
  intro same
  have dash : '-' ∈ (numbered base n).toList := by
    simp [numbered]
  rw [same] at dash
  exact absurd dash (by decide)

theorem numbered_injective (base : String) : Function.Injective (numbered base) := by
  intro a b same
  have digits : Nat.toDigits 10 a = Nat.toDigits 10 b := by
    have texts := congrArg String.toList same
    simp only [numbered, String.toList_append] at texts
    simpa [toString] using List.append_cancel_left texts
  have read := congrArg (Nat.ofDigitChars 10 · 0) digits
  simpa [Nat.ofDigitChars_toDigits] using read

/-- **A free name is free**, and the first that is: of one more names than there are nodes, one
is. -/
theorem exists_freeName (t : FileTree) (dir : Location) (base : String) :
    ∃ n ≤ t.nodes.length, t.freeName dir base = numbered base n ∧
      t.node? (dir ++ [numbered base n]) = none ∧
      ∀ k < n, t.node? (dir ++ [numbered base k]) ≠ none := by
  let place (n : Nat) : Location := dir ++ [numbered base n]
  let free (n : Nat) : Bool := (t.node? (place n)).isNone
  have name_eq : t.freeName dir base =
      numbered base (((List.range (t.nodes.length + 1)).find? free).getD t.nodes.length) := rfl
  cases found : (List.range (t.nodes.length + 1)).find? free with
  | some n =>
    rw [found] at name_eq
    obtain ⟨isFree, among, first⟩ := List.find?_range_eq_some.1 found
    refine ⟨n, Nat.lt_succ_iff.1 (List.mem_range.1 among), name_eq,
      Option.isNone_iff_eq_none.1 isFree, fun k before none => ?_⟩
    have taken : free k = false := by simpa using first k before
    exact Bool.false_ne_true (taken.symm.trans (Option.isNone_iff_eq_none.2 none))
  | none =>
    have taken : (List.range (t.nodes.length + 1)).map place ⊆ t.nodes.map (·.1) := by
      intro l among
      obtain ⟨n, hn, rfl⟩ := List.mem_map.1 among
      refine mem_keys_of_node? (fun none => ?_) (List.append_ne_nil_of_right_ne_nil _
        (List.cons_ne_nil _ _))
      exact List.find?_eq_none.1 found n hn (Option.isNone_iff_eq_none.2 none)
    have injective : Function.Injective place := fun a b same =>
      numbered_injective base (List.singleton_inj.1 (List.append_cancel_left same))
    have short := ((List.nodup_range.map injective).subperm taken).length_le
    rw [List.length_map, List.length_range, List.length_map] at short
    exact absurd short (Nat.not_succ_le_self _)

/-- Where the same names are free, the same one is taken. -/
theorem freeName_congr {base : String} (same : ∀ n, t'.node? (dir ++ [numbered base n]) = none ↔
    t.node? (dir ++ [numbered base n]) = none) : t'.freeName dir base = t.freeName dir base := by
  obtain ⟨n, -, name_eq, free, first⟩ := t.exists_freeName dir base
  obtain ⟨n', -, name_eq', free', first'⟩ := t'.exists_freeName dir base
  have least : n = n' := by
    rcases Nat.lt_trichotomy n n' with before | same_n | after
    · exact absurd ((same n).2 free) (first' n before)
    · exact same_n
    · exact absurd ((same n').1 free') (first n' after)
  rw [name_eq, name_eq', least]

theorem node?_prune_of_below (below : dir <+: l) (ne : l ≠ []) : (t.prune dir).node? l = none := by
  rw [node?, if_neg ne, prune, List.find?_filter, Option.map_eq_none_iff, List.find?_eq_none]
  intro e _ found
  obtain ⟨other, same⟩ := of_decide_eq_true found
  rw [beq_iff_eq.1 same, List.isPrefixOf_iff_prefix.2 below] at other
  cases other

theorem node?_prune_of_not_below (aside : ¬dir <+: l) : (t.prune dir).node? l = t.node? l := by
  rw [node?, node?, prune, List.find?_filter]
  congr 3
  funext e
  by_cases same : e.1 = l
  · have : dir.isPrefixOf l = false := by
      rw [← Bool.not_eq_true, List.isPrefixOf_iff_prefix]
      exact aside
    simp [this, same]
  · simp [same]

/-- Without what is below a directory, what else was listed is still listed in its order. -/
theorem listed_prune {old below new : List Location}
    (keys : t.nodes.map (·.1) = old ++ below ++ new)
    (aside : ∀ k ∈ old, ¬dir <+: k) (in_dir : ∀ k ∈ below, dir <+: k) :
    (t.prune dir).nodes.map (·.1) = old ++ new.filter (!dir.isPrefixOf ·) := by
  have kept_iff : ∀ k, (!dir.isPrefixOf k) = true ↔ ¬dir <+: k := fun k => by
    rw [Bool.not_eq_true', ← Bool.not_eq_true, List.isPrefixOf_iff_prefix]
  have stays : old.filter (!dir.isPrefixOf ·) = old :=
    List.filter_eq_self.2 fun k among => (kept_iff k).2 (aside k among)
  have goes : below.filter (!dir.isPrefixOf ·) = [] :=
    List.filter_eq_nil_iff.2 fun k among kept => (kept_iff k).1 kept (in_dir k among)
  change (t.nodes.filter ((!dir.isPrefixOf ·) ∘ (·.1))).map (·.1) = _
  rw [← List.filter_map, keys, List.filter_append, List.filter_append, stays, goes, List.append_nil]

/-- **Work in a directory that is new and then removed** is growth outside of it. -/
theorem Grows.prune (sound : t.IsSound) (room : t.HasRoom dir) (free : t.node? dir = none)
    (work : Grows (scope.orBelow dir) (t.put dir .directory) t') :
    Grows scope t (t'.prune dir) := by
  -- nothing stands below a directory that is new
  have aside : ∀ k, t.node? k ≠ none → ¬dir <+: k := by
    intro k there below
    have no_directory : t.node? dir ≠ some .directory := free ▸ nofun
    by_cases same : dir = k
    · exact there (same ▸ free)
    · exact there (sound.eq_none_of_prefix no_directory below same)
  have stays : ∀ k node, t.node? k = some node → (t.put dir .directory).node? k = some node := by
    intro k node there
    have other : k ≠ dir := by
      rintro rfl
      cases free.symm.trans there
    rwa [node?_put_ne t _ other]
  have some_of : ∀ {k node}, t.node? k = some node → t.node? k ≠ none :=
    fun there => there ▸ Option.some_ne_none _
  have directory : ∀ k, t.node? k = some .directory → (t'.prune dir).node? k = some .directory := by
    intro k there
    rw [node?_prune_of_not_below (aside k (some_of there))]
    exact work.directory k (stays k _ there)
  refine ⟨work.aliases, fun _ => ⟨fun parent name there => ?_, fun a ha => ?_⟩, directory,
    fun k data there => ?_, ?_, fun k data out there => ?_, fun k data out there => ?_⟩
  · have not_below : ¬dir <+: parent ++ [name] :=
      fun below => there (node?_prune_of_below below (List.append_ne_nil_of_right_ne_nil _
        (List.cons_ne_nil _ _)))
    rw [node?_prune_of_not_below not_below] at there
    rw [node?_prune_of_not_below fun below => not_below (below.trans (List.prefix_append _ _))]
    exact (work.sound (sound.put room _)).inDirectory parent name there
  · exact directory _ (sound.aliased a (work.aliases ▸ ha))
  · rw [node?_prune_of_not_below (aside k (some_of there))]
    exact work.file k data (stays k _ there)
  · -- what was listed is not below the directory, and that is listed after it
    obtain ⟨put, put_keys, at_dir⟩ := Grows.listed_put t room.ne_nil .directory
    obtain ⟨new, keys, fresh⟩ := work.listed
    refine ⟨new.filter (!dir.isPrefixOf ·), ?_, fun k among => ?_⟩
    · rw [put_keys] at keys
      refine listed_prune keys (fun k among => aside k (node?_ne_none_of_mem among)) ?_
      exact fun k among => (at_dir k among).1 ▸ List.prefix_refl dir
    · have free := fresh k (List.mem_filter.1 among).1
      refine by_contra fun there => ?_
      obtain ⟨node, there⟩ := Option.ne_none_iff_exists'.1 there
      cases free.symm.trans (stays k node there)
  · have k_aside := aside k (some_of there)
    rw [node?_prune_of_not_below k_aside]
    exact work.kept k data (fun within => within.elim out k_aside) (stays k _ there)
  · have k_aside : ¬dir <+: k := by
      intro below
      rw [node?_prune_of_below below] at there
      · cases there
      · rintro rfl
        cases there
    rw [node?_prune_of_not_below k_aside] at there
    have new := work.fresh k data (fun n within => within.elim (out n) k_aside) there
    have other : k ≠ dir := by
      rintro rfl
      exact k_aside (List.prefix_refl k)
    rwa [node?_put_ne t _ other] at new

end

end FileTree

end ProofGrading
