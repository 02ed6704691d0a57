import ProofGrading.Proofs.Preparing

/-!
# Proofs/Tracking — working where the same was done before

Work that was done once is done again on the files that it left.  At every place the second tree has
what the first one has at that time, or already what the first one has in the end (`Tracks`).  The
kind of what stands somewhere lasts, and so the second tree is between the first one and its end;
this settles every operation: making directories (`Tracks.makeDirectories`), writing
(`Tracks.write`) and copying (`Tracks.copy`) end alike on both trees and leave trees that track
again.
-/

namespace ProofGrading

/-- **What stands somewhere lasts**: a directory stays one, and a file stays a file. -/
structure Lasts (n n' : Option Node) : Prop where
  directory : n = some .directory → n' = some .directory
  file : ∀ data, n = some (.file data) → ∃ data', n' = some (.file data')

namespace Lasts

variable {n n' n'' : Option Node}

theorem refl (n : Option Node) : Lasts n n := ⟨id, fun data there => ⟨data, there⟩⟩

theorem trans (h : Lasts n n') (h' : Lasts n' n'') : Lasts n n'' where
  directory := h'.directory ∘ h.directory
  file data there := by
    obtain ⟨_, there⟩ := h.file data there
    exact h'.file _ there

theorem of_none (n : Option Node) : Lasts none n where
  directory there := by cases there
  file _ there := by cases there

theorem eq_none (h : Lasts n n') (gone : n' = none) : n = none := by
  match n, h with
  | none, _ => rfl
  | some .directory, h => cases gone.symm.trans (h.directory rfl)
  | some (.file data), h =>
    obtain ⟨_, there⟩ := h.file data rfl
    cases gone.symm.trans there

end Lasts

namespace FileTree

variable {t t' t₁ last : FileTree} {home dir d l : Location} {name : String}
  {names : List String} {p : Path} {n : Option Node} {data : ByteArray} {scope scope' : Scope}

theorem Grows.lasts (h : Grows scope t t') (l : Location) : Lasts (t.node? l) (t'.node? l) :=
  ⟨h.directory l, h.file l⟩

theorem lasts_put (free : t.node? l = none) (node : Node) (k : Location) :
    Lasts (t.node? k) ((t.put l node).node? k) := by
  by_cases same : k = l
  · rw [same, free]
    exact .of_none _
  · rw [node?_put_ne t _ same]
    exact .refl _

theorem lasts_prepare (t : FileTree) (dir : Location) (names : List String) (l : Location) :
    Lasts (t.node? l) ((t.prepare dir names).1.node? l) := by
  fun_induction prepare t dir names with
  | case1 => exact .refl _
  | case2 t dir rest ih => exact ih
  | case3 => exact .refl _
  | case4 t dir name rest proper fits directory ih => exact ih
  | case5 t dir name rest proper fits free ih => exact (lasts_put free _ l).trans ih
  | case6 => exact .refl _

/-! ## On the way -/

/-- **A place is on the way of a path**: some of its first names lead there. -/
def OnWay (t : FileTree) (home : Location) (p : Path) (l : Location) : Prop :=
  ∃ front back, p.names = front ++ back ∧ l = t.resolveNames (start home p) front

theorem onWay_congr (aliases : t'.aliases = t.aliases) : t'.OnWay home p l ↔ t.OnWay home p l := by
  unfold OnWay
  simp only [resolveNames_congr aliases]

theorem walk_congr (aliases : t'.aliases = t.aliases) (same : ∀ front back, names = front ++ back →
      t'.node? (t.resolveNames dir front) = t.node? (t.resolveNames dir front)) :
    t'.walk dir names = t.walk dir names := by
  induction names generalizing dir with
  | nil => rfl
  | cons name rest ih =>
    have step_eq : t'.step dir name = t.step dir name := by rw [step, step, aliases]
    rw [walk, walk, step_eq]
    by_cases up : name = ".."
    · rw [if_pos up, if_pos up]
      refine ih fun front back split => ?_
      have at_front := same (name :: front) back (congrArg (name :: ·) split)
      rwa [resolveNames, if_pos up] at at_front
    · have at_next := same [name] rest rfl
      rw [resolveNames, if_neg up, resolveNames] at at_next
      have beyond : t'.walk (t.step dir name) rest = t.walk (t.step dir name) rest := by
        refine ih fun front back split => ?_
        have at_front := same (name :: front) back (congrArg (name :: ·) split)
        rwa [resolveNames, if_neg up] at at_front
      rw [if_neg up, if_neg up]
      dsimp only
      rw [at_next]
      rcases t.node? (t.step dir name) with _ | data | _
      · cases rest <;> rfl
      · cases rest <;> rfl
      · dsimp only
        rw [beyond]

theorem locate_of_walk_eq
    (walked : t'.walk (start home p) p.names = t.walk (start home p) p.names) :
    t'.locate home p = t.locate home p := by
  unfold start at walked
  rw [locate, locate, walked]

/-- **A path leads to the same** where all on its way is the same. -/
theorem locate_congr (aliases : t'.aliases = t.aliases)
    (same : ∀ l, t.OnWay home p l → t'.node? l = t.node? l) :
    t'.locate home p = t.locate home p :=
  locate_of_walk_eq (walk_congr aliases fun front back split => same _ ⟨front, back, split, rfl⟩)

/-- A path goes on in one way from a directory that is found in both trees. -/
theorem locate_append {rest : List String} (aliases : t'.aliases = t.aliases)
    (found : t.walk [] dir = .ok ⟨d, some .directory⟩)
    (found' : t'.walk [] dir = .ok ⟨d, some .directory⟩)
    (same : ∀ front back, rest = front ++ back →
      t'.node? (t.resolveNames d front) = t.node? (t.resolveNames d front)) :
    t'.locate home ⟨.single, dir ++ rest⟩ = t.locate home ⟨.single, dir ++ rest⟩ := by
  refine locate_of_walk_eq ?_
  change t'.walk [] (dir ++ rest) = t.walk [] (dir ++ rest)
  rw [walk_append found, walk_append found', walk_congr aliases same]

/-! ## Trees that track -/

/-- A place is in one of some directories. -/
def Inside (dirs : List Location) (l : Location) : Prop := ∃ d ∈ dirs, d <+: l

/-- **A tree heads for another one**: what stands in it, outside of some directories that go, lasts
there. -/
def Heads (last : FileTree) (dirs : List Location) (t : FileTree) : Prop :=
  ∀ l, ¬Inside dirs l → Lasts (t.node? l) (last.node? l)

/-- **A tree tracks another one**: what stands somewhere in it is the same, or, within a scope and
outside of some directories, it is what stands there in the end. -/
structure Tracks (last : FileTree) (dirs : List Location) (scope : Scope) (t t' : FileTree) :
    Prop where
  aliases : t'.aliases = t.aliases
  node : ∀ l, t'.node? l = t.node? l ∨
    ¬Inside dirs l ∧ scope l (t.node? l) ∧ t'.node? l = last.node? l

variable {dirs : List Location}

theorem Heads.of_lasts (h : Heads last dirs t') (lasts : ∀ l, Lasts (t.node? l) (t'.node? l)) :
    Heads last dirs t := fun l outside => (lasts l).trans (h l outside)

/-- A tree heads where it does without the directory that goes. -/
theorem Heads.of_prune (h : Heads last dirs (t.prune dir)) : Heads last (dir :: dirs) t := by
  intro l outside
  have aside : ¬dir <+: l := fun below => outside ⟨dir, List.mem_cons_self, below⟩
  have lasts := h l fun ⟨d, among, inside⟩ => outside ⟨d, List.mem_cons_of_mem dir among, inside⟩
  rwa [node?_prune_of_not_below aside] at lasts

namespace Tracks

theorem mono (h : Tracks last dirs scope t t') (wider : ∀ l n, scope l n → scope' l n) :
    Tracks last dirs scope' t t' :=
  ⟨h.aliases, fun l => (h.node l).imp_right fun ⟨outside, within, there⟩ =>
    ⟨outside, wider _ _ within, there⟩⟩

theorem step_eq (h : Tracks last dirs scope t t') (dir : Location) (name : String) :
    t'.step dir name = t.step dir name := by rw [step, step, h.aliases]

/-- What stands in the first tree lasts in the second. -/
theorem lasts (h : Tracks last dirs scope t t') (heads : Heads last dirs t) (l : Location) :
    Lasts (t.node? l) (t'.node? l) := by
  obtain same | ⟨outside, -, there⟩ := h.node l
  · exact same ▸ .refl _
  · exact there ▸ heads l outside

/-- A place that is no directory in the end is none in the second tree. -/
theorem ne_directory (h : Tracks last dirs scope t t') (other : t.node? l ≠ some .directory)
    (other_last : ¬Inside dirs l → last.node? l ≠ some .directory) :
    t'.node? l ≠ some .directory := by
  obtain same | ⟨outside, -, there⟩ := h.node l
  · exact same ▸ other
  · exact there ▸ other_last outside

/-- What is put in both trees is the same in both. -/
theorem put (h : Tracks last dirs scope t t') (ne : l ≠ []) (node : Node) :
    Tracks last dirs scope (t.put l node) (t'.put l node) := by
  refine ⟨h.aliases, fun k => ?_⟩
  by_cases same : k = l
  · rw [same, node?_put_self t _ ne, node?_put_self t' _ ne]
    exact .inl rfl
  · rw [node?_put_ne t _ same, node?_put_ne t' _ same]
    exact h.node k

/-- What is put in the first tree may stand in the second already. -/
theorem put_left (h : Tracks last dirs scope t t') (ne : l ≠ []) {node : Node}
    (there : t'.node? l = some node ∨
      ¬Inside dirs l ∧ scope l (some node) ∧ t'.node? l = last.node? l) :
    Tracks last dirs scope (t.put l node) t' := by
  refine ⟨h.aliases, fun k => ?_⟩
  by_cases same : k = l
  · rwa [same, node?_put_self t _ ne]
  · rw [node?_put_ne t _ same]
    exact h.node k

/-- A directory that is found in the first tree is found in the second. -/
theorem locate_directory (h : Tracks last dirs scope t t') (heads : Heads last dirs t)
    (located : t.locate home p = .ok ⟨l, some .directory⟩) :
    t'.locate home p = .ok ⟨l, some .directory⟩ :=
  locate_directory_of_kept h.aliases (fun k => (h.lasts heads k).directory) located

/-- Where nothing stands in the end as at first, nothing stands in either tree or in both. -/
theorem eq_none_iff (h : Tracks last dirs scope t t') (heads : Heads last dirs t)
    (spare : t.node? l = none → last.node? l = none) :
    t'.node? l = none ↔ t.node? l = none := by
  refine ⟨(h.lasts heads l).eq_none, fun free => ?_⟩
  obtain same | ⟨-, -, there⟩ := h.node l
  · exact same.trans free
  · exact there.trans (spare free)

/-! ### Temporary directories -/

/-- A temporary directory is made in both trees, and nothing stands in it. -/
theorem enter (h : Tracks last dirs scope t t') (sound : t.IsSound) (sound' : t'.IsSound)
    (ne : dir ≠ []) (free : t.node? dir = none) (free' : t'.node? dir = none) :
    Tracks last (dir :: dirs) scope (t.put dir .directory) (t'.put dir .directory) := by
  have nothing : ∀ {t : FileTree}, t.IsSound → t.node? dir = none → ∀ {l}, dir <+: l → dir ≠ l →
      (t.put dir .directory).node? l = none := by
    intro t sound free l below other
    rw [node?_put_ne t _ (Ne.symm other)]
    refine sound.eq_none_of_prefix (fun directory => ?_) below other
    cases free.symm.trans directory
  refine ⟨h.aliases, fun l => ?_⟩
  by_cases below : dir <+: l
  · by_cases same : dir = l
    · subst same
      rw [node?_put_self t _ ne, node?_put_self t' _ ne]
      exact .inl rfl
    · rw [nothing sound free below same, nothing sound' free' below same]
      exact .inl rfl
  · have other : l ≠ dir := fun same => below (same ▸ List.prefix_refl dir)
    rw [node?_put_ne t _ other, node?_put_ne t' _ other]
    refine (h.node l).imp_right fun ⟨outside, rest⟩ => ⟨?_, rest⟩
    rintro ⟨d, among, inside⟩
    obtain rfl | among := List.mem_cons.1 among
    · exact below inside
    · exact outside ⟨d, among, inside⟩

/-- A temporary directory is removed from both trees. -/
theorem leave (h : Tracks last (dir :: dirs) scope t t') (ne : dir ≠ []) :
    Tracks last dirs scope (t.prune dir) (t'.prune dir) := by
  refine ⟨h.aliases, fun l => ?_⟩
  by_cases below : dir <+: l
  · have some_name : l ≠ [] := fun empty => ne (List.prefix_nil.1 (empty ▸ below))
    rw [node?_prune_of_below below some_name, node?_prune_of_below below some_name]
    exact .inl rfl
  · rw [node?_prune_of_not_below below, node?_prune_of_not_below below]
    refine (h.node l).imp_right fun ⟨outside, rest⟩ => ⟨?_, rest⟩
    exact fun ⟨d, among, inside⟩ => outside ⟨d, List.mem_cons_of_mem dir among, inside⟩

/-! ### Making directories -/

/-- **Preparing ends alike.** -/
theorem prepare (h : Tracks last dirs scope t t')
    (heads : Heads last dirs (t.prepare dir names).1) :
    (t'.prepare dir names).2 = (t.prepare dir names).2 ∧
      Tracks last dirs scope (t.prepare dir names).1 (t'.prepare dir names).1 := by
  induction names generalizing t t' dir with
  | nil => exact ⟨rfl, h⟩
  | cons name rest ih =>
    have lasts := h.lasts (heads.of_lasts (lasts_prepare t dir (name :: rest)))
      (t.step dir name)
    have step_eq := h.step_eq dir name
    by_cases up : name = ".."
    · rw [up, prepare_up] at heads ⊢
      rw [prepare_up]
      exact ih h heads
    by_cases long : nameLimit < Text.nameSize name
    · rw [prepare_long up long, prepare_long up long]
      exact ⟨rfl, h⟩
    have fits := Nat.not_lt.1 long
    rcases node : t.node? (t.step dir name) with _ | data | _
    · rw [prepare_none up fits node] at heads ⊢
      have ne : t.step dir name ≠ [] := fun root => by cases (root ▸ node)
      obtain same | ⟨outside, within, there⟩ := h.node (t.step dir name)
      · rw [prepare_none up fits (by rw [step_eq, same, node]), step_eq]
        exact ih (h.put ne .directory) heads
      · -- the first tree has the directory from now on, and so it is there in the end
        have put_lasts := lasts_prepare (t.put (t.step dir name) .directory) (t.step dir name) rest
        have directory : last.node? (t.step dir name) = some .directory :=
          (heads.of_lasts put_lasts _ outside).directory (node?_put_self t _ ne)
        rw [prepare_directory up fits (by rw [step_eq, there, directory]), step_eq]
        exact ih (h.put_left ne (.inl (there.trans directory))) heads
    · obtain ⟨_, file⟩ := lasts.file data node
      rw [FileTree.prepare_file up fits node,
        FileTree.prepare_file up fits (t := t') (by rw [step_eq, file])]
      exact ⟨rfl, h⟩
    · have directory := lasts.directory node
      rw [prepare_directory up fits node] at heads ⊢
      rw [prepare_directory up fits (by rw [step_eq, directory]), step_eq]
      exact ih h heads

/-- **Making directories ends alike.** -/
theorem makeDirectories (h : Tracks last dirs scope t t') (home : Location) (p : Path)
    (heads : Heads last dirs (t.makeDirectories home p).1) :
    ((t'.makeDirectories home p).2 = none ↔ (t.makeDirectories home p).2 = none) ∧
      Tracks last dirs scope (t.makeDirectories home p).1 (t'.makeDirectories home p).1 := by
  by_cases proper : p.IsProper
  · obtain ⟨same, ended⟩ := makeDirectories_eq_prepare t home proper
    obtain ⟨same', ended'⟩ := makeDirectories_eq_prepare t' home proper
    rw [same] at heads ⊢
    obtain ⟨alike, tracks⟩ := h.prepare heads
    rw [same', ended, ended', alike]
    exact ⟨Iff.rfl, tracks⟩
  · obtain ⟨same, failed⟩ := makeDirectories_of_not_isProper t home proper
    obtain ⟨same', failed'⟩ := makeDirectories_of_not_isProper t' home proper
    rw [same, same']
    exact ⟨iff_of_false failed' failed, h⟩

end Tracks

/-! ### Writing and copying -/

/-- **Two changes end alike**: both fail, or the trees that they leave track. -/
inductive Changes (last : FileTree) (dirs : List Location) (scope : Scope) :
    Except FileFault FileTree → Except FileFault FileTree → Prop
  | failed (e e' : FileFault) : Changes last dirs scope (.error e) (.error e')
  | done {t t' : FileTree} (tracks : Tracks last dirs scope t t') :
      Changes last dirs scope (.ok t) (.ok t')

/-- Where a copy goes: into a directory, or else to the path. -/
def destination (t : FileTree) (home : Location) (source target : Path) : Path :=
  match t.isDirectory home target with
  | .ok true => target.join ⟨.relative, [source.name].filter Path.saysSomething⟩
  | _ => target

theorem copy_eq (t : FileTree) (home : Location) (source target : Path) :
    t.copy home source target =
      if t.sameFile home source (t.destination home source target) then .error .sameFile
      else
        match (t.pathFault? home source).or
          (t.pathFault? home (t.destination home source target)) with
        | some e => .error e
        | none =>
          match t.read home source with
          | .ok data => t.write home (t.destination home source target) data
          | .error e => .error e := rfl

theorem destination_of_directory (source : Path) {target : Path}
    (h : t.locate home target = .ok ⟨l, some .directory⟩) : t.destination home source target =
      target.join ⟨.relative, [source.name].filter Path.saysSomething⟩ := by
  rw [destination, isDirectory, asks, h]

theorem destination_of_other (source : Path) {target : Path}
    (h : ∀ l, t.locate home target ≠ .ok ⟨l, some .directory⟩) :
    t.destination home source target = target := by
  unfold destination
  split
  · next directory =>
    obtain ⟨l, located⟩ := exists_of_isDirectory directory
    exact absurd located (h l)
  · rfl

theorem destination_of_place {source target : Path}
    (h : t.locate home target = .ok ⟨l, t.node? l⟩) (directory : t.node? l ≠ some .directory) :
    t.destination home source target = target :=
  destination_of_other source fun l' located => by
    obtain ⟨rfl, is_directory⟩ := Spot.mk.inj (Except.ok.inj (h.symm.trans located))
    exact directory is_directory

/-- A copy of what is no file fails. -/
theorem copy_of_read_error {source : Path} {e : FileFault}
    (h : t.read home source = .error e) (target : Path) :
    ∃ e, t.copy home source target = .error e := by
  rw [copy_eq, h]
  split
  · exact ⟨_, rfl⟩
  · split <;> exact ⟨_, rfl⟩

/-- A copy of a file to another place is written there. -/
theorem copy_of_located {source target : Path} {k : Location}
    (found : t.locate home source = .ok ⟨k, some (.file data)⟩)
    (located : t.locate home (t.destination home source target) = .ok ⟨l, n⟩) (other : k ≠ l) :
    t.copy home source target = t.write home (t.destination home source target) data := by
  have distinct : t.sameFile home source (t.destination home source target) = false := by
    rw [sameFile, found, located]
    cases n with
    | none => rfl
    | some node => exact beq_eq_false_iff_ne.2 other
  rw [copy_eq, distinct, pathFault?, found, pathFault?, located, read_of_locate found]
  rfl

/-- A copy to itself fails. -/
theorem copy_of_same {source target : Path} {node node' : Node}
    (found : t.locate home source = .ok ⟨l, some node⟩)
    (located : t.locate home (t.destination home source target) = .ok ⟨l, some node'⟩) :
    t.copy home source target = .error .sameFile := by
  have same : t.sameFile home source (t.destination home source target) = true := by
    rw [sameFile, found, located]
    exact beq_self_eq_true l
  rw [copy_eq, same, if_pos rfl]

/-- A copy to where nothing can be found fails. -/
theorem copy_of_located_error {source target : Path} {e : FileFault}
    (h : t.locate home (t.destination home source target) = .error e) :
    ∃ e, t.copy home source target = .error e := by
  have failed : ∀ data, t.write home (t.destination home source target) data = .error e :=
    fun data => by rw [write, h]
  rw [copy_eq]
  split
  · exact ⟨_, rfl⟩
  · split
    · exact ⟨_, rfl⟩
    · split
      · next data _ => exact ⟨e, failed data⟩
      · exact ⟨_, rfl⟩

namespace Tracks

/-- Where a file was copied to, no directory comes to stand. -/
theorem ne_directory_of_copy (h : Tracks last dirs scope t t') {source target : Path}
    {k : Location}
    (found : t.locate home source = .ok ⟨k, some (.file data)⟩)
    (same_source : t'.locate home source = t.locate home source)
    (located : t.locate home target = .ok ⟨l, t.node? l⟩) (directory : t.node? l ≠ some .directory)
    (heads : ∀ t₁, t.copy home source target = .ok t₁ → Heads last dirs t₁) :
    t'.node? l ≠ some .directory := by
  by_cases same : k = l
  · subst same
    have not_directory : some (Node.file data) ≠ some .directory := fun same => by cases same
    rwa [node?_of_locate (same_source.trans found) not_directory]
  · have at_target : t.destination home source target = target :=
      destination_of_place located directory
    have written : t.copy home source target = .ok (t.put l (.file data)) := by
      rw [copy_of_located found (at_target.symm ▸ located) same, at_target]
      exact write_eq_ok located directory
    have ne : l ≠ [] := fun root => directory (root ▸ rfl)
    refine h.ne_directory directory fun outside is_directory => ?_
    obtain ⟨_, is_file⟩ := (heads _ written l outside).file data (node?_put_self t _ ne)
    cases is_file.symm.trans is_directory

section

variable (h : Tracks last dirs scope t t') (sound : t.IsSound) (sound' : t'.IsSound)
  (there : t.node? home = some .directory) (there' : t'.node? home = some .directory)
include h sound sound' there there'

/-- **In a directory a path leads to one place in both trees**, or nowhere for one reason. -/
theorem locate (parent : t.locate home p.parent = .ok ⟨d, some .directory⟩)
    (parent' : t'.locate home p.parent = .ok ⟨d, some .directory⟩) :
    (∃ e, t.locate home p = .error e ∧ t'.locate home p = .error e) ∨
      ∃ l, t.locate home p = .ok ⟨l, t.node? l⟩ ∧ t'.locate home p = .ok ⟨l, t'.node? l⟩ := by
  have at_d := sound.directory_of_locate there parent
  have at_d' := sound'.directory_of_locate there' parent'
  by_cases proper : p.IsProper
  · rcases p.names.eq_nil_or_concat with empty | ⟨front, name, split⟩
    · have itself : p.parent = p := by rw [Path.parent, empty, List.dropLast_nil, ← empty]
      rw [itself] at parent parent'
      exact .inr ⟨d, by rw [parent, at_d], by rw [parent', at_d']⟩
    · have split : p.names = p.parent.names ++ [name] := by
        rw [Path.parent, split, List.concat_eq_append, List.dropLast_concat]
      rw [locate_of_isProper t home proper.parent] at parent
      rw [locate_of_isProper t' home proper.parent] at parent'
      rw [locate_of_isProper t home proper, locate_of_isProper t' home proper, split]
      change t.walk (start home p) p.parent.names = _ at parent
      change t'.walk (start home p) p.parent.names = _ at parent'
      rw [walk_append parent, walk_append parent']
      by_cases up : name = ".."
      · refine .inr ⟨d.dropLast, ?_, ?_⟩
        · rw [walk, if_pos up, walk, sound.directory_dropLast at_d]
        · rw [walk, if_pos up, walk, sound'.directory_dropLast at_d']
      · by_cases long : nameLimit < Text.nameSize name
        · refine .inl ⟨.nameTooLong, ?_, ?_⟩
          · rw [walk, if_neg up, if_pos long]
          · rw [walk, if_neg up, if_pos long]
        · rw [walk_single t d up (Nat.not_lt.1 long), walk_single t' d up (Nat.not_lt.1 long),
            h.step_eq]
          exact .inr ⟨_, rfl, rfl⟩
  · obtain ⟨e, -, fault⟩ := exists_fault proper
    exact .inl ⟨e, fault t home, fault t' home⟩

/-- **Writing ends alike.** -/
theorem write (parent : t.locate home p.parent = .ok ⟨d, some .directory⟩)
    (parent' : t'.locate home p.parent = .ok ⟨d, some .directory⟩) (start : Heads last dirs t)
    (heads : ∀ t₁, t.write home p data = .ok t₁ → Heads last dirs t₁) :
    Changes last dirs scope (t.write home p data) (t'.write home p data) := by
  obtain ⟨e, failed, failed'⟩ | ⟨l, located, located'⟩ :=
    h.locate sound sound' there there' parent parent'
  · rw [FileTree.write, FileTree.write, failed, failed']
    exact .failed e e
  · by_cases directory : t.node? l = some .directory
    · rw [directory] at located
      rw [(h.lasts start l).directory directory] at located'
      rw [FileTree.write, FileTree.write, located, located']
      exact .failed _ _
    · have ne : l ≠ [] := fun root => directory (root ▸ rfl)
      have written : t.write home p data = .ok (t.put l (.file data)) :=
        write_eq_ok located directory
      have file : ¬Inside dirs l → last.node? l ≠ some .directory := fun outside is_directory => by
        obtain ⟨_, is_file⟩ := (heads _ written l outside).file data (node?_put_self t _ ne)
        cases is_file.symm.trans is_directory
      rw [written, write_eq_ok located' (h.ne_directory directory file)]
      exact .done (h.put ne _)

/-- A copy to one place goes alike, in both trees. -/
theorem copy_to {source target : Path} {k : Location}
    (found : t.locate home source = .ok ⟨k, some (.file data)⟩)
    (same_source : t'.locate home source = t.locate home source)
    (same_target : t'.destination home source target = t.destination home source target)
    (parent : t.locate home (t.destination home source target).parent = .ok ⟨d, some .directory⟩)
    (parent' : t'.locate home (t.destination home source target).parent = .ok ⟨d, some .directory⟩)
    (start : Heads last dirs t)
    (heads : ∀ t₁, t.copy home source target = .ok t₁ → Heads last dirs t₁) :
    Changes last dirs scope (t.copy home source target) (t'.copy home source target) := by
  have found' := same_source.trans found
  have not_directory : some (Node.file data) ≠ some .directory := fun same => by cases same
  obtain ⟨e, failed, failed'⟩ | ⟨l, located, located'⟩ :=
    h.locate sound sound' there there' parent parent'
  · obtain ⟨e, copied⟩ := copy_of_located_error failed
    obtain ⟨e', copied'⟩ := copy_of_located_error (same_target ▸ failed')
    rw [copied, copied']
    exact .failed e e'
  · rw [← same_target] at located'
    by_cases same : k = l
    · subst same
      rw [node?_of_locate found not_directory] at located
      rw [node?_of_locate found' not_directory] at located'
      rw [copy_of_same found located, copy_of_same found' located']
      exact .failed _ _
    · have copied := copy_of_located found located same
      rw [copied] at heads ⊢
      rw [copy_of_located found' located' same, same_target]
      exact h.write sound sound' there there' parent parent' start heads

/-- A copy goes to one path in both trees, and that is in a directory. -/
theorem destination {source target : Path} {k : Location}
    (found : t.locate home source = .ok ⟨k, some (.file data)⟩)
    (same_source : t'.locate home source = t.locate home source)
    (parent : t.locate home target.parent = .ok ⟨d, some .directory⟩)
    (parent' : t'.locate home target.parent = .ok ⟨d, some .directory⟩) (start : Heads last dirs t)
    (heads : ∀ t₁, t.copy home source target = .ok t₁ → Heads last dirs t₁) :
    t'.destination home source target = t.destination home source target ∧ ∃ d,
      t.locate home (t.destination home source target).parent = .ok ⟨d, some .directory⟩ ∧
      t'.locate home (t.destination home source target).parent = .ok ⟨d, some .directory⟩ := by
  obtain ⟨e, failed, failed'⟩ | ⟨l, located, located'⟩ :=
    h.locate sound sound' there there' parent parent'
  · have at_target : t.destination home source target = target :=
      destination_of_other source fun l located => by cases failed.symm.trans located
    have at_target' : t'.destination home source target = target :=
      destination_of_other source fun l located => by cases failed'.symm.trans located
    rw [at_target, at_target']
    exact ⟨rfl, d, parent, parent'⟩
  · by_cases directory : t.node? l = some .directory
    · rw [directory] at located
      rw [(h.lasts start l).directory directory] at located'
      rw [destination_of_directory source located, destination_of_directory source located']
      refine ⟨rfl, ?_⟩
      rw [Path.names_join _ rfl]
      by_cases named : Path.saysSomething source.name = true
      · rw [List.filter_cons_of_pos named, Path.parent, List.filter_nil, List.dropLast_concat]
        exact ⟨l, located, located'⟩
      · rw [List.filter_cons_of_neg named, List.filter_nil, List.append_nil]
        exact ⟨d, parent, parent'⟩
    · have directory' := h.ne_directory_of_copy found same_source located directory heads
      rw [destination_of_place located directory, destination_of_place located' directory']
      exact ⟨rfl, d, parent, parent'⟩

/-- **Copying ends alike**, if what is copied is found in both trees. -/
theorem copy {source target : Path}
    (parent : t.locate home target.parent = .ok ⟨d, some .directory⟩)
    (parent' : t'.locate home target.parent = .ok ⟨d, some .directory⟩)
    (same_source : t'.locate home source = t.locate home source) (start : Heads last dirs t)
    (heads : ∀ t₁, t.copy home source target = .ok t₁ → Heads last dirs t₁) :
    Changes last dirs scope (t.copy home source target) (t'.copy home source target) := by
  cases read : t.read home source with
  | error e =>
    have read' : t'.read home source = .error e := by
      rw [FileTree.read, same_source, ← FileTree.read, read]
    obtain ⟨e, failed⟩ := copy_of_read_error read target
    obtain ⟨e', failed'⟩ := copy_of_read_error read' target
    rw [failed, failed']
    exact .failed e e'
  | ok data =>
    obtain ⟨k, found⟩ := locate_of_read read
    obtain ⟨same_target, d, parent, parent'⟩ :=
      h.destination sound sound' there there' found same_source parent parent' start heads
    exact h.copy_to sound sound' there there' found same_source same_target parent parent' start
      heads

end

end Tracks

end FileTree

end ProofGrading
