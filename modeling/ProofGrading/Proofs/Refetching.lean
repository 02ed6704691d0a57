import ProofGrading.Proofs.Outputs
import ProofGrading.Proofs.Repeating

/-!
# Proofs/Refetching — the sources are fetched again

A run goes by some places: what is on the way of its inputs, and what stands below the directory of
the uploads (`GradingRun.Consults`).  Main statement: if the first pass leaves these as they were,
fetching the sources repeats, though what it copies is there already
(`GradingRun.endsAt_sources`).
-/

namespace ProofGrading

open FileTree (Scope Grows)
open Rerun (Repeats)

/-! ## What is listed -/

namespace FileTree

variable {t t' : FileTree} {dir : Location} {names : List String}

theorem descendants_eq (t : FileTree) (dir : Location) : t.descendants dir =
    (t.nodes.map (·.1)).filterMap fun k =>
      if dir.isPrefixOf k && k.length != dir.length then some (k.drop dir.length) else none := by
  rw [descendants, List.filterMap_map]
  rfl

/-- What is below a directory stands there. -/
theorem node?_of_mem_descendants (among : names ∈ t.descendants dir) :
    t.node? (dir ++ names) ≠ none := by
  rw [descendants_eq, List.mem_filterMap] at among
  obtain ⟨k, listed, at_names⟩ := among
  split at at_names
  · next below =>
    obtain ⟨rest, rfl⟩ := List.isPrefixOf_iff_prefix.1 (Bool.and_eq_true_iff.1 below).1
    rw [List.drop_left] at at_names
    rw [← Option.some.inj at_names]
    exact node?_ne_none_of_mem listed
  · cases at_names

/-- **The same is listed below a directory** where nothing new stands. -/
theorem Grows.descendants_eq {scope : Scope} (h : Grows scope t t')
    (nothing : ∀ l, dir <+: l → t.node? l = none → t'.node? l = none) :
    t'.descendants dir = t.descendants dir := by
  obtain ⟨new, keys, fresh⟩ := h.listed
  rw [FileTree.descendants_eq, FileTree.descendants_eq, keys, List.filterMap_append]
  refine (congrArg _ (List.filterMap_eq_nil_iff.2 fun k among => ?_)).trans (List.append_nil _)
  refine if_neg fun below => ?_
  have there : t'.node? k ≠ none :=
    node?_ne_none_of_mem (keys ▸ List.mem_append_right _ among)
  exact there (nothing k (List.isPrefixOf_iff_prefix.1 (Bool.and_eq_true_iff.1 below).1)
    (fresh k among))

end FileTree

namespace Rerun

variable {r : Rerun} {dirs : List Location} {scope : Scope} {m m' : Machine} {p : Path}
  {l place : Location}

/-- Both passes list what was listed at the start. -/
theorem Follows.descendants (h : r.Follows [] scope m m') (heads : r.Heads [] m)
    (kept : ∀ l, place <+: l → r.IsKept l) :
    m.tree.descendants place = r.first.tree.descendants place ∧
      m'.tree.descendants place = r.first.tree.descendants place := by
  have gone : ∀ l, r.last.tree.node? l = none → m.tree.node? l = none := fun l =>
    (heads.tree l fun ⟨_, among, _⟩ => List.not_mem_nil among).eq_none
  constructor
  · refine h.begun.grows.descendants_eq fun l below free => ?_
    exact gone l ((kept l below).trans free)
  · refine Eq.trans (h.resumed.grows.descendants_eq fun l _ free => ?_)
      (r.extends_last.grows.descendants_eq fun l below free => (kept l below).trans free)
    obtain same | ⟨-, -, there⟩ := h.along.tree.node l
    · exact same.trans (gone l free)
    · exact there.trans free

end Rerun

/-! ## Fetching -/

namespace Job

variable {r : Rerun} {dirs : List Location} {scope : Scope} {m m' : Machine} {p dir : Path}

theorem repeats_loadTemplateSource (sees : r.Sees dirs scope p) :
    r.Repeats dirs scope (loadTemplateSource p) (loadTemplateSource p) := by
  refine (Repeats.isThere sees).bind fun _ => .ite (fun _ => .fail _) fun _ => ?_
  refine (Repeats.readText sees).bind fun text => ?_
  split
  · exact .fail _
  · split
    · exact .done _
    · exact .fail _
  · exact .fail _

theorem repeats_cloneTemplate (template : TemplateSource) (timeout : Int) (x : String) :
    r.Repeats ((r.first.scratch ++ [x]) :: dirs) scope
      (cloneTemplate template (Path.child ⟨.single, r.first.scratch ++ [x]⟩ "template") timeout)
      (cloneTemplate template (Path.child ⟨.single, r.first.scratch ++ [x]⟩ "template")
        timeout) := by
  refine (Repeats.call fun y gives => ?_).bind fun reply => ?_
  · have given := (Toolchain.gives_clone_iff template).1 gives
    rw [Path.child_of_plain (by decide)] at given
    rw [Path.text_inside_injective given]
    exact List.mem_cons_self
  · cases reply with
    | ended exit => exact .ite (fun _ => .done _) fun _ => .fail _
    | _ => exact .fail _

/-- **A sheet is fetched again**, if what is on its way in the clone is kept. -/
theorem repeats_fetchTemplate (template : TemplateSource) (target : Path) (timeout : Int)
    (kept : ∀ l, r.first.tree.OnWay r.first.home (template.sheetIn
      ⟨.single, r.first.scratch ++ [r.first.tree.freeName r.first.scratch r.first.scratchName]⟩) l →
        r.IsKept l) :
    r.Repeats [] r.untouched (fetchTemplate template target timeout)
      (fetchTemplate template target timeout) := by
  rw [fetchTemplate_eq]
  have within : ∀ m₀, Within m₀ .everywhere (withScratch (cloneAndCopy template target timeout)) :=
    fun m₀ => within_withScratch fun x _ =>
      within_cloneAndCopy template timeout (fun _ _ _ => trivial) x
  refine (Repeats.printLine _).bind fun _ => Repeats.bind
    (.withScratch (within _) (within _) fun x _ first_name => ?_) fun _ =>
      (Repeats.printLine _).bind fun _ => .done _
  have sees : r.Sees [r.first.scratch ++ [x]] r.untouched
      (template.sheetIn ⟨.single, r.first.scratch ++ [x]⟩) :=
    Rerun.sees_of_onWay (first_name rfl ▸ kept)
  refine (repeats_cloneTemplate template timeout x).bind fun _ => (Repeats.isFile sees).bind
    fun there => .ite (fun _ => .fail _) fun _ => .copyFile fun m m' follows heads => ?_
  rw [← sees m m' follows heads, follows.setUp.home]

/-! ## Choosing an upload -/

theorem namesBelow_eq (dir : Path) : namesBelow dir =
    look fun t home => (t.locate home dir).map fun spot => t.descendants spot.location := by
  funext m
  unfold namesBelow look
  dsimp only
  cases m.tree.locate m.home dir <;> rfl

theorem repeats_namesBelow (sees : r.Sees [] scope dir)
    (kept : ∀ place, r.first.tree.IsPlace r.first.home dir place →
      ∀ l, place <+: l → r.IsKept l) :
    r.Repeats [] scope (namesBelow dir) (namesBelow dir) := by
  rw [namesBelow_eq]
  refine .look fun m m' follows heads => ?_
  rw [sees m m' follows heads]
  cases located : m.tree.locate m.home dir with
  | error e => rfl
  | ok spot =>
    have place := (FileTree.isPlace_congr follows.reaches.aliases).1
      (FileTree.isPlace_of_locate located)
    rw [follows.reaches.home] at place
    obtain ⟨listed, listed'⟩ := follows.descendants heads (kept _ place)
    exact congrArg Except.ok (listed'.trans listed.symm)

theorem repeats_filesAmong {candidates : List (List String)}
    (sees : ∀ names ∈ candidates, r.Sees dirs scope (dir.join ⟨.relative, names⟩)) :
    r.Repeats dirs scope (filesAmong dir candidates) (filesAmong dir candidates) := by
  induction candidates with
  | nil => exact .done _
  | cons names rest ih =>
    exact (Repeats.isFile (sees names List.mem_cons_self)).bind fun here =>
      (ih fun names among => sees names (List.mem_cons_of_mem _ among)).bind fun others => .done _

theorem mem_of_filesAmong {candidates found : List (List String)} {names : List String}
    (h : filesAmong dir candidates m = (.ok found, m')) (among : names ∈ found) :
    names ∈ candidates := by
  induction candidates generalizing found m m' with
  | nil =>
    cases h
    cases among
  | cons first rest ih =>
    obtain ⟨here, m₁, -, h⟩ := bind_eq_ok_iff.1 h
    obtain ⟨others, m₂, searched, h⟩ := bind_eq_ok_iff.1 h
    cases h
    cases here with
    | false => exact List.mem_cons_of_mem _ (ih searched among)
    | true =>
      obtain rfl | among := List.mem_cons.1 among
      · exact List.mem_cons_self
      · exact List.mem_cons_of_mem _ (ih searched among)

/-- The upload that is chosen is below the directory of the uploads. -/
theorem exists_of_selectSubmission {selection : Selection}
    (h : selectSubmission dir m = (.ok selection, m')) :
    ∃ spot names, m.tree.locate m.home dir = .ok spot ∧
      names ∈ m.tree.descendants spot.location ∧
        selection.path = dir.join ⟨.relative, names⟩ := by
  obtain ⟨isDir, m₁, looked, listed⟩ := bind_eq_ok_iff.1 h
  obtain rfl := eq_of_look looked
  split at listed
  · cases listed
  obtain ⟨names, m₂, below, filtered⟩ := bind_eq_ok_iff.1 listed
  obtain ⟨spot, located, rfl⟩ : ∃ spot, m₁.tree.locate m₁.home dir = .ok spot ∧
      m₁.tree.descendants spot.location = names := by
    rw [namesBelow_eq] at below
    obtain ⟨spot, located, rfl⟩ :=
      exists_of_map_eq_ok (eq_ok_of_mapError (Prod.mk.inj below).1)
    exact ⟨spot, located, rfl⟩
  obtain ⟨candidates, m₃, searched, chosen⟩ := bind_eq_ok_iff.1 filtered
  cases first : firstPath? candidates with
  | none =>
    rw [first] at chosen
    cases chosen
  | some names =>
    rw [first] at chosen
    cases chosen
    have among := mem_of_filesAmong searched (mem_of_firstPath? first)
    exact ⟨spot, names, located, (List.mem_filter.1 among).1, rfl⟩

section

variable
  (below : ∀ place, r.first.tree.IsPlace r.first.home dir place → ∀ l, place <+: l → r.IsKept l)
  (upload : ∀ place names, r.first.tree.IsPlace r.first.home dir place →
    r.first.tree.node? (place ++ names) ≠ none →
      r.Sees [] r.untouched (dir.join ⟨.relative, names⟩))
include below upload

/-- What is listed is found in both passes. -/
theorem sees_of_listed (follows : r.Follows [] r.untouched m m') (heads : r.Heads [] m)
    {spot : FileTree.Spot} (located : m.tree.locate m.home dir = .ok spot) {names : List String}
    (among : names ∈ m.tree.descendants spot.location) :
    r.Sees [] r.untouched (dir.join ⟨.relative, names⟩) := by
  have place := (FileTree.isPlace_congr follows.reaches.aliases).1
    (FileTree.isPlace_of_locate located)
  rw [follows.reaches.home] at place
  rw [(follows.descendants heads (below _ place)).1] at among
  exact upload _ names place (FileTree.node?_of_mem_descendants among)

/-- **An upload is chosen again.** -/
theorem repeats_selectSubmission (sees : r.Sees [] r.untouched dir) :
    r.Repeats [] r.untouched (selectSubmission dir) (selectSubmission dir) := by
  refine (Repeats.isDirectory sees).bind fun isDir => .ite (fun _ => .fail _) fun _ =>
    (repeats_namesBelow sees below).bind_of_ok
      (fun names => (reads_filesAmong dir _).within.bind fun candidates => ?_)
      (fun names => (reads_filesAmong dir _).within.bind fun candidates => ?_)
      fun m m' names m₁ follows heads listed => (repeats_filesAmong fun names among => ?_).bind
        fun candidates => ?_
  iterate 2
    · split
      · exact within_fail _
      · exact within_done _
  · rw [namesBelow_eq] at listed
    obtain ⟨spot, located, rfl⟩ :=
      exists_of_map_eq_ok (eq_ok_of_mapError (Prod.mk.inj listed).1)
    exact sees_of_listed below upload follows heads located (List.mem_filter.1 among).1
  · split
    · exact .fail _
    · exact .done _

end

end Job

namespace GradingRun

variable {r : Rerun} {s : Settings} {given : Option (String × String)}

/-- **What a run with settings goes by**: what is on the way of its inputs, and what stands below
the directory of the uploads. -/
inductive Consults (m : Machine) (s : Settings) (given : Option (String × String)) :
    Location → Prop
  | file {home file : String} {l : Location} (named : AreGiven given)
      (is_given : given = some (home, file)) (on_way : m.tree.OnWay m.home (.ofString file) l) :
      Consults m s given l
  | provisioning {l : Location} (unnamed : ¬AreGiven given)
      (on_way : m.tree.OnWay m.home s.provisioning l) : Consults m s given l
  | sheet {template : TemplateSource} {l : Location} (unnamed : ¬AreGiven given)
      (loaded : (Job.loadTemplateSource s.provisioning m).1 = .ok template)
      (on_way : m.tree.OnWay m.home (template.sheetIn
        ⟨.single, m.scratch ++ [m.tree.freeName m.scratch m.scratchName]⟩) l) : Consults m s given l
  | submissions {l : Location} (unnamed : ¬AreGiven given)
      (on_way : m.tree.OnWay m.home s.submissions l) : Consults m s given l
  | below {place l : Location} (unnamed : ¬AreGiven given)
      (at_place : m.tree.IsPlace m.home s.submissions place) (below : place <+: l) :
      Consults m s given l
  | upload {place l : Location} {names : List String} (unnamed : ¬AreGiven given)
      (at_place : m.tree.IsPlace m.home s.submissions place)
      (there : m.tree.node? (place ++ names) ≠ none)
      (on_way : m.tree.OnWay m.home (s.submissions.join ⟨.relative, names⟩) l) :
      Consults m s given l

/-- A file that is given is found again. -/
theorem repeats_given (named : AreGiven given)
    (kept : ∀ l, Consults r.first s given l → r.IsKept l) :
    r.Repeats [] r.untouched (sources s given) (sources s given) := by
  obtain ⟨home, file, rfl⟩ : ∃ home file, given = some (home, file) := by
    cases given with
    | none => cases named
    | some given => exact ⟨given.1, given.2, rfl⟩
  have some_name : ¬home.isEmpty = true := fun h => named (String.isEmpty_iff.1 h)
  have sees : r.Sees [] r.untouched (.ofString file) :=
    Rerun.sees_of_onWay fun l on_way => kept l (.file named rfl on_way)
  unfold sources
  dsimp only
  rw [if_neg some_name]
  exact (Repeats.isFile sees).bind fun there => .ite (fun _ => .fail _) fun _ => .done _

/-- What a run does with the repository of its sheet: it fetches the sheet, and then chooses and
copies an upload. -/
def fetchFrom (s : Settings) (template : TemplateSource) : Job (String × Path × List String) := do
  let _ ← Job.fetchTemplate template s.sheetPath TemplateSource.cloneTimeout
  let selection ← Job.selectSubmission s.submissions
  Job.printLine s!"Selected submission {selection.path.text}"
  let placed ← Job.placeSubmission selection.path s.uploadPath
  return (s.reference, placed, [selection.warning])

/-- What is fetched from a repository is fetched again. -/
theorem repeats_fetchFrom (unnamed : ¬AreGiven given)
    (kept : ∀ l, Consults r.first s given l → r.IsKept l) {template : TemplateSource}
    (loaded : (Job.loadTemplateSource s.provisioning r.first).1 = .ok template) :
    r.Repeats [] r.untouched (fetchFrom s template) (fetchFrom s template) := by
  have submissions : r.Sees [] r.untouched s.submissions :=
    Rerun.sees_of_onWay fun l on_way => kept l (.submissions unnamed on_way)
  have below : ∀ place, r.first.tree.IsPlace r.first.home s.submissions place →
      ∀ l, place <+: l → r.IsKept l :=
    fun place at_place l below => kept l (.below unnamed at_place below)
  have upload : ∀ place names, r.first.tree.IsPlace r.first.home s.submissions place →
      r.first.tree.node? (place ++ names) ≠ none →
        r.Sees [] r.untouched (s.submissions.join ⟨.relative, names⟩) :=
    fun place names at_place there =>
      Rerun.sees_of_onWay fun l on_way => kept l (.upload unnamed at_place there on_way)
  have copies : ∀ m₀ (source : Path), Job.Within m₀ .everywhere
      (Job.placeSubmission source s.uploadPath) := fun m₀ source =>
    (Job.within_copyFile fun _ _ _ => trivial).bind fun _ => Job.within_done _
  refine (Job.repeats_fetchTemplate template _ _ fun l on_way =>
    kept l (.sheet unnamed loaded on_way)).bind fun _ =>
      (Job.repeats_selectSubmission below upload submissions).bind_of_ok
        (fun _ => (Job.reads_printLine _).within.bind fun _ => (copies _ _).bind fun _ =>
          Job.within_done _)
        (fun _ => (Job.reads_printLine _).within.bind fun _ => (copies _ _).bind fun _ =>
          Job.within_done _) ?_
  intro m m' selection m₁ follows heads selected
  obtain ⟨spot, names, located, among, path_eq⟩ := Job.exists_of_selectSubmission selected
  have sees := Job.sees_of_listed below upload follows heads located among
  rw [← path_eq] at sees
  refine (Repeats.printLine _).bind fun _ => ((Repeats.copyFile fun m m' follows heads => ?_).bind
    fun _ => .done _).bind fun _ => .done _
  rw [← sees m m' follows heads, follows.setUp.home]

/-- Sources that are not given are fetched again. -/
theorem endsAt_fetched (unnamed : ¬AreGiven given)
    (kept : ∀ l, Consults r.first s given l → r.IsKept l) :
    r.EndsAt [] r.untouched r.first r.second (sources s none) (sources s none) := by
  have follows := r.follows_start
  have loads : r.Repeats [] r.untouched (Job.loadTemplateSource s.provisioning)
      (Job.loadTemplateSource s.provisioning) := Job.repeats_loadTemplateSource
    (Rerun.sees_of_onWay fun l on_way => kept l (.provisioning unnamed on_way))
  have fetches : ∀ template m₁, Job.loadTemplateSource s.provisioning r.first = (.ok template, m₁) →
      r.Repeats [] r.untouched (fetchFrom s template) (fetchFrom s template) :=
    fun template m₁ loaded => repeats_fetchFrom unnamed kept (congrArg Prod.fst loaded)
  refine (loads.ends _ _ follows).bind (fun _ _ => id)
    (fun template m₁ loaded => (fetches template m₁ loaded).within m₁ ?_)
    fun template m₁ m₁' loaded loaded' along =>
      (fetches template m₁ loaded).ends m₁ m₁'
        (follows.after loads.within loads.within' loaded loaded' along)
  exact loads.within.reaches follows.reaches loaded

/-- **The sources are fetched again.** -/
theorem endsAt_sources (kept : ∀ l, Consults r.first s given l → r.IsKept l) :
    r.EndsAt [] r.untouched r.first r.second (sources s given) (sources s given) := by
  by_cases named : AreGiven given
  · exact (repeats_given named kept).ends _ _ r.follows_start
  · rw [sources_of_not_areGiven s named]
    exact endsAt_fetched named kept

end GradingRun

end ProofGrading
