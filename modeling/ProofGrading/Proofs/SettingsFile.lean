import Mathlib.Data.List.Nodup
import ProofGrading.Proofs.Failures
import ProofGrading.Proofs.SoundTree
import ProofGrading.Settings

/-!
# Proofs/SettingsFile — what a settings file says

A YAML mapping holds each text once as a key (`Yaml.Construct.nodup_textKeys_of_value`), so what it
has at a key is told by membership.  Which mappings are accepted as settings, and which settings
they then are, is said field by field (`Settings.ofEntries_eq_ok_iff`).  Main statement: of the
settings in a file each path that is given is seen from the directory of the file, and nothing else
depends on where the file is (`Settings.seenFrom_of_load`).
-/

namespace ProofGrading

/-! ## Text keys -/

namespace Yaml

/-- The text that a value is. -/
def Value.text? : Value → Option String
  | .single (.text s) => some s
  | _ => none

theorem Value.text?_eq_some_iff {v : Value} {s : String} :
    v.text? = some s ↔ v = .single (.text s) := by
  constructor
  · intro h
    unfold text? at h
    split at h
    · rw [Option.some.inj h]
    · cases h
  · rintro rfl
    rfl

namespace Construct

variable {entries : List (Value × Value)} {j k v : Value} {s : String}

/-- The texts among the keys of a mapping. -/
def textKeys (entries : List (Value × Value)) : List String := entries.filterMap (·.1.text?)

theorem sameText_eq_true_iff : sameText j k = true ↔ ∃ s, j.text? = some s ∧ k.text? = some s := by
  unfold sameText
  split
  · simp only [Value.text?, beq_iff_eq, Option.some.injEq]
    constructor
    · rintro rfl
      exact ⟨_, rfl, rfl⟩
    · rintro ⟨_, rfl, rfl⟩
      rfl
  · next apart =>
    refine iff_of_false Bool.false_ne_true ?_
    rintro ⟨s, hj, hk⟩
    exact apart s s (Value.text?_eq_some_iff.1 hj) (Value.text?_eq_some_iff.1 hk)

/-- **Putting an entry adds its text to the keys** unless it is one of them. -/
theorem textKeys_putEntry (entries : List (Value × Value)) (k v : Value) :
    textKeys (putEntry entries k v) =
      textKeys entries ++ (k.text?.filter fun s => decide (s ∉ textKeys entries)).toList := by
  induction entries with
  | nil => cases h : k.text? <;> simp [putEntry, textKeys, h, Option.filter]
  | cons e rest ih =>
    obtain ⟨j, w⟩ := e
    rw [putEntry]
    split
    · next same =>
      obtain ⟨s, hj, hk⟩ := sameText_eq_true_iff.1 same
      simp [textKeys, hj, hk]
    · next apart =>
      have other : ∀ s, k.text? = some s → j.text? ≠ some s := fun s hk hj =>
        apart (sameText_eq_true_iff.2 ⟨s, hj, hk⟩)
      have cons_keys (rest : List (Value × Value)) :
          textKeys ((j, w) :: rest) = j.text?.toList ++ textKeys rest := by
        cases h : j.text? <;> simp [textKeys, h]
      rw [cons_keys, cons_keys, ih, List.append_assoc]
      cases hk : k.text? with
      | none => simp
      | some s => simp [Option.filter, other s hk]

theorem nodup_textKeys_putEntry (h : (textKeys entries).Nodup) (k v : Value) :
    (textKeys (putEntry entries k v)).Nodup := by
  rw [textKeys_putEntry]
  refine h.append (Option.toList_nodup _) ?_
  intro s old new
  obtain ⟨-, fresh⟩ := Option.filter_eq_some_iff.1 (Option.mem_toList.1 new)
  simp [old] at fresh

theorem nodup_textKeys_foldl {more : List (Value × Value)} (h : (textKeys entries).Nodup) :
    (textKeys (more.foldl (fun es e => putEntry es e.1 e.2) entries)).Nodup := by
  induction more generalizing entries with
  | nil => exact h
  | cons e rest ih => exact ih (nodup_textKeys_putEntry h e.1 e.2)

/-- **What a scalar stands for is no mapping.** -/
theorem scalarValue_ne_map (tag text : String) : scalarValue tag text ≠ .ok (.map entries) := by
  have single_ne {α : Type} {x : Except Flaw α} {f : α → Scalar} :
      (x.map fun a => Value.single (f a)) ≠ .ok (.map entries) := by
    cases x <;> exact nofun
  have moment_ne : momentOf text ≠ .ok (.map entries) := by
    unfold momentOf
    dsimp only
    split
    · split <;> exact nofun
    · exact nofun
  unfold scalarValue
  split_ifs
  · exact nofun
  · exact nofun
  · exact single_ne
  · exact single_ne
  · exact single_ne
  · exact single_ne
  · exact moment_ne
  · exact nofun

theorem valueOfPairs_ne_map (tag : String) (pairs : List (Node × Node)) :
    valueOfPairs tag pairs ≠ .ok (.map entries) := by
  unfold valueOfPairs
  split
  · split
    · exact nofun
    · exact scalarValue_ne_map _ _
  · exact nofun

theorem atLevel_eq_ok_iff {α : Type} {level : Nat} {r : Except Flaw α} {a : α} :
    atLevel level r = .ok a ↔ r = .ok a := by
  cases r <;> simp [atLevel, Except.mapError]

/-- **A mapping holds each text once** as a key. -/
theorem nodup_textKeys_of_value {level : Nat} {n : Node} (h : value level n = .ok (.map entries)) :
    (textKeys entries).Nodup := by
  have list_ne {x : Leveled (List Value)} : x.map Value.list ≠ .ok (.map entries) := by
    cases x <;> exact nofun
  cases n with
  | cycle => cases h
  | scalar tag text =>
    rw [value] at h
    split at h
    · cases h
    · exact absurd (atLevel_eq_ok_iff.1 h) (scalarValue_ne_map _ _)
  | sequence tag items =>
    rw [value] at h
    split_ifs at h
    · exact absurd h list_ne
    · exact absurd h list_ne
  | mapping tag pairs =>
    rw [value] at h
    split_ifs at h
    · -- the entries are put one after the other, from none
      obtain ⟨all, -, built⟩ := exists_of_map_eq_ok h
      cases built
      exact nodup_textKeys_foldl List.nodup_nil
    · obtain ⟨all, -, built⟩ := exists_of_map_eq_ok h
      cases built
    · exact absurd (atLevel_eq_ok_iff.1 h) (valueOfPairs_ne_map _ _)

end Construct

/-- **A mapping that is read holds each text once** as a key. -/
theorem nodup_textKeys_of_ofSource {source : Source} {entries : List (Value × Value)}
    (h : Value.ofSource source = .ok (.map entries)) : (Construct.textKeys entries).Nodup := by
  obtain ⟨n, -, built⟩ := exists_of_bind_eq_ok h
  cases n with
  | none => cases built
  | some n => exact Construct.nodup_textKeys_of_value (eq_ok_of_mapError built)

end Yaml

/-! ## Settings -/

namespace Settings

open Yaml (Value)

variable {dir : Path} {es : Entries} {entries : List (Value × Value)} {name : String} {v : Value}
  {s : Settings} {α : Type}

theorem eq_map_of_entriesOf (h : entriesOf entries = .ok es) :
    entries = es.map fun e => (.single (.text e.1), e.2) := by
  fun_induction entriesOf entries generalizing es with
  | case1 =>
    cases h
    rfl
  | case2 key v rest ih =>
    obtain ⟨es', rest_read, rfl⟩ := exists_of_map_eq_ok h
    rw [List.map_cons, ← ih rest_read]
  | case3 => cases h

theorem lookup_cons (k : String) (w : Value) (rest : Entries) (name : String) :
    entry? ((k, w) :: rest) name = if k = name then some w else entry? rest name := by
  unfold entry?
  rw [List.find?_cons]
  by_cases same : k = name
  · simp [same]
  · rw [beq_eq_false_iff_ne.2 same, if_neg same]

/-- **An entry that is looked up is there**, and where no key comes twice that is all. -/
theorem lookup_eq_some_iff (distinct : (es.map (·.1)).Nodup) :
    entry? es name = some v ↔ (name, v) ∈ es := by
  induction es with
  | nil => exact iff_of_false nofun List.not_mem_nil
  | cons e rest ih =>
    obtain ⟨k, w⟩ := e
    rw [List.map_cons, List.nodup_cons] at distinct
    obtain ⟨new, distinct⟩ := distinct
    rw [lookup_cons]
    split
    · next same =>
      subst same
      have not_later : (k, v) ∉ rest := fun among => new (List.mem_map.2 ⟨_, among, rfl⟩)
      simp [not_later, eq_comm]
    · next other => simp [ih distinct, Ne.symm other]

/-- What is looked up among the entries of a mapping is what the mapping holds. -/
theorem lookup_entriesOf (distinct : (Yaml.Construct.textKeys entries).Nodup)
    (h : entriesOf entries = .ok es) :
    entry? es name = some v ↔ (.single (.text name), v) ∈ entries := by
  obtain rfl := eq_map_of_entriesOf h
  have keys : Yaml.Construct.textKeys (es.map fun e => (Value.single (.text e.1), e.2)) =
      es.map (·.1) := by
    simp [Yaml.Construct.textKeys, List.filterMap_map, Value.text?]
  rw [lookup_eq_some_iff (keys ▸ distinct)]
  simp

/-- A path setting: its default, or a text that is seen from a directory; the empty text is the
working directory. -/
def PathFrom (es : Entries) (name : String) (dir default q : Path) : Prop :=
  entry? es name = none ∧ q = default ∨
    ∃ s, entry? es name = some (.single (.text s)) ∧ q = if s = "" then {} else dir.child s

/-- A single setting: its default, or what is read from a value. -/
def SingleFrom (es : Entries) (name : String) (default : α) (read : Scalar → Except Misfit α)
    (a : α) : Prop :=
  entry? es name = none ∧ a = default ∨ ∃ v, entry? es name = some v ∧ read v.scalar = .ok a

theorem pathAt_eq_ok_iff {q : Path} : pathAt dir v = .ok (.ok q) ↔
    ∃ s, v = .single (.text s) ∧ q = if s = "" then {} else dir.child s := by
  unfold pathAt
  split
  · simp only [Except.ok.injEq, Value.single.injEq, Scalar.text.injEq, exists_eq_left',
      String.isEmpty_iff]
    exact eq_comm
  · next other =>
    refine iff_of_false ?_ fun ⟨s, text, _⟩ => other s text
    split <;> exact nofun

theorem readPath_pathField_iff {default q : Path} :
    (∃ field, pathField es dir name = .ok field ∧ readPath name default field = .valid q) ↔
      PathFrom es name dir default q := by
  unfold pathField PathFrom
  cases entry? es name with
  | none => simp [readPath, eq_comm]
  | some v =>
    simp only [reduceCtorEq, false_and, false_or, Option.some.injEq, ← pathAt_eq_ok_iff]
    cases pathAt dir v with
    | error e => simp [Except.map]
    | ok r => simp [Except.map, readPath, Field.placed_eq_valid_iff]

theorem readSingle_eq_valid_iff {default a : α} {read : Scalar → Except Misfit α} :
    readSingle es name default read = .valid a ↔ SingleFrom es name default read a := by
  unfold readSingle SingleFrom
  cases entry? es name with
  | none => simp [eq_comm]
  | some v => simp [Field.placed_eq_valid_iff]

/-- The settings that are paths. -/
inductive PathSetting where
  | project
  | submissions
  | provisioning
  | results

/-- The key of a path setting. -/
def PathSetting.key : PathSetting → String
  | project => "project_dir"
  | submissions => "submission_dir"
  | provisioning => "provisioning_config"
  | results => "results_path"

/-- The path of a setting. -/
def PathSetting.path (f : PathSetting) (s : Settings) : Path :=
  match f with
  | project => s.project
  | submissions => s.submissions
  | provisioning => s.provisioning
  | results => s.results

/-- **Settings are what entries say**, field by field. -/
structure ReadFrom (dir : Path) (es : Entries) (s : Settings) : Prop where
  path : ∀ f : PathSetting, PathFrom es f.key dir (f.path {}) (f.path s)
  reference : SingleFrom es "reference_module" "Assignment" Scalar.string s.reference
  command : SingleFrom es "lake_command" "lake" Scalar.string s.command
  timeout : SingleFrom es "build_timeout_seconds" 600 Scalar.positive s.timeout
  verbose : SingleFrom es "verbose" false Scalar.boolean s.verbose

theorem mapError_toExcept_eq_ok_iff {shape : String} {checked : Checked α} {f : Invalid → Failure}
    {a : α} : (checked.toExcept shape).mapError f = .ok a ↔ checked = .valid a := by
  cases checked <;> simp [Checked.toExcept, Except.mapError]

/-- **Which entries are accepted**, and as which settings. -/
theorem ofEntries_eq_ok_iff : ofEntries dir es = .ok s ↔ ReadFrom dir es s := by
  constructor
  · intro h
    obtain ⟨f₁, at_project, h⟩ := exists_of_bind_eq_ok h
    obtain ⟨f₂, at_submissions, h⟩ := exists_of_bind_eq_ok h
    obtain ⟨f₃, at_provisioning, h⟩ := exists_of_bind_eq_ok h
    obtain ⟨f₄, at_results, h⟩ := exists_of_bind_eq_ok h
    simp only [mapError_toExcept_eq_ok_iff, Checked.seq_eq_valid_iff, Checked.map_eq_valid_iff,
      readSingle_eq_valid_iff] at h
    obtain ⟨_, verbose, ⟨_, timeout, ⟨_, command, ⟨_, results, ⟨_, provisioning, ⟨_, submissions,
      ⟨_, reference, ⟨project, read_project, rfl⟩, read_reference, rfl⟩, read_submissions, rfl⟩,
      read_provisioning, rfl⟩, read_results, rfl⟩, read_command, rfl⟩, read_timeout, rfl⟩,
      read_verbose, rfl⟩ := h
    refine ⟨fun f => ?_, read_reference, read_command, read_timeout, read_verbose⟩
    cases f with
    | project => exact readPath_pathField_iff.1 ⟨f₁, at_project, read_project⟩
    | submissions => exact readPath_pathField_iff.1 ⟨f₂, at_submissions, read_submissions⟩
    | provisioning => exact readPath_pathField_iff.1 ⟨f₃, at_provisioning, read_provisioning⟩
    | results => exact readPath_pathField_iff.1 ⟨f₄, at_results, read_results⟩
  · intro h
    obtain ⟨f₁, at_project, read_project⟩ := readPath_pathField_iff.2 (h.path .project)
    obtain ⟨f₂, at_submissions, read_submissions⟩ := readPath_pathField_iff.2 (h.path .submissions)
    obtain ⟨f₃, at_provisioning, read_provisioning⟩ :=
      readPath_pathField_iff.2 (h.path .provisioning)
    obtain ⟨f₄, at_results, read_results⟩ := readPath_pathField_iff.2 (h.path .results)
    simp only [PathSetting.key] at at_project at_submissions at_provisioning at_results
    simp only [PathSetting.key, PathSetting.path] at read_project read_submissions
    simp only [PathSetting.key, PathSetting.path] at read_provisioning read_results
    unfold ofEntries
    rw [at_project, at_submissions, at_provisioning, at_results]
    refine mapError_toExcept_eq_ok_iff.2 ?_
    rw [read_project, read_submissions, read_provisioning, read_results,
      readSingle_eq_valid_iff.2 h.reference, readSingle_eq_valid_iff.2 h.command,
      readSingle_eq_valid_iff.2 h.timeout, readSingle_eq_valid_iff.2 h.verbose]
    rfl

/-- **Which mappings are accepted**, and as which settings. -/
theorem ofValue_map_eq_ok_iff : ofValue dir (.map entries) = .ok s ↔
    ∃ es, entriesOf entries = .ok es ∧ ReadFrom dir es s := by
  simp only [← ofEntries_eq_ok_iff]
  cases entries with
  | nil =>
    -- nothing is read as the defaults, which is what the empty mapping is read as
    have read : ofEntries dir [] = .ok {} := rfl
    have defaults : ofValue dir (.map []) = .ok {} := rfl
    simp [defaults, entriesOf, read]
  | cons e rest =>
    have read : ofValue dir (.map (e :: rest)) = (entriesOf (e :: rest) >>= ofEntries dir) := rfl
    rw [read]
    exact ⟨exists_of_bind_eq_ok, fun ⟨es, keys, h⟩ => by rw [keys]; exact h⟩

theorem PathFrom.elsewhere {default q : Path} (h : PathFrom es name dir default q) (dir' : Path) :
    ∃ q', PathFrom es name dir' default q' := by
  obtain ⟨absent, -⟩ | ⟨s, text, -⟩ := h
  · exact ⟨default, .inl ⟨absent, rfl⟩⟩
  · exact ⟨_, .inr ⟨s, text, rfl⟩⟩

/-- **What settings do not depend on where they are read**: all but the paths. -/
theorem ReadFrom.elsewhere (h : ReadFrom dir es s) (dir' : Path) : ∃ s', ReadFrom dir' es s' ∧
    s'.reference = s.reference ∧ s'.command = s.command ∧ s'.timeout = s.timeout ∧
      s'.verbose = s.verbose := by
  obtain ⟨project, at_project⟩ := (h.path .project).elsewhere dir'
  obtain ⟨submissions, at_submissions⟩ := (h.path .submissions).elsewhere dir'
  obtain ⟨provisioning, at_provisioning⟩ := (h.path .provisioning).elsewhere dir'
  obtain ⟨results, at_results⟩ := (h.path .results).elsewhere dir'
  refine ⟨{ s with project, submissions, provisioning, results },
    ⟨fun f => ?_, h.reference, h.command, h.timeout, h.verbose⟩, rfl, rfl, rfl, rfl⟩
  cases f
  · exact at_project
  · exact at_submissions
  · exact at_provisioning
  · exact at_results

/-! ## The file -/

/-- A mapping has a value at a text. -/
def Has (entries : List (Value × Value)) (name : String) (v : Value) : Prop :=
  (.single (.text name), v) ∈ entries

/-- A single setting of a mapping: its default if nothing is there, and else what is there. -/
structure IsSaid (entries : List (Value × Value)) (name : String) (default : α)
    (read : Scalar → Except Misfit α) (a : α) : Prop where
  absent : (∀ v, ¬Has entries name v) → a = default
  given : ∀ v, Has entries name v → read v.scalar = .ok a

/-- **Settings of a mapping are seen from a directory**: a path that is given starts there, unless
it is absolute or empty, and what is not given is as by default.  The other settings are what the
mapping says, and the same wherever the mapping is read. -/
structure SeenFrom (dir : Path) (entries : List (Value × Value)) (s : Settings) : Prop where
  relative : ∀ (f : PathSetting) v, Has entries f.key (.single (.text v)) → v ≠ "" →
    (Path.ofString v).isAbsolute = false →
      f.path s = ⟨dir.root, dir.names ++ (Path.ofString v).names⟩
  absolute : ∀ (f : PathSetting) v, Has entries f.key (.single (.text v)) →
    (Path.ofString v).isAbsolute = true → f.path s = .ofString v
  absent : ∀ f : PathSetting, (∀ v, ¬Has entries f.key v) → f.path s = f.path {}
  reference : IsSaid entries "reference_module" "Assignment" Scalar.string s.reference
  command : IsSaid entries "lake_command" "lake" Scalar.string s.command
  timeout : IsSaid entries "build_timeout_seconds" 600 Scalar.positive s.timeout
  verbose : IsSaid entries "verbose" false Scalar.boolean s.verbose
  elsewhere : ∀ dir', ∃ s', ofValue dir' (.map entries) = .ok s' ∧ s'.reference = s.reference ∧
    s'.command = s.command ∧ s'.timeout = s.timeout ∧ s'.verbose = s.verbose

section Keys

variable (distinct : (Yaml.Construct.textKeys entries).Nodup) (keys : entriesOf entries = .ok es)

include distinct keys

theorem lookup_eq_none_of_absent (absent : ∀ v, ¬Has entries name v) : entry? es name = none := by
  rw [Option.eq_none_iff_forall_ne_some]
  exact fun v found => absent v ((lookup_entriesOf distinct keys).1 found)

theorem SingleFrom.isSaid {default a : α} {read : Scalar → Except Misfit α}
    (h : SingleFrom es name default read a) : IsSaid entries name default read a where
  absent absent := by
    obtain ⟨-, same⟩ | ⟨_, found, -⟩ := h
    · exact same
    · cases (lookup_eq_none_of_absent distinct keys absent).symm.trans found
  given v has := by
    have there := (lookup_entriesOf distinct keys).2 has
    obtain ⟨missing, -⟩ | ⟨_, found, read⟩ := h
    · cases missing.symm.trans there
    · cases found.symm.trans there
      exact read

theorem PathFrom.eq_of_has {default q : Path} {v : String}
    (h : PathFrom es name dir default q) (has : Has entries name (.single (.text v))) :
    q = if v = "" then {} else dir.child v := by
  have there := (lookup_entriesOf distinct keys).2 has
  obtain ⟨missing, -⟩ | ⟨_, found, same⟩ := h
  · cases missing.symm.trans there
  · cases found.symm.trans there
    exact same

/-- **Settings that were read are seen from the directory** that they were read in. -/
theorem ReadFrom.seenFrom (h : ReadFrom dir es s) : SeenFrom dir entries s where
  relative f v has some_text relative := by
    rw [(h.path f).eq_of_has distinct keys has, if_neg some_text]
    exact Path.names_join dir relative
  absolute f v has absolute := by
    have some_text : v ≠ "" := by
      rintro rfl
      cases absolute
    rw [(h.path f).eq_of_has distinct keys has, if_neg some_text]
    exact Path.join_of_isAbsolute dir absolute
  absent f absent := by
    obtain ⟨-, same⟩ | ⟨_, found, -⟩ := h.path f
    · exact same
    · cases (lookup_eq_none_of_absent distinct keys absent).symm.trans found
  reference := h.reference.isSaid distinct keys
  command := h.command.isSaid distinct keys
  timeout := h.timeout.isSaid distinct keys
  verbose := h.verbose.isSaid distinct keys
  elsewhere dir' := by
    obtain ⟨s', read, same⟩ := h.elsewhere dir'
    exact ⟨s', ofValue_map_eq_ok_iff.2 ⟨es, keys, read⟩, same⟩

end Keys

/-- The file at a path holds a YAML mapping. -/
def HoldsMapping (p : Path) (m : Machine) (entries : List (Value × Value)) : Prop :=
  ∃ data, Job.readBytes p m = (.ok data, m) ∧
    Value.ofSource (.ofBytes data) = .ok (.map entries)

theorem holdsMapping_of_read {p : Path} {m : Machine} {data : ByteArray}
    (read : m.tree.read m.home p = .ok data)
    (held : Value.ofSource (.ofBytes data) = .ok (.map entries)) : HoldsMapping p m entries :=
  ⟨data, Prod.ext (congrArg (Except.mapError Failure.files) read) rfl, held⟩

/-- **Which files are read as settings**: those with a value that is accepted. -/
theorem load_eq_ok_iff {p : Path} {m m' : Machine} : load p m = (.ok s, m') ↔
    m' = m ∧ ∃ data v, Job.readBytes p m = (.ok data, m) ∧
      Value.ofSource (.ofBytes data) = .ok v ∧ ofValue p.parent v = .ok s := by
  constructor
  · intro loaded
    obtain ⟨_, m₁, looked, h⟩ := Job.bind_eq_ok_iff.1 loaded
    cases Job.eq_of_look looked
    split at h
    · cases h
    · obtain ⟨data, m₂, read, h⟩ := Job.bind_eq_ok_iff.1 h
      cases Job.eq_of_look read
      cases held : Value.ofSource (.ofBytes data) with
      | error flaw =>
        rw [held] at h
        cases h
      | ok v =>
        rw [held] at h
        obtain ⟨accepted, rfl⟩ := Prod.mk.inj h
        exact ⟨rfl, data, v, read, held, accepted⟩
  · rintro ⟨rfl, data, v, read, held, accepted⟩
    have there : Job.isThere p m' = (.ok true, m') := by
      rw [Job.isThere, Job.look,
        FileTree.isThere_of_read (eq_ok_of_mapError (Prod.mk.inj read).1)]
      rfl
    unfold load
    refine (Job.bind_ok there _).trans ((Job.bind_ok read _).trans ?_)
    rw [held]
    exact Prod.ext accepted rfl

/-- **The paths of a settings file are seen from its directory**, for every mapping that
is accepted. -/
theorem seenFrom_of_load {p : Path} {m m' : Machine} (held : HoldsMapping p m entries)
    (loaded : load p m = (.ok s, m')) : SeenFrom p.parent entries s := by
  obtain ⟨data, read, held⟩ := held
  obtain ⟨-, data', v, read', held', accepted⟩ := load_eq_ok_iff.1 loaded
  cases read.symm.trans read'
  cases held.symm.trans held'
  obtain ⟨es, keys, from_entries⟩ := ofValue_map_eq_ok_iff.1 accepted
  exact from_entries.seenFrom (Yaml.nodup_textKeys_of_ofSource held) keys

theorem load_of_holdsMapping {p : Path} {m : Machine} (held : HoldsMapping p m entries)
    (accepted : ofValue p.parent (.map entries) = .ok s) : load p m = (.ok s, m) := by
  obtain ⟨data, read, held⟩ := held
  exact load_eq_ok_iff.2 ⟨rfl, data, _, read, held, accepted⟩

/-- A machine with a settings file in a directory of its own. -/
def configured (text : String) : Machine where
  home := ["work"]
  scratch := ["tmp"]
  scratchName := "grading"
  bundle := ["bundle"]
  tree :=
    { nodes := [(["work"], .directory), (["work", "conf"], .directory),
        (["work", "conf", "grader.yml"], .file text.toUTF8)] }

namespace configured

/-- The file of the machine. -/
def file : Path := .ofString "conf/grader.yml"

/-- Whether a value is a text. -/
def isText (s : String) : Value → Bool
  | .single (.text t) => t == s
  | _ => false

theorem eq_of_isText {s : String} {v : Value} (h : isText s v = true) :
    v = .single (.text s) := by
  unfold isText at h
  split at h
  · rw [beq_iff_eq.1 h]
  · cases h

/-- Entries that are texts. -/
def texts (said : List (String × String)) : List (Value × Value) :=
  said.map fun e => (.single (.text e.1), .single (.text e.2))

/-- Whether the file holds a mapping with certain texts at certain keys, and no more. -/
def holds (text : String) (said : List (String × String)) : Bool :=
  match (configured text).tree.read (configured text).home file with
  | .ok data =>
    match Value.ofSource (.ofBytes data) with
    | .ok (.map entries) =>
      entries.length == said.length &&
        (entries.zip said).all fun e => isText e.2.1 e.1.1 && isText e.2.2 e.1.2
    | _ => false
  | .error _ => false

theorem eq_of_said {said : List (String × String)} (length : entries.length = said.length)
    (same : (entries.zip said).all (fun e => isText e.2.1 e.1.1 && isText e.2.2 e.1.2) = true) :
    entries = texts said := by
  induction entries generalizing said with
  | nil => rw [List.eq_nil_of_length_eq_zero length.symm, texts, List.map_nil]
  | cons e rest ih =>
    cases said with
    | nil => cases length
    | cons f more =>
      rw [List.zip_cons_cons, List.all_cons, Bool.and_eq_true, Bool.and_eq_true] at same
      obtain ⟨⟨key, value⟩, later⟩ := same
      rw [texts, List.map_cons, ← eq_of_isText key, ← eq_of_isText value,
        ih (Nat.succ.inj length) later, texts]

theorem holdsMapping_of_holds (text : String) (said : List (String × String))
    (h : holds text said = true) : HoldsMapping file (configured text) (texts said) := by
  unfold holds at h
  split at h
  · next data read =>
    split at h
    · next entries held =>
      obtain ⟨length, same⟩ := Bool.and_eq_true_iff.1 h
      exact holdsMapping_of_read read (eq_of_said (beq_iff_eq.1 length) same ▸ held)
    · cases h
  · cases h

/-- What the settings of a file of texts are. -/
theorem exists_load {text : String} {said : List (String × String)} (h : holds text said = true)
    {α : Type} {f : Settings → α} {a : α}
    (read : (ofValue file.parent (.map (texts said))).toOption.map f = some a) :
    ∃ s, load file (configured text) = (.ok s, configured text) ∧ f s = a := by
  cases accepted : ofValue file.parent (.map (texts said)) with
  | error e =>
    rw [accepted] at read
    cases read
  | ok s =>
    rw [accepted] at read
    exact ⟨s, load_of_holdsMapping (holdsMapping_of_holds text said h) accepted,
      Option.some.inj read⟩

/-- Settings with a relative path, one that leads up, and an absolute one. -/
def course : String :=
  "project_dir: lean\nsubmission_dir: ../up//./load\nresults_path: /out//results.json\n"

/-- What these settings say. -/
def courseTexts : List (String × String) :=
  [("project_dir", "lean"), ("submission_dir", "../up//./load"),
    ("results_path", "/out//results.json")]

/-- The settings of a course: all paths are where they should be. -/
theorem course_seenFrom : ∃ entries s m', HoldsMapping file (configured course) entries ∧
    load file (configured course) = (.ok s, m') ∧ SeenFrom (.ofString "conf") entries s ∧
    s.project = ⟨.relative, ["conf", "lean"]⟩ ∧
    s.submissions = ⟨.relative, ["conf", "..", "up", "load"]⟩ ∧
    s.results = ⟨.single, ["out", "results.json"]⟩ ∧
    s.provisioning = ⟨.relative, ["autograder_config.json"]⟩ := by
  have said : holds course courseTexts = true := by decide +kernel
  have held := holdsMapping_of_holds course courseTexts said
  obtain ⟨s, loaded, -⟩ :=
    exists_load said (f := (·.reference)) (a := "Assignment") (by decide +kernel)
  have seen := seenFrom_of_load held loaded
  have dir : file.parent = .ofString "conf" := by decide +kernel
  rw [dir] at seen
  refine ⟨_, s, _, held, loaded, seen, ?_, ?_, ?_, ?_⟩
  · refine (seen.relative .project "lean" ?_ (by decide) (by decide +kernel)).trans
      (by decide +kernel)
    simp [Has, texts, courseTexts, PathSetting.key]
  · refine (seen.relative .submissions "../up//./load" ?_ (by decide) (by decide +kernel)).trans
      (by decide +kernel)
    simp [Has, texts, courseTexts, PathSetting.key]
  · refine (seen.absolute .results "/out//results.json" ?_ (by decide +kernel)).trans
      (by decide +kernel)
    simp [Has, texts, courseTexts, PathSetting.key]
  · refine (seen.absent .provisioning ?_).trans (by decide +kernel)
    simp [Has, texts, courseTexts, PathSetting.key]

/-- **An empty path is not seen from the directory of the file**: it is the working directory. -/
theorem empty_not_seenFrom : ∃ entries s m',
    HoldsMapping file (configured "project_dir: \"\"\n") entries ∧
    Has entries PathSetting.project.key (.single (.text "")) ∧
    load file (configured "project_dir: \"\"\n") = (.ok s, m') ∧
    s.project = {} ∧ file.parent.child "" = ⟨.relative, ["conf"]⟩ := by
  have said : holds "project_dir: \"\"\n" [("project_dir", "")] = true := by decide +kernel
  obtain ⟨s, loaded, project⟩ := exists_load said (f := (·.project)) (a := {}) (by decide +kernel)
  exact ⟨_, s, _, holdsMapping_of_holds _ _ said, by simp [Has, texts, PathSetting.key], loaded,
    project, by decide +kernel⟩

end configured

end Settings

end ProofGrading
