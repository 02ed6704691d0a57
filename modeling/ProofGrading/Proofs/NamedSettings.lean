import Mathlib.Data.List.Infix
import ProofGrading.Proofs.CallOrder
import ProofGrading.Proofs.Documents
import ProofGrading.Proofs.SettingsFile
import ProofGrading.Proofs.ToldSettings

/-!
# Proofs/NamedSettings — a settings file that is named

The option for the settings file says which file is meant (`CommandLine.settings_of_named`).  A file
is taken as settings if it holds nothing or a mapping that is accepted (`Settings.Settles`), or if
it is passed over for the defaults (`Settings.IsPassedOver`).  Main statement: any other file that
is named ends the run, before any program is called, with a document that says so
(`gradingProgram_refuses_settings`).
-/

namespace ProofGrading

/-! ## The option -/

namespace CommandLine

variable {ps : List Part} {argument name file : String} {part : Part} {spec : Spec}
  {before after : List String} {inv : Invocation}

/-- Arguments after which the next one is not read as an option: the end of the options, and the
option for the settings file without a value, however short. -/
def waiting : List String := ["--", "--c", "--co", "--con", "--conf", "--confi", "--config"]

theorem splitValue_snd_eq_none (h : (splitValue argument).2 = none) :
    (splitValue argument).1 = argument := by
  unfold splitValue at h ⊢
  dsimp only at h ⊢
  split
  · rfl
  · next hs =>
    rw [hs] at h
    cases h

theorem mem_candidates (h : spec ∈ candidates specs name) :
    spec ∈ specs ∧ name.toList <+: spec.name.toList := by
  unfold candidates at h
  split at h
  · exact (List.mem_filter.1 h).imp_right List.isPrefixOf_iff_prefix.1
  · next exact =>
    obtain ⟨among, same⟩ := List.mem_filter.1 h
    exact ⟨among, beq_iff_eq.1 same ▸ List.prefix_rfl⟩

/-- What starts with two hyphens and is how the option for the settings file starts. -/
theorem mem_waiting_of_mem_inits (long : "--".toList.isPrefixOf argument.toList = true)
    (begins : argument.toList ∈ "--config".toList.inits) : argument ∈ waiting := by
  have starts : ∀ cs ∈ "--config".toList.inits, "--".toList.isPrefixOf cs = true →
      String.ofList cs ∈ waiting := by
    decide
  have found := starts _ begins long
  rwa [String.ofList_toList] at found

/-- Only the option for the settings file waits for a value. -/
theorem mem_waiting_of_wantsValue (long : "--".toList.isPrefixOf argument.toList = true)
    (h : longOption specs argument = .wantsValue name) : argument ∈ waiting := by
  unfold longOption at h
  dsimp only at h
  split at h
  · cases h
  · next o only =>
    have among : o ∈ candidates specs (splitValue argument).1 := by
      rw [only]
      exact List.mem_singleton_self o
    split at h
    · next takes =>
      split at h
      · cases h
      · next alone =>
        obtain ⟨spec, begins⟩ := mem_candidates among
        have config : ∀ o ∈ specs, o.takesValue = true → o.name = "--config" := by decide
        rw [splitValue_snd_eq_none alone, config o spec takes, ← List.mem_inits] at begins
        exact mem_waiting_of_mem_inits long begins
    · split at h <;> cases h
  · cases h

/-- An option that is not among those of the program is not accepted. -/
theorem isKnown_of_unknown (h : longOption specs argument = .unknown part spec) :
    isKnown part = false := by
  unfold longOption at h
  dsimp only at h
  split at h
  · next none_meant =>
    cases h
    have not_exact : (specs.filter (·.name == (splitValue argument).1)) = [] := by
      unfold candidates at none_meant
      split at none_meant
      · assumption
      · next exact => exact absurd none_meant exact
    rw [isKnown, List.any_eq_false]
    exact fun o among => List.filter_eq_nil_iff.1 not_exact o among
  · split at h
    · split at h <;> cases h
    · split at h <;> cases h
  · cases h

theorem parts_config (file : String) (rest : List String) :
    parts specs (("--config=" ++ file) :: rest) =
      (parts specs rest).map (.option "--config" (some file) :: ·) := by
  have chars : ("--config=" ++ file).toList =
      '-' :: '-' :: 'c' :: 'o' :: 'n' :: 'f' :: 'i' :: 'g' :: '=' :: file.toList := by
    rw [String.toList_append]
    rfl
  have split : splitValue ("--config=" ++ file) = ("--config", some file) := by
    have cut : ("--config=" ++ file).toList.span (· != '=') =
        (['-', '-', 'c', 'o', 'n', 'f', 'i', 'g'], '=' :: file.toList) := by
      rw [chars]
      rfl
    unfold splitValue
    rw [cut]
    simp
  have meant : candidates specs "--config" = [⟨"--config", true⟩] := by decide
  have read : longOption specs ("--config=" ++ file) =
      .complete (.option "--config" (some file)) := by
    rw [longOption, split]
    dsimp only
    rw [meant]
    rfl
  have single : (("--config=" ++ file) == "--") = false := by
    rw [beq_eq_false_iff_ne, ne_eq, ← String.toList_inj, chars]
    exact nofun
  have long : "--".toList.isPrefixOf ("--config=" ++ file).toList = true := by
    rw [chars]
    rfl
  rw [parts, single, long, read]
  rfl

/-- **An option that is read is among the parts**, wherever it stands. -/
theorem mem_valuesOf_of_named (free : ∀ a ∈ before, a ∉ waiting)
    (read : parts specs (before ++ ("--config=" ++ file) :: after) = .ok ps)
    (known : ps.all isKnown = true) : some file ∈ valuesOf ps "--config" := by
  induction before generalizing ps with
  | nil =>
    rw [List.nil_append, parts_config] at read
    obtain ⟨ps', -, rfl⟩ := exists_of_map_eq_ok read
    exact List.mem_cons_self ..
  | cons a rest ih =>
    obtain ⟨not_waiting, free⟩ := List.forall_mem_cons.1 free
    have go_on (front : List Part)
        (read : (parts specs (rest ++ ("--config=" ++ file) :: after)).map (front ++ ·) = .ok ps) :
        some file ∈ valuesOf ps "--config" := by
      obtain ⟨ps', later, rfl⟩ := exists_of_map_eq_ok read
      rw [List.all_append, Bool.and_eq_true] at known
      rw [valuesOf, List.filterMap_append]
      exact List.mem_append_right _ (ih free later known.2)
    have not_end : ¬(a == "--") = true := by
      rw [beq_iff_eq]
      rintro rfl
      exact not_waiting (by decide)
    rw [List.cons_append, parts, if_neg not_end] at read
    split at read
    · next long =>
      split at read
      · next part _ => exact go_on [part] read
      · next part spec unknown =>
        obtain ⟨ps', -, rfl⟩ := exists_of_map_eq_ok read
        rw [List.all_cons, isKnown_of_unknown unknown] at known
        cases known
      · cases read
      · next name waits => exact absurd (mem_waiting_of_wantsValue long waits) not_waiting
    · split at read
      · exact go_on _ read
      · exact go_on [.name a] read

/-- **The settings file that is named is the one that is meant.** -/
theorem settings_of_named (free : ∀ a ∈ before, a ∉ waiting)
    (accepted : parse (before ++ ("--config=" ++ file) :: after) = .ok inv) :
    inv.settings = file := by
  unfold parse at accepted
  split at accepted
  · cases accepted
  · next ps read =>
    dsimp only at accepted
    split at accepted
    · cases accepted
    · split at accepted
      · cases accepted
      · next once =>
        simp only [Bool.or_eq_true, decide_eq_true_eq, Bool.not_eq_true', not_or] at once
        have among := mem_valuesOf_of_named free read (by simpa using once.2)
        split at accepted
        · cases accepted
        · cases accepted
          obtain ⟨v, only⟩ : ∃ v, valuesOf ps "--config" = [v] := by
            have some_value := List.length_pos_of_mem among
            exact List.length_eq_one_iff.1 (by omega)
          rw [only] at among ⊢
          rw [← List.mem_singleton.1 among]
          rfl

/-- Two names and the option are a module and a file to grade, and the settings file. -/
theorem parse_named {a b : String} (ha : a.toList.head? ≠ some '-') (hb : b.toList.head? ≠ some '-')
    (file : String) : parse [a, b, "--config=" ++ file] =
      .ok { settings := file, given := some (a, b) } := by
  have read : parts specs [a, b, "--config=" ++ file] =
      .ok [.name a, .name b, .option "--config" (some file)] := by
    rw [parts_cons_of_name ha, parts_cons_of_name hb, parts_config, parts]
    rfl
  rw [parse, read]
  rfl

end CommandLine

/-! ## The file -/

namespace Settings

open Yaml (Value)

variable {p : Path} {m m' : Machine} {s : Settings}

/-- A file holds a YAML document with a value. -/
def HoldsValue (p : Path) (m : Machine) (v : Value) : Prop :=
  ∃ data, Job.readBytes p m = (.ok data, m) ∧ Value.ofSource (.ofBytes data) = .ok v

/-- **A file settles a run**: its document is empty, or a mapping that is accepted. -/
def Settles (p : Path) (m : Machine) : Prop :=
  ∃ v, HoldsValue p m v ∧
    (v = .single .null ∨ ∃ entries s, v = .map entries ∧ ofValue p.parent v = .ok s)

/-- **A file is passed over** for the defaults, though it settles nothing: the standard file that is
not there, and a document that is false, zero or empty without being nothing or a mapping. -/
def IsPassedOver (p : Path) (m : Machine) : Prop :=
  (p = standardFile ∧ m.tree.isThere m.home p = .ok false) ∨
    ∃ v, HoldsValue p m v ∧ v.isFalsy = true ∧ v ≠ .single .null ∧ ∀ entries, v ≠ .map entries

/-- **What is accepted as settings**: nothing, a mapping, and what passes for nothing. -/
theorem exists_load_iff : (∃ s, load p m = (.ok s, m)) ↔
    Settles p m ∨ ∃ v, HoldsValue p m v ∧ v.isFalsy = true ∧ v ≠ .single .null ∧
      ∀ entries, v ≠ .map entries := by
  simp only [load_eq_ok_iff]
  constructor
  · rintro ⟨s, -, data, v, read, held, accepted⟩
    by_cases nothing : v = .single .null
    · exact .inl ⟨v, ⟨data, read, held⟩, .inl nothing⟩
    · by_cases mapping : ∃ entries, v = .map entries
      · obtain ⟨entries, rfl⟩ := mapping
        exact .inl ⟨_, ⟨data, read, held⟩, .inr ⟨entries, s, rfl, accepted⟩⟩
      · have falsy : v.isFalsy = true := by
          by_contra some_value
          unfold ofValue at accepted
          rw [if_neg some_value] at accepted
          split at accepted
          · exact mapping ⟨_, rfl⟩
          · cases accepted
        exact .inr ⟨v, ⟨data, read, held⟩, falsy, nothing, not_exists.1 mapping⟩
  · have defaults {v : Value} (falsy : v.isFalsy = true) : ofValue p.parent v = .ok {} := by
      unfold ofValue
      rw [if_pos falsy]
    rintro (⟨v, ⟨data, read, held⟩, rfl | ⟨entries, s, -, accepted⟩⟩ |
      ⟨v, ⟨data, read, held⟩, falsy, -⟩)
    · exact ⟨_, trivial, data, _, read, held, defaults rfl⟩
    · exact ⟨s, trivial, data, v, read, held, accepted⟩
    · exact ⟨_, trivial, data, v, read, held, defaults falsy⟩

/-- Only the standard file need not be there. -/
theorem find_eq_load (h : ¬(p = standardFile ∧ m.tree.isThere m.home p = .ok false)) :
    find p m = load p m := by
  unfold find
  split
  · next standard =>
    have looked : Job.isThere p m = ((m.tree.isThere m.home p).mapError .files, m) := rfl
    cases there : m.tree.isThere m.home p with
    | error fault =>
      rw [there] at looked
      exact (Job.bind_error looked _).trans (Job.bind_error looked _).symm
    | ok found =>
      cases found with
      | true =>
        rw [there] at looked
        exact Job.bind_ok looked _
      | false => exact absurd ⟨beq_iff_eq.1 standard, there⟩ h
  · rfl

/-- Looking for settings leaves the machine as it is. -/
theorem eq_of_find {r : Except Failure Settings} (h : find p m = (r, m')) : m' = m := by
  have same : Machine.Lasting Eq := ⟨fun _ => rfl, Eq.trans⟩
  exact ((moves_find same p).at_end h).symm

/-- **When a run has settings**: the file settles it or is passed over. -/
theorem exists_find_iff : (∃ s, find p m = (.ok s, m)) ↔ Settles p m ∨ IsPassedOver p m := by
  by_cases absent : p = standardFile ∧ m.tree.isThere m.home p = .ok false
  · refine iff_of_true ?_ (.inr (.inl absent))
    obtain ⟨rfl, absent⟩ := absent
    exact ⟨{}, find_standardFile absent⟩
  · rw [find_eq_load absent, exists_load_iff, IsPassedOver, or_iff_right absent]

end Settings

/-! ## The program -/

open Settings (Settles IsPassedOver)

/-- Without settings no program is called. -/
theorem gradingProgram_quiet_of_unsettled {arguments : List String} {inv : Invocation}
    {m m₁ : Machine} {e : Failure} (accepted : CommandLine.parse arguments = .ok inv)
    (found : Settings.find (.ofString inv.settings) m = (.error e, m₁)) :
    m.Quiet (gradingProgram arguments m).2 := by
  obtain ⟨made, makes, rfl | ⟨s, m₂, settled, -⟩⟩ := GradingRun.calls_run inv m
  · rw [GradingRun.snd_gradingProgram accepted]
    exact makes
  · cases found.symm.trans settled

/-- **Settings that are named and cannot be used end the run**: no program is called, and the
document at the standard place says why, with exit code 1. -/
theorem gradingProgram_refuses_settings {before after : List String} {file : String}
    {inv : Invocation} {m : Machine} (free : ∀ a ∈ before, a ∉ CommandLine.waiting)
    (accepted : CommandLine.parse (before ++ ("--config=" ++ file) :: after) = .ok inv)
    (unsettled : ¬Settles (.ofString file) m) (looked_at : ¬IsPassedOver (.ofString file) m)
    (whole : Text.holdsHalf file = false)
    (writable : m.tree.CanWrite m.home ({} : Settings).results) :
    ∃ m' message, gradingProgram (before ++ ("--config=" ++ file) :: after) m =
        (.ok (.exited 1), m') ∧ m'.calls = m.calls ∧
      m'.tree.HoldsJson m'.home ({} : Settings).results
        (fatalDocument ("Grader configuration error: " ++ message)) := by
  obtain rfl := CommandLine.settings_of_named free accepted
  rcases found : Settings.find (.ofString inv.settings) m with ⟨r, m₁⟩
  obtain rfl := Settings.eq_of_find found
  cases r with
  | ok s => exact absurd (Settings.exists_find_iff.1 ⟨s, found⟩) (not_or.2 ⟨unsettled, looked_at⟩)
  | error e =>
    have told : Text.holdsHalf ("Grader configuration error: " ++ e.message) = false :=
      (Text.holdsHalf_ofList_append (Text.plain_of_all (by decide)) _).trans
        (Settings.holdsHalf_message_of_find whole found)
    have writes : ¬(Conclusion.unsettled e).IsUnwritable := by
      rintro ⟨reason, same, half⟩
      cases same
      exact Bool.false_ne_true (told.symm.trans half)
    obtain ⟨m', data, ended, bytes, read⟩ :=
      (GradingRun.Concludes.unsettled found).gradingProgram_ok accepted writable writes
    have holds := FileTree.holdsJson_of_read (isReadable_fatalDocument told) bytes read
    rw [reread_fatalDocument] at holds
    have quiet := gradingProgram_quiet_of_unsettled accepted found
    rw [ended] at quiet
    exact ⟨m', e.message, ended, quiet.calls.trans (List.append_nil _), holds⟩

/-- A machine with a settings file of that name, and the results of an earlier run. -/
def courseMachine (settings : String) : Machine :=
  { sampleMachine with
    tree :=
      { nodes := sampleMachine.tree.nodes ++
          [(["work", "course.yml"], .file settings.toUTF8)] } }

namespace courseMachine

/-- Whether the results can be written where their directory is. -/
def hasResults (m : Machine) : Bool :=
  match m.tree.locate m.home ({} : Settings).results.parent with
  | .ok ⟨_, some .directory⟩ =>
    match m.tree.locate m.home ({} : Settings).results with
    | .ok ⟨_, some (.file _)⟩ => true
    | _ => false
  | _ => false

theorem canWrite_of_hasResults {m : Machine} (h : hasResults m = true) :
    m.tree.CanWrite m.home ({} : Settings).results := by
  unfold hasResults at h
  split at h
  · next there =>
    split at h
    · next located => exact FileTree.canWrite_of_directory there located nofun
    · cases h
  · cases h

/-- Whether settings are refused. -/
def isRefused (m : Machine) : Bool :=
  match Settings.find (.ofString "course.yml") m with
  | (.error _, _) => true
  | _ => false

theorem not_settled_of_isRefused {m : Machine} (h : isRefused m = true) :
    ¬(Settles (.ofString "course.yml") m ∨ IsPassedOver (.ofString "course.yml") m) := by
  rw [← Settings.exists_find_iff]
  rintro ⟨s, found⟩
  rw [isRefused, found] at h
  cases h

/-- A timeout that is no number of seconds ends the run. -/
theorem refuses_timeout : ∃ m' message,
    gradingProgram ["Sheet", "hw.lean", "--config=course.yml"]
        (courseMachine "build_timeout_seconds: soon\n") = (.ok (.exited 1), m') ∧
      m'.calls = [] ∧ m'.tree.HoldsJson m'.home ({} : Settings).results
        (fatalDocument ("Grader configuration error: " ++ message)) := by
  have accepted := CommandLine.parse_named (a := "Sheet") (b := "hw.lean") (by decide) (by decide)
    "course.yml"
  have refused : isRefused (courseMachine "build_timeout_seconds: soon\n") = true := by
    decide +kernel
  obtain ⟨unsettled, looked_at⟩ := not_or.1 (not_settled_of_isRefused refused)
  have option : "--config=" ++ "course.yml" = "--config=course.yml" := by decide
  have free : ∀ a ∈ ["Sheet", "hw.lean"], a ∉ CommandLine.waiting := by decide
  have ends := gradingProgram_refuses_settings free accepted unsettled looked_at
    (by decide +kernel) (canWrite_of_hasResults (by decide +kernel))
  rw [List.cons_append, List.cons_append, List.nil_append, option] at ends
  exact ends

/-- Whether a file holds a list without items. -/
def holdsNoItems (p : Path) (m : Machine) : Bool :=
  match m.tree.read m.home p with
  | .ok data =>
    match Yaml.Value.ofSource (.ofBytes data) with
    | .ok (.list []) => true
    | _ => false
  | .error _ => false

theorem holdsValue_of_holdsNoItems {p : Path} {m : Machine} (h : holdsNoItems p m = true) :
    Settings.HoldsValue p m (.list []) := by
  unfold holdsNoItems at h
  split at h
  · next data read =>
    split at h
    · next held => exact ⟨data, Prod.ext (congrArg (Except.mapError Failure.files) read) rfl, held⟩
    · cases h
  · cases h

/-- Whether the program ends with exit code 0. -/
def isGraded (arguments : List String) (m : Machine) : Bool :=
  match gradingProgram arguments m with
  | (.ok (.exited 0), _) => true
  | _ => false

theorem exists_of_isGraded {arguments : List String} {m : Machine}
    (h : isGraded arguments m = true) :
    ∃ m', gradingProgram arguments m = (.ok (.exited 0), m') := by
  unfold isGraded at h
  split at h
  · next m' ended => exact ⟨m', ended⟩
  · cases h

/-- **A list without items is passed over**, and so is the standard file where it is named and not
there: the upload is looked for by the defaults, and the run ends with exit code 0. -/
theorem passes_over :
    Settings.HoldsValue (.ofString "course.yml") (courseMachine "[]\n") (.list []) ∧
    (courseMachine "[]\n").tree.CanWrite (courseMachine "[]\n").home ({} : Settings).results ∧
    (∃ m', gradingProgram ["Sheet", "hw.lean", "--config=course.yml"] (courseMachine "[]\n") =
      (.ok (.exited 0), m')) ∧
    ∃ m', gradingProgram ["Sheet", "hw.lean", "--config=grader_config.yml"] sampleMachine =
      (.ok (.exited 0), m') :=
  ⟨holdsValue_of_holdsNoItems (by decide +kernel), canWrite_of_hasResults (by decide +kernel),
    exists_of_isGraded (by decide +kernel), exists_of_isGraded (by decide +kernel)⟩

end courseMachine

end ProofGrading
