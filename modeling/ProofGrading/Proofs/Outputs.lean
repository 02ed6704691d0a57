import ProofGrading.Proofs.Footprint
import ProofGrading.Proofs.ResultsDocument

/-!
# Proofs/Outputs — the files that a run writes

A run puts files where its results go and, if it fetches its sources, where the sheet and the upload
go; beside these it may add the support library (`GradingRun.extends_run`).  Main statement: of the
files that were there the program keeps all but these, and adds no others
(`gradingProgram_keeps_files`); a library that is there is replaced only where the project is no
directory yet (`gradingProgram_replaces_library`).
-/

namespace ProofGrading

open FileTree (Scope Grows IsPlace)
open Job
open Machine (lasting_stays)

/-! ## The support library -/

section

variable {m₀ m : Machine} {scope : Scope} {project : Path}

/-- A library that is not in a directory that is there can be put there. -/
theorem Job.absent_of_isThere {t : FileTree} {home d : Location}
    (directory : t.locate home project = .ok ⟨d, some .directory⟩)
    (h : t.isThere home (project.child supportLibrary) = .ok false) :
    ∃ l, t.locate home (project.child supportLibrary) = .ok ⟨l, none⟩ := by
  obtain ⟨spelled, plain, -, walked⟩ := FileTree.locate_eq_ok_iff.1 directory
  have target_eq : project.child supportLibrary =
      ⟨project.root, project.names ++ [supportLibrary]⟩ :=
    Path.child_of_plain (by decide) project
  have names_spelled : (project.names ++ [supportLibrary]).all Text.isFileName = true := by
    rw [List.all_append, spelled]
    decide
  have names_plain : (project.names ++ [supportLibrary]).any
      (fun n => n.toList.contains '\x00') = false := by
    rw [List.any_append, plain]
    decide
  have found := (FileTree.walk_append walked).trans
    (t.walk_single d (show supportLibrary ≠ ".." by decide) (by decide))
  rw [target_eq] at h ⊢
  by_cases short : Text.nameSize (Path.text ⟨project.root, project.names ++ [supportLibrary]⟩) <
      FileTree.pathLimit
  · have located := FileTree.locate_eq_ok_iff.2 ⟨names_spelled, names_plain, short, found⟩
    rw [FileTree.isThere, FileTree.asks, located] at h
    cases free : t.node? (t.step d supportLibrary) with
    | none => exact ⟨_, free ▸ located⟩
    | some node => rw [free] at h; cases h
  · have long : t.locate home ⟨project.root, project.names ++ [supportLibrary]⟩ =
        .error .nameTooLong := by
      simp only [FileTree.locate, names_spelled, names_plain]
      simp [Nat.not_lt.1 short]
    rw [FileTree.isThere, FileTree.asks, long] at h
    cases h

/-- **The support library** is put where nothing stands, if the project is a directory. -/
theorem Job.stays_installSupportLibrary
    (covers : ∀ l n, Scope.path m₀.tree m₀.home (project.child supportLibrary) l n →
      (n = none ∨ ¬∃ d, m.tree.locate m.home project = .ok ⟨d, some .directory⟩) → scope l n) :
    m₀.Stays scope m (installSupportLibrary project m).2 := by
  refine moves_bind_at (lasting_stays m₀ scope) (within_look _ m) fun there m₁ looked => ?_
  obtain rfl := eq_of_look looked
  split
  · exact within_done _ m₁
  next missing =>
  have absent : m₁.tree.isThere m₁.home (project.child supportLibrary) = .ok false := by
    obtain rfl : there = false := by simpa using missing
    exact eq_ok_of_mapError (Prod.mk.inj looked).1
  have copies : ∀ source,
      m₀.Stays scope m₁ (copyFile source (project.child supportLibrary) m₁).2 := by
    intro source
    by_cases directory : ∃ d, m₁.tree.locate m₁.home project = .ok ⟨d, some .directory⟩
    · obtain ⟨d, located⟩ := directory
      obtain ⟨l, free⟩ := absent_of_isThere located absent
      refine moves_bind_at (lasting_stays m₀ scope) (within_makeDirectories _ m₁)
        fun _ m₂ made => ?_
      rw [Path.parent_child_of_plain (by decide), Job.makeDirectories,
        FileTree.makeDirectories_of_directory located] at made
      cases made
      refine stays_change fun tree reaches copied => ?_
      obtain ⟨target, data, -, written, target_eq⟩ := FileTree.exists_of_copy copied
      obtain rfl : target = project.child supportLibrary := by
        obtain same | ⟨⟨dir, directory⟩, -⟩ := target_eq
        · exact same
        · cases directory.symm.trans free
      refine FileTree.grows_write reaches.sound.tree reaches.sound.home (fun k n at_target => ?_)
        written
      cases free.symm.trans at_target
      refine covers l none (.inl ?_) (.inl rfl)
      exact (FileTree.isPlace_congr reaches.aliases).1
        (reaches.home ▸ FileTree.isPlace_of_locate free)
    · exact within_copyFile (fun l n at_target => covers l n at_target (.inr directory)) m₁
  refine moves_bind_at (lasting_stays m₀ scope) (within_machine m₁) fun m' m₂ same => ?_
  cases same
  exact moves_bind_at (lasting_stays m₀ scope) (copies _) fun _ m₃ _ =>
    ((reads_printLine _).within.bind fun _ => within_done _) m₃

end

/-! ## Where the sources go -/

namespace Job

variable {m₀ : Machine} {scope : Scope}

/-- What a fetch does in its temporary directory. -/
def cloneAndCopy (template : TemplateSource) (target : Path) (timeout : Int) (dir : Path) :
    Job Unit := do
  cloneTemplate template (dir.child "template") timeout
  if !(← isFile (template.sheetIn dir)) then
    fail (.configuration s!"Assignment file {template.sheet} not found in {template.repository}")
  else copyFile (template.sheetIn dir) target

theorem fetchTemplate_eq (template : TemplateSource) (target : Path) (timeout : Int) :
    fetchTemplate template target timeout = (do
      printLine s!"Fetching reference sheet from {template.url}..."
      withScratch (cloneAndCopy template target timeout)
      printLine s!"  Reference sheet placed at {target.text}"
      done target) := rfl

theorem within_cloneAndCopy (template : TemplateSource) {target : Path} (timeout : Int)
    (covers : ∀ l n, Scope.path m₀.tree m₀.home target l n → scope l n) (x : String) :
    Within m₀ (scope.orBelow (m₀.scratch ++ [x]))
      (cloneAndCopy template target timeout ⟨.single, m₀.scratch ++ [x]⟩) := by
  have clones : Within m₀ (scope.orBelow (m₀.scratch ++ [x])) (cloneTemplate template
      (Path.child ⟨.single, m₀.scratch ++ [x]⟩ "template") timeout) := by
    refine Within.bind (within_call fun y gives l n below => .inr ?_) fun reply => ?_
    · have given := (Toolchain.gives_clone_iff template).1 gives
      rw [Path.child_of_plain (by decide)] at given
      rwa [Path.text_inside_injective given]
    · cases reply with
      | ended exit => exact .ite (fun _ => within_done _) fun _ => within_fail _
      | _ => exact within_fail _
  exact clones.bind fun _ => (within_look _).bind fun there => .ite (fun _ => within_fail _)
    fun _ => within_copyFile fun l n at_target => .inl (covers l n at_target)

/-- **A fetch** puts the sheet where its path leads, and nothing else outside its temporary
directory. -/
theorem within_fetchTemplate (template : TemplateSource) {target : Path} (timeout : Int)
    (covers : ∀ l n, Scope.path m₀.tree m₀.home target l n → scope l n) :
    Within m₀ scope (fetchTemplate template target timeout) :=
  (reads_printLine _).within.bind fun _ =>
    (within_withScratch fun x _ => within_cloneAndCopy template timeout covers x).bind fun _ =>
      (reads_printLine _).within.bind fun _ => within_done _

end Job

namespace GradingRun

variable {m₀ m m' : Machine} {s : Settings} {inv : Invocation} {given : Option (String × String)}
  {scope : Scope}

/-- **The files that a run copies**: the sheet and the upload, if it fetches them. -/
inductive Copied (s : Settings) (given : Option (String × String)) : Path → Prop
  | sheet (unnamed : ¬AreGiven given) : Copied s given s.sheetPath
  | upload (unnamed : ¬AreGiven given) : Copied s given s.uploadPath

/-- Nothing is done where the sources are given. -/
theorem eq_of_sources {r : Except Failure (String × Path × List String)} (named : AreGiven given)
    (h : sources s given m = (r, m')) : m' = m := by
  match given, named with
  | some (home, file), named =>
    have some_name : ¬home.isEmpty = true := fun h => named (String.isEmpty_iff.1 h)
    unfold sources at h
    dsimp only at h
    rw [if_neg some_name] at h
    obtain ⟨f, failed, -⟩ | ⟨there, m₁, looked, ended⟩ := bind_cases h
    · exact eq_of_look failed
    · rw [← eq_of_look looked]
      split at ended <;> exact (Prod.mk.inj ended).2.symm

theorem within_fetched (covers : ∀ p, Copied s none p →
      ∀ l n, Scope.path m₀.tree m₀.home p l n → scope l n) : Within m₀ scope (sources s none) :=
  (reads_loadTemplateSource _).within.bind fun template =>
    (within_fetchTemplate template _ (covers _ (.sheet id))).bind fun _ =>
      (reads_selectSubmission _).within.bind fun _ => (reads_printLine _).within.bind fun _ =>
        Within.bind ((within_copyFile (covers _ (.upload id))).bind fun _ => within_done _)
          fun _ => within_done _

/-- What a file is copied to stands in a directory. -/
theorem directory_of_copyFile {source target : Path} (reaches : m₀.Reaches m)
    (h : copyFile source target m = (.ok (), m')) :
    ∃ d, m'.tree.locate m'.home target.parent = .ok ⟨d, some .directory⟩ := by
  obtain ⟨_, m₁, made, copied⟩ := bind_eq_ok_iff.1 h
  have reaches₁ := Within.reaches (within_makeDirectories _) reaches made
  obtain ⟨d, there⟩ := directory_of_made made
  unfold change at copied
  split at copied
  · next tree copied_tree =>
    cases copied
    have grows := FileTree.grows_copy reaches₁.sound.tree reaches₁.sound.home copied_tree
    exact ⟨d, grows.locate_directory there⟩
  · cases copied

/-- **With fetched sources the project is a directory.** -/
theorem Fetches.directory {selection : Selection} {sheet upload : ByteArray}
    (h : Fetches s m selection sheet upload m') (reaches : m₀.Reaches m) :
    ∃ d, m'.tree.locate m'.home s.project = .ok ⟨d, some .directory⟩ := by
  obtain @⟨template, _, m₁, m₂, m₃, m₄, loaded, fetched, -, selected, -, told, copied⟩ := h
  have reaches := Within.reaches (reads_loadTemplateSource _).within reaches loaded
  have reaches := Within.reaches (within_fetchTemplate _ _ fun _ _ _ => trivial) reaches fetched
  have reaches := Within.reaches (reads_selectSubmission _).within reaches selected
  have reaches := Within.reaches (reads_printLine _).within reaches told
  have directory := directory_of_copyFile reaches copied
  rwa [Settings.uploadPath, Path.parent_child_of_plain (by decide)] at directory

/-- **The support library may be replaced**: the sources are given, and the project is no
directory when the run starts. -/
def Unprepared (m : Machine) (s : Settings) (given : Option (String × String)) : Prop :=
  AreGiven given ∧ ¬∃ d, m.tree.locate m.home s.project = .ok ⟨d, some .directory⟩

/-- Where a run copies files to: where the sheet and the upload go, and where the support library
goes if nothing is there. -/
def CopiesTo (m : Machine) (s : Settings) (given : Option (String × String)) : Scope := fun l n =>
  (∃ p, Copied s given p ∧ Scope.path m.tree m.home p l n) ∨
    Scope.path m.tree m.home s.libraryPath l n ∧ (n = none ∨ Unprepared m s given)

/-- Where a run puts files: where its results go, and where it copies files to. -/
def reach (m : Machine) (s : Settings) (given : Option (String × String)) : Scope := fun l n =>
  m.tree.IsPlace m.home s.results l ∨ CopiesTo m s given l n

theorem within_sources (s : Settings) (given : Option (String × String)) :
    Within m₀ (reach m₀ s given) (sources s given) := by
  by_cases named : AreGiven given
  · intro m
    rcases ended : sources s given m with ⟨r, m'⟩
    obtain rfl := eq_of_sources named ended
    exact fun _ => .refl m'
  · rw [sources_of_not_areGiven s named]
    refine within_fetched fun p copied l n at_target => .inr (.inl ⟨p, ?_, at_target⟩)
    cases copied with
    | sheet => exact .sheet named
    | upload => exact .upload named

/-- **A run up to the report** puts files within its reach. -/
theorem stays_report (s : Settings) (inv : Invocation) (sound : m.IsSound) :
    m.Stays (reach m s inv.given) m (report s inv m).2 := by
  refine moves_bind_at (lasting_stays m _) (within_sources s inv.given m) fun found m₁ fetched => ?_
  refine moves_bind_at (lasting_stays m _) (stays_installSupportLibrary ?_) fun _ m₂ _ =>
    within_gradeSubmission _ _ _ _ m₂
  intro l n at_target allowed
  refine .inr (.inr ⟨at_target, allowed.imp_right fun no_directory => ?_⟩)
  by_cases named : AreGiven inv.given
  · obtain rfl := eq_of_sources named fetched
    exact ⟨named, no_directory⟩
  · rw [sources_of_not_areGiven s named] at fetched
    obtain ⟨selection, sheet, upload, fetches, -⟩ := fetches_of_ok fetched
    exact absurd (fetches.directory (.refl sound)) no_directory

/-- Giving up puts a file where the results go. -/
theorem within_giveUp {results : Path} (told reason : String) (code : Nat)
    (covers : ∀ l n, m₀.tree.IsPlace m₀.home results l → scope l n) :
    Within m₀ scope (giveUp results told reason code) :=
  (reads_printLine _).within.bind fun _ => (within_writeText _ covers).bind fun _ => within_done _

theorem within_conclude {results : Path} (ended : Except Failure Unit)
    (covers : ∀ l n, m₀.tree.IsPlace m₀.home results l → scope l n) :
    Within m₀ scope (conclude results ended) := by
  cases ended with
  | ok => exact within_done _
  | error f =>
    obtain ⟨said, gives_up⟩ := conclude_error results f
    exact gives_up ▸ within_giveUp said _ _ covers

theorem stays_gradeAndWrite (s : Settings) (inv : Invocation) (sound : m.IsSound) :
    m.Stays (reach m s inv.given) m (gradeAndWrite s inv m).2 :=
  moves_bind_at (lasting_stays m _) (stays_report s inv sound) fun _ m₁ _ =>
    ((within_writeText _ fun _ _ => .inl).bind fun _ => (reads_printLine _).within) m₁

/-- **A run puts files within its reach**, whatever it ends with. -/
theorem extends_run {m₁ : Machine} (sound : m.IsSound)
    (settled : Settings.find (.ofString inv.settings) m = (.ok s, m₁)) :
    m.Extends (reach m s inv.given) (run inv m).2 := by
  have printed : m.Prints m₁ := (Settings.reads_find _).at_end settled
  have first : m.Stays (reach m s inv.given) m m₁ := Machine.Prints.stays printed
  have reaches := (first (.refl sound)).reaches (.refl sound)
  rcases graded : gradeAndWrite s inv m₁ with ⟨ended, m₂⟩
  rw [run_of_settled settled graded]
  have same : reach m₁ s inv.given = reach m s inv.given := by
    rw [Machine.Prints] at printed
    rw [printed]
    rfl
  have second := stays_gradeAndWrite s inv reaches.sound (.refl reaches.sound)
  rw [graded, same] at second
  have third : m.Stays (reach m s inv.given) m₂ (conclude s.results ended m₂).2 :=
    within_conclude ended (fun _ _ => .inl) m₂
  exact (first (.refl sound)).trans (second.trans (third (second.reaches reaches)))

/-- Without settings a run puts a file at the standard place for results. -/
theorem extends_run_of_unsettled {f : Failure} {m₁ : Machine} (sound : m.IsSound)
    (unsettled : Settings.find (.ofString inv.settings) m = (.error f, m₁)) :
    m.Extends (fun l _ => m.tree.IsPlace m.home ({} : Settings).results l) (run inv m).2 := by
  have printed : m.Prints m₁ := (Settings.reads_find _).at_end unsettled
  obtain ⟨said, gives_up⟩ := run_of_unsettled (Settings.raises_find _ _ _ _ unsettled).2 unsettled
  rw [gives_up]
  exact (lasting_stays m _).trans (Machine.Prints.stays printed)
    (within_giveUp _ _ _ (fun _ _ => id) m₁) (.refl sound)

/-- A run starts with settings, and with sources that are given or not. -/
def Starts (arguments : List String) (m : Machine) (s : Settings)
    (given : Option (String × String)) : Prop :=
  ∃ inv m₁, CommandLine.parse arguments = .ok inv ∧ inv.given = given ∧
    Settings.find (.ofString inv.settings) m = (.ok s, m₁)

/-- The settings and the sources of a run that is given two names. -/
theorem eq_of_starts_names {a b : String} (ha : a.toList.head? ≠ some '-')
    (hb : b.toList.head? ≠ some '-') {s : Settings} (starts : Starts [a, b] m s given) :
    given = some (a, b) ∧ (Settings.find Settings.standardFile m).1 = .ok s := by
  obtain ⟨inv, m₁, accepted, rfl, settled⟩ := starts
  cases (CommandLine.parse_names ha hb).symm.trans accepted
  exact ⟨rfl, congrArg Prod.fst settled⟩

/-- **Where the results of the program go**: where the settings say, or the standard place without
settings. -/
inductive ResultsPath (arguments : List String) (m : Machine) : Path → Prop
  | unsettled {inv : Invocation} {f : Failure} {m₁ : Machine}
      (accepted : CommandLine.parse arguments = .ok inv)
      (unsettled : Settings.find (.ofString inv.settings) m = (.error f, m₁)) :
      ResultsPath arguments m ({} : Settings).results
  | settled {s : Settings} {given : Option (String × String)}
      (starts : Starts arguments m s given) : ResultsPath arguments m s.results

/-- Where the program puts files. -/
def programReach (arguments : List String) (m : Machine) : Scope := fun l n =>
  (∃ p, ResultsPath arguments m p ∧ m.tree.IsPlace m.home p l) ∨
    ∃ s given, Starts arguments m s given ∧ CopiesTo m s given l n

theorem extends_gradingProgram (arguments : List String) (sound : m.IsSound) :
    m.Extends (programReach arguments m) (gradingProgram arguments m).2 := by
  cases accepted : CommandLine.parse arguments with
  | error refusal =>
    have printed : m.Prints (gradingProgram arguments m).2 := by
      rw [gradingProgram, accepted]
      cases refusal <;> rfl
    exact printed.stays (.refl sound)
  | ok inv =>
    rw [gradingProgram_eq accepted, snd_bind_pure]
    rcases settled : Settings.find (.ofString inv.settings) m with ⟨found, m₁⟩
    cases found with
    | error f =>
      exact (extends_run_of_unsettled sound settled).mono fun l n at_target =>
        .inl ⟨_, .unsettled accepted settled, at_target⟩
    | ok s =>
      have starts : Starts arguments m s inv.given := ⟨inv, m₁, accepted, rfl, settled⟩
      refine (extends_run sound settled).mono fun l n reached => ?_
      exact reached.imp (fun place => ⟨_, .settled starts, place⟩)
        fun copies => ⟨s, _, starts, copies⟩

/-- **The files that the program writes**, whether or not they are there: its results, and what it
copies. -/
def Target (arguments : List String) (m : Machine) (p : Path) : Prop :=
  ResultsPath arguments m p ∨ ∃ s given, Starts arguments m s given ∧ Copied s given p

end GradingRun

open GradingRun (Starts Copied Unprepared Target)

/-- In a directory that is no target nothing stands. -/
theorem FileTree.place_of_path {t t₀ : FileTree} {home l : Location} {p : Path} {n : Option Node}
    (sound : t.IsSound) (there : t.node? l ≠ none) (at_target : Scope.path t₀ home p l n)
    (no_directory : ∀ d, t₀.IsPlace home p d → t.node? d ≠ some .directory) :
    t₀.IsPlace home p l := by
  obtain place | ⟨dir, name, rfl, place⟩ := at_target
  · exact place
  · exact absurd (sound.inDirectory dir name there) (no_directory dir place)

/-- **The program writes nothing but its own outputs.**  On a sound machine, with programs that keep
to their temporary directories and no directory where a file is to be copied, a file that was there
keeps its bytes unless it is a target, or the support library of a project that was not prepared;
and a file that is new is a target or the support library.  That is so whatever the run ends
with. -/
theorem gradingProgram_keeps_files (arguments : List String) {m m' : Machine}
    (ended : (gradingProgram arguments m).2 = m') (sound : m.IsSound)
    (confined : ∀ made, m.Makes made m' → m.Confined made)
    (files : ∀ s given, Starts arguments m s given → ∀ p, Copied s given p ∨ p = s.libraryPath →
      ∀ l, m.tree.IsPlace m.home p l → m'.tree.node? l ≠ some .directory) :
    (∀ l data, m.tree.node? l = some (.file data) → m'.tree.node? l = some (.file data) ∨
        (∃ p, Target arguments m p ∧ m.tree.IsPlace m.home p l) ∨
        ∃ s given, Starts arguments m s given ∧ Unprepared m s given ∧
          m.tree.IsPlace m.home s.libraryPath l) ∧
      ∀ l data, m'.tree.node? l = some (.file data) → m.tree.node? l = none →
        (∃ p, Target arguments m p ∧ m.tree.IsPlace m.home p l) ∨
          ∃ s given, Starts arguments m s given ∧ m.tree.IsPlace m.home s.libraryPath l := by
  have ext := GradingRun.extends_gradingProgram arguments sound
  rw [ended] at ext
  obtain ⟨made, makes, within⟩ := ext.within
  have grows := within (confined made makes)
  constructor
  · intro l data there
    by_cases reached : GradingRun.programReach arguments m l (some (.file data))
    · have place : ∀ s given, Starts arguments m s given →
          ∀ p, Copied s given p ∨ p = s.libraryPath →
          Scope.path m.tree m.home p l (some (.file data)) → m.tree.IsPlace m.home p l :=
        fun s given starts p hp at_target =>
          FileTree.place_of_path sound.tree (there ▸ Option.some_ne_none _) at_target
            fun d at_dir directory =>
              files s given starts p hp d at_dir (grows.directory d directory)
      obtain ⟨p, results, at_target⟩ | ⟨s, given, starts, ⟨p, copied, at_target⟩ |
        ⟨at_target, absent | unprepared⟩⟩ := reached
      · exact .inr (.inl ⟨p, .inl results, at_target⟩)
      · exact .inr (.inl ⟨p, .inr ⟨s, given, starts, copied⟩,
          place s given starts p (.inl copied) at_target⟩)
      · cases absent
      · exact .inr (.inr ⟨s, given, starts, unprepared,
          place s given starts _ (.inr rfl) at_target⟩)
    · exact .inl (grows.kept l data reached there)
  · intro l data new free
    obtain ⟨n, reached⟩ : ∃ n, GradingRun.programReach arguments m l n := by
      by_contra out
      have old := grows.fresh l data (fun n reached => out ⟨n, reached⟩) new
      cases old.symm.trans free
    have place : ∀ s given, Starts arguments m s given → ∀ p, Copied s given p ∨ p = s.libraryPath →
        Scope.path m.tree m.home p l n → m.tree.IsPlace m.home p l :=
      fun s given starts p hp at_target =>
        FileTree.place_of_path (grows.sound sound.tree) (new ▸ Option.some_ne_none _) at_target
          (files s given starts p hp)
    obtain ⟨p, results, at_target⟩ | ⟨s, given, starts, ⟨p, copied, at_target⟩ | ⟨at_target, -⟩⟩ :=
      reached
    · exact .inl ⟨p, .inl results, at_target⟩
    · exact .inl ⟨p, .inr ⟨s, given, starts, copied⟩,
        place s given starts p (.inl copied) at_target⟩
    · exact .inr ⟨s, given, starts, place s given starts _ (.inr rfl) at_target⟩

instance : DecidableEq Node
  | .file a, .file b => decidable_of_iff (a.data = b.data) (by rw [← ByteArray.ext_iff]; simp)
  | .directory, .directory => .isTrue rfl
  | .file _, .directory => .isFalse fun h => by cases h
  | .directory, .file _ => .isFalse fun h => by cases h

/-- A machine with an upload and a support library, and with settings if there are any. -/
def pinnedLibrary (settings : Option String) : Machine where
  home := ["work"]
  scratch := ["tmp"]
  scratchName := "grading"
  bundle := ["bundle"]
  tree :=
    { nodes := [(["tmp"], .directory), (["work"], .directory), (["bundle"], .directory),
        (["bundle", "AutograderLib.lean"], .file (Content.bytes "-- bundled")),
        (["work", "AutograderLib.lean"], .file (Content.bytes "-- pinned")),
        (["work", "hw.lean"], .file (Content.bytes "-- hw"))] ++
          match settings with
          | some text => [(["work", "grader_config.yml"], .file (Content.bytes text))]
          | none => [] }
  replies := [.ended { code := 1 }]

namespace pinnedLibrary

variable {settings : Option String}

theorem isSound (settings : Option String) : (pinnedLibrary settings).IsSound := by
  refine ⟨FileTree.isSound_of_nodes (fun e among => ?_) nofun, rfl,
    FileTree.walk_single _ [] (by decide) (by decide), nofun⟩
  cases settings with
  | none =>
    simp only [pinnedLibrary, List.append_nil, List.mem_cons, List.not_mem_nil, or_false] at among
    obtain rfl | rfl | rfl | rfl | rfl | rfl := among <;> rfl
  | some text =>
    simp only [pinnedLibrary, List.cons_append, List.nil_append, List.mem_cons, List.not_mem_nil,
      or_false] at among
    obtain rfl | rfl | rfl | rfl | rfl | rfl | rfl := among <;> rfl

theorem confined (made : List Call) : (pinnedLibrary settings).Confined made := by
  intro i c exit _ replied
  cases i with
  | zero =>
    cases replied
    exact Exit.staysIn_of_nothing rfl rfl
  | succ i => cases replied

/-- The settings and the sources of a run on an upload. -/
theorem eq_of_starts {s : Settings} {given : Option (String × String)}
    (starts : Starts ["Sheet", "hw.lean"] (pinnedLibrary settings) s given) :
    given = some ("Sheet", "hw.lean") ∧
      (Settings.find Settings.standardFile (pinnedLibrary settings)).1 = .ok s :=
  GradingRun.eq_of_starts_names (by decide) (by decide) starts

theorem not_copied (s : Settings) (p : Path) : ¬Copied s (some ("Sheet", "hw.lean")) p := by
  have named : GradingRun.AreGiven (some ("Sheet", "hw.lean")) := by
    rw [GradingRun.AreGiven]
    decide
  rintro (unnamed | unnamed) <;> exact unnamed named

end pinnedLibrary

/-- The support library of a project is kept. -/
theorem gradingProgram_keeps_library :
    (gradingProgram ["Sheet", "hw.lean"] (pinnedLibrary none)).2.tree.node?
      ["work", "AutograderLib.lean"] = some (.file (Content.bytes "-- pinned")) := by
  have unsettled : (pinnedLibrary none).tree.isThere ["work"] Settings.standardFile =
      .ok false := by
    decide +kernel
  have standard : ∀ s given, Starts ["Sheet", "hw.lean"] (pinnedLibrary none) s given →
      given = some ("Sheet", "hw.lean") ∧ s = {} := by
    intro s given starts
    obtain ⟨same, settled⟩ := pinnedLibrary.eq_of_starts starts
    rw [Settings.find_standardFile unsettled] at settled
    exact ⟨same, (Except.ok.inj settled).symm⟩
  have library : (pinnedLibrary none).tree.IsPlace ["work"] ({} : Settings).libraryPath
      ["work", "AutograderLib.lean"] := by
    unfold FileTree.IsPlace
    decide +kernel
  have results : (pinnedLibrary none).tree.IsPlace ["work"] ({} : Settings).results
      ["results", "results.json"] := by
    unfold FileTree.IsPlace
    decide +kernel
  have file : (gradingProgram ["Sheet", "hw.lean"] (pinnedLibrary none)).2.tree.node?
      ["work", "AutograderLib.lean"] ≠ some .directory := by
    obtain ⟨made, -, within⟩ := (GradingRun.extends_gradingProgram ["Sheet", "hw.lean"]
      (pinnedLibrary.isSound none)).within
    obtain ⟨data, stays⟩ := (within (pinnedLibrary.confined made)).file
      ["work", "AutograderLib.lean"] _ rfl
    rw [stays]
    exact nofun
  have prepared : ∃ d, (pinnedLibrary none).tree.locate ["work"] ({} : Settings).project =
      .ok ⟨d, some .directory⟩ := FileTree.exists_of_isDirectory (by decide +kernel)
  refine ((gradingProgram_keeps_files ["Sheet", "hw.lean"] rfl (pinnedLibrary.isSound none)
    (fun made _ => pinnedLibrary.confined made) ?_).1 _ _ rfl).resolve_right ?_
  · intro s given starts p copied l place
    obtain ⟨rfl, rfl⟩ := standard s given starts
    obtain copied | rfl := copied
    · exact absurd copied (pinnedLibrary.not_copied {} p)
    · exact library.unique place ▸ file
  · rintro (⟨p, (⟨accepted, failed⟩ | @⟨s, given, starts⟩) | ⟨s, given, starts, copied⟩, place⟩ |
      ⟨s, given, starts, unprepared, -⟩)
    · cases (CommandLine.parse_names (by decide) (by decide)).symm.trans accepted
      cases (Settings.find_standardFile unsettled).symm.trans failed
    · obtain ⟨-, rfl⟩ := standard s given starts
      exact absurd (results.unique place) (by decide)
    · obtain ⟨rfl, rfl⟩ := standard s given starts
      exact pinnedLibrary.not_copied {} p copied
    · obtain ⟨rfl, rfl⟩ := standard s given starts
      exact unprepared.2 prepared

/-- **The support library of a project is replaced** where the project's path leads through a
directory that is not there yet. -/
theorem gradingProgram_replaces_library :
    let m := pinnedLibrary (some "project_dir: x/..\n")
    let m' := (gradingProgram ["Sheet", "hw.lean"] m).2
    m.IsSound ∧ (∀ made, m.Confined made) ∧
      (∀ p, Target ["Sheet", "hw.lean"] m p →
        ¬m.tree.IsPlace m.home p ["work", "AutograderLib.lean"]) ∧
      m.tree.node? ["work", "AutograderLib.lean"] = some (.file (Content.bytes "-- pinned")) ∧
      m'.tree.node? ["work", "AutograderLib.lean"] = some (.file (Content.bytes "-- bundled")) := by
  refine ⟨pinnedLibrary.isSound _, pinnedLibrary.confined, ?_, rfl, by decide +kernel⟩
  let m := pinnedLibrary (some "project_dir: x/..\n")
  have results : m.tree.IsPlace ["work"] ({} : Settings).results ["results", "results.json"] := by
    unfold FileTree.IsPlace
    decide +kernel
  have standard : ((Settings.find Settings.standardFile m).1.toOption.map (·.results)) =
      some ({} : Settings).results := by
    decide +kernel
  rintro p ((⟨accepted, failed⟩ | @⟨s, given, starts⟩) | ⟨s, given, starts, copied⟩) place
  · cases (CommandLine.parse_names (by decide) (by decide)).symm.trans accepted
    rw [show Settings.find Settings.standardFile m = _ from failed] at standard
    cases standard
  · rw [(pinnedLibrary.eq_of_starts starts).2] at standard
    rw [← Option.some.inj standard] at results
    exact absurd (results.unique place) (by decide)
  · obtain rfl := (pinnedLibrary.eq_of_starts starts).1
    exact pinnedLibrary.not_copied s p copied

end ProofGrading
