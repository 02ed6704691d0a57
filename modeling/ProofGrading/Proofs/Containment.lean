import ProofGrading.Proofs.Footprint

/-!
# Proofs/Containment — no failure of a program leaves the toolchain

Programs that end with any code and output, run out of time or are missing never end a compilation
by themselves: a step of the build tool then has a result (`Toolchain.exists_of_run`), and an export
fails for a reason of its own (`Toolchain.contained_exportEnvironment`).  So compiling a reference
ends with an environment or as a configuration error, and compiling an upload always ends
(`Toolchain.compilations_contained`), as long as what the exporter leaves is a readable text
(`Content.IsReadable`); other bytes do end a compilation (`Toolchain.compileReference_badText`).
-/

namespace ProofGrading

/-! ## Paths that can be used -/

namespace Path

/-- A path is spelled with names that files can have. -/
def IsSpelled (p : Path) : Prop := ∀ name ∈ p.names, FileTree.nameFault? name = none

instance (p : Path) : Decidable p.IsSpelled :=
  inferInstanceAs (Decidable (∀ name ∈ p.names, FileTree.nameFault? name = none))

/-- **A path can be used**: it is spelled with names that files can have, and not too long. -/
structure IsUsable (p : Path) : Prop where
  spelled : p.IsSpelled
  short : ∀ name ∈ p.names, Text.nameSize name ≤ FileTree.nameLimit
  fits : Text.nameSize p.text < FileTree.pathLimit

instance (p : Path) : Decidable p.IsUsable :=
  decidable_of_iff (p.IsSpelled ∧ (∀ name ∈ p.names, Text.nameSize name ≤ FileTree.nameLimit) ∧
      Text.nameSize p.text < FileTree.pathLimit)
    ⟨fun ⟨spelled, short, fits⟩ => ⟨spelled, short, fits⟩, fun h => ⟨h.spelled, h.short, h.fits⟩⟩

end Path

namespace FileTree

variable {t : FileTree} {home dir l : Location} {p : Path} {names : List String}

theorem exists_of_resolve (h : p.IsSpelled) : ∃ q, t.resolve home p = .ok q := by
  rw [resolve, List.findSome?_eq_none_iff.2 h]
  exact ⟨_, rfl⟩

theorem walk_ne_nameTooLong (short : ∀ name ∈ names, Text.nameSize name ≤ nameLimit) :
    t.walk dir names ≠ .error .nameTooLong := by
  induction names generalizing dir with
  | nil => exact fun h => by cases h
  | cons name rest ih =>
    have short_rest : ∀ dir, t.walk dir rest ≠ .error .nameTooLong :=
      fun _ => ih fun name among => short name (List.mem_cons_of_mem _ among)
    rw [walk, if_neg (Nat.not_lt.2 (short name (List.mem_cons_self ..)))]
    dsimp only
    split
    · exact short_rest _
    · split
      · exact short_rest _
      all_goals exact fun h => by cases h

theorem locate_ne_nameTooLong (h : p.IsUsable) : t.locate home p ≠ .error .nameTooLong := by
  unfold locate
  rw [if_neg (Nat.not_le.2 h.fits)]
  split
  · exact nofun
  · split
    · exact nofun
    · exact walk_ne_nameTooLong h.short

/-- Whether a path that can be used leads to something is never in doubt. -/
theorem exists_of_isThere (h : p.IsUsable) : ∃ is, t.isThere home p = .ok is := by
  unfold isThere asks
  split
  · exact ⟨_, rfl⟩
  · exact ⟨_, rfl⟩
  · next long => exact absurd long (locate_ne_nameTooLong h)
  · exact ⟨_, rfl⟩

/-- What is found stands where it is found. -/
theorem IsSound.node?_of_located (sound : t.IsSound) (there : t.node? home = some .directory)
    {n : Node} (h : t.locate home p = .ok ⟨l, some n⟩) : t.node? l = some n := by
  cases n with
  | directory => exact sound.directory_of_locate there h
  | file data => exact node?_of_locate h nofun

theorem length_putNode_le (nodes : List (Location × Node)) (l : Location) (n : Node) :
    (putNode nodes l n).length ≤ nodes.length + 1 := by
  induction nodes with
  | nil => exact Nat.le_refl _
  | cons e rest ih =>
    rw [putNode]
    split
    · exact Nat.le_succ _
    · exact Nat.succ_le_succ ih

end FileTree

/-! ## Programs that behave -/

/-- **A content can be read**: it is a text, and reading it stops at no integer with too many digits
and at no brackets nested too deeply. -/
def Content.IsReadable (content : Content) : Prop :=
  ∃ text, String.fromUTF8? content.bytes = some text ∧
    Json.decodeChars Json.nestingLimit (Text.unifyBreaks text.toList) ≠ .error .hugeInteger ∧
    Json.decodeChars Json.nestingLimit (Text.unifyBreaks text.toList) ≠ .error .tooDeep

namespace Reply

/-- **A program behaves**: it ends, runs out of time or is missing, and at most leaves the file that
it is asked for. -/
def IsOrdinary : Reply → Prop
  | .ended exit => exit.checkout = []
  | .timedOut | .commandMissing => True
  | .interrupted | .broken _ => False

/-- What a program leaves, if anything, can be read. -/
def IsReadable (reply : Reply) : Prop :=
  ∀ exit content, reply = .ended exit → exit.artifact = some content → content.IsReadable

end Reply

namespace Machine

variable {m m₁ m₂ m' : Machine} {k k' : Nat}

theorem upcoming_cases (m : Machine) :
    m.replies[0]? = some m.upcoming ∨ m.upcoming = .ended {} := by
  unfold upcoming
  cases m.replies with
  | nil => exact .inr rfl
  | cons reply rest => exact .inl rfl

/-- **Temporary directories can be used**: as long as not more than so many nodes are added, the
next one has room for an export. -/
def ScratchUsable (m : Machine) (more : Nat) : Prop :=
  ∀ n ≤ m.tree.nodes.length + more,
    (Toolchain.exportFile ⟨.single, m.scratch ++ [FileTree.numbered m.scratchName n]⟩).IsUsable

/-- **A machine is fit for compiling**: it is sound, temporary directories can be used, and programs
behave. -/
structure IsFit (m : Machine) : Prop where
  sound : m.IsSound
  usable : m.ScratchUsable 2
  ordinary : ∀ reply ∈ m.replies, reply.IsOrdinary

theorem IsFit.ordinary_upcoming (h : m.IsFit) : m.upcoming.IsOrdinary := by
  obtain replied | none_left := m.upcoming_cases
  · exact h.ordinary _ (List.mem_of_getElem? replied)
  · rw [none_left]
    rfl

theorem IsFit.of_prints (h : m.IsFit) (prints : m.Prints m') : m'.IsFit := by
  unfold Prints at prints
  rw [prints]
  exact ⟨⟨h.sound.tree, h.sound.home, h.sound.found, h.sound.plain⟩, h.usable, h.ordinary⟩

/-- **A program was called**: it took a reply, and left nothing or one file. -/
structure Ran (m m' : Machine) : Prop where
  scratch : m'.scratch = m.scratch
  scratchName : m'.scratchName = m.scratchName
  replies : m'.replies = m.replies.drop 1
  tree : m'.tree = m.tree ∨ ∃ exit content l, m.upcoming = .ended exit ∧
    exit.artifact = some content ∧ m'.tree = m.tree.put l (.file content.bytes)

/-- Before and after the call something may be printed. -/
theorem Ran.of_prints (before : m.Prints m₁) (ran : m₁.Ran m₂) (after : m₂.Prints m') :
    m.Ran m' := by
  unfold Prints at before after
  rw [before] at ran
  rw [after]
  exact ⟨ran.scratch, ran.scratchName, ran.replies, ran.tree⟩

theorem Ran.length_nodes_le (h : m.Ran m') :
    m'.tree.nodes.length ≤ m.tree.nodes.length + 1 := by
  obtain same | ⟨_, content, l, -, -, put⟩ := h.tree
  · rw [same]
    exact Nat.le_succ _
  · rw [put]
    exact FileTree.length_putNode_le _ _ _

theorem ScratchUsable.of_le (h : m.ScratchUsable k) (scratch : m'.scratch = m.scratch)
    (scratchName : m'.scratchName = m.scratchName)
    (le : m'.tree.nodes.length + k' ≤ m.tree.nodes.length + k) : m'.ScratchUsable k' := by
  intro n hn
  rw [scratch, scratchName]
  exact h n (hn.trans le)

/-- A new directory keeps a machine sound, and where it is. -/
theorem IsSound.reaches_put {l : Location} (h : m.IsSound) (room : m.tree.HasRoom l)
    (free : m.tree.node? l = none) : m.Reaches { m with tree := m.tree.put l .directory } := by
  have made : FileTree.Grows .everywhere m.tree (m.tree.put l .directory) :=
    .put_directory room free
  exact (Extends.of_grows made).reaches (.refl h)

/-- **What is found in a temporary directory** after a program was called is what the program
left. -/
theorem exists_of_located {x file : String} {l : Location} {n : Node} (sound : m.IsSound)
    (proper : x ≠ "..") (proper_file : file ≠ "..") (free : m.tree.node? (m.scratch ++ [x]) = none)
    (ran : Ran { m with tree := m.tree.put (m.scratch ++ [x]) .directory } m')
    (reaches : m.Reaches m')
    (located : m'.tree.locate m'.home ⟨.single, m.scratch ++ [x] ++ [file]⟩ = .ok ⟨l, some n⟩) :
    ∃ exit content, m.upcoming = .ended exit ∧ exit.artifact = some content ∧
      n = .file content.bytes := by
  obtain ⟨-, rfl⟩ := Path.mk.inj
    (resolve_inside reaches proper proper_file (FileTree.isPlace_of_locate located))
  have there := reaches.sound.tree.node?_of_located reaches.sound.home located
  have below_ne : m.scratch ++ [x] ≠ m.scratch ++ [x] ++ [file] := by simp
  have no_directory : m.tree.node? (m.scratch ++ [x]) ≠ some .directory := free ▸ nofun
  have nothing : (m.tree.put (m.scratch ++ [x]) .directory).node? (m.scratch ++ [x] ++ [file]) =
      none := by
    rw [FileTree.node?_put_ne _ _ below_ne.symm]
    exact sound.tree.eq_none_of_prefix no_directory (List.prefix_append _ _) below_ne
  obtain same | ⟨exit, content, k, upcoming, artifact, put⟩ := ran.tree
  · rw [same, nothing] at there
    cases there
  · by_cases at_file : m.scratch ++ [x] ++ [file] = k
    · rw [put, ← at_file, FileTree.node?_put_self _ _ (by simp)] at there
      exact ⟨exit, content, upcoming, artifact, (Option.some.inj there).symm⟩
    · rw [put, FileTree.node?_put_ne _ _ at_file, nothing] at there
      cases there

/-- What a machine needs for an export: it is sound, the next temporary directory can be used, and
the exporter behaves and leaves what can be read. -/
structure CanExport (m : Machine) : Prop where
  sound : m.IsSound
  usable : m.ScratchUsable 0
  ordinary : m.upcoming.IsOrdinary
  readable : m.upcoming.IsReadable

/-- **After a program was called** an export can follow. -/
theorem IsFit.canExport (fit : m.IsFit) (ran : m₁.Ran m₂) (scratch : m₁.scratch = m.scratch)
    (scratchName : m₁.scratchName = m.scratchName) (replies : m₁.replies = m.replies)
    (le : m₁.tree.nodes.length ≤ m.tree.nodes.length + 1) (sound : m₂.IsSound)
    (readable : ∀ reply, m.replies[1]? = some reply → reply.IsReadable) : m₂.CanExport := by
  have next : m₂.replies[0]? = m.replies[1]? := by
    rw [ran.replies, replies, List.getElem?_drop]
  refine ⟨sound, ?_, ?_, ?_⟩
  · refine fit.usable.of_le (ran.scratch.trans scratch) (ran.scratchName.trans scratchName) ?_
    have := ran.length_nodes_le
    omega
  · obtain replied | none_left := m₂.upcoming_cases
    · exact fit.ordinary _ (List.mem_of_getElem? (next.symm.trans replied))
    · rw [none_left]
      rfl
  · obtain replied | none_left := m₂.upcoming_cases
    · exact readable _ (next.symm.trans replied)
    · rw [none_left]
      rintro exit content ⟨⟩ ⟨⟩

end Machine

/-! ## Jobs that end -/

namespace Job

variable {α β : Type} {m m₁ m' : Machine} {Q : α → Machine → Prop}

/-- **A job ends with a value**, and a condition holds of it and of the machine that is left. -/
def Yields (job : Job α) (m : Machine) (Q : α → Machine → Prop) : Prop :=
  ∃ a m', job m = (.ok a, m') ∧ Q a m'

namespace Yields

theorem done {a : α} (h : Q a m) : Yields (Job.done a) m Q := ⟨a, m, rfl, h⟩

theorem bind {b : β} {next : β → Job α} {job : Job β} (h : job m = (.ok b, m₁))
    (hn : Yields (next b) m₁ Q) : Yields (job >>= next) m Q := by
  obtain ⟨a, m', ended, holds⟩ := hn
  exact ⟨a, m', (bind_ok h next).trans ended, holds⟩

/-- A step that may be left out, and only tells. -/
theorem optional {c : Prop} [Decidable c] {step : Job Unit} {next : Unit → Job α}
    (reads : Reads step) (ends : ∃ m₁, step m = (.ok (), m₁))
    (hn : ∀ m₁, m.Prints m₁ → Yields (next ()) m₁ Q) :
    Yields (if c then step >>= next else next ()) m Q := by
  obtain ⟨m₁, ended⟩ := ends
  split
  · exact bind ended (hn m₁ (reads.at_end ended))
  · exact hn m (Machine.lasting_prints.refl m)

end Yields

theorem exists_of_resolve {p : Path} (h : p.IsSpelled) (m : Machine) :
    ∃ q, resolve p m = (.ok q, m) := by
  obtain ⟨q, resolved⟩ : ∃ q, m.tree.resolve m.home p = .ok q := FileTree.exists_of_resolve h
  exact ⟨q, Prod.ext (congrArg (Except.mapError Failure.files) resolved) rfl⟩

/-- **A call of a program that behaves** ends with its reply. -/
theorem exists_of_call (c : Call) (ordinary : m.upcoming.IsOrdinary) :
    ∃ m', call c m = (.ok m.upcoming, m') ∧ m.Ran m' := by
  have taken : (nextReply m.replies).2 = m.replies.drop 1 := by
    cases m.replies <;> rfl
  unfold call
  dsimp only
  rw [show (nextReply m.replies).1 = m.upcoming from rfl, taken]
  cases upcoming : m.upcoming with
  | timedOut => exact ⟨_, rfl, rfl, rfl, rfl, .inl rfl⟩
  | commandMissing => exact ⟨_, rfl, rfl, rfl, rfl, .inl rfl⟩
  | interrupted =>
    rw [upcoming] at ordinary
    exact absurd ordinary id
  | broken reason =>
    rw [upcoming] at ordinary
    exact absurd ordinary id
  | ended exit =>
    rw [upcoming] at ordinary
    have nothing_else : exit.checkout = [] := ordinary
    refine ⟨_, rfl, rfl, rfl, rfl, ?_⟩
    dsimp only
    rw [leaveFiles, nothing_else]
    cases artifact : exit.artifact with
    | none => exact .inl rfl
    | some content =>
      dsimp only [List.foldl_nil]
      split
      · next tree written =>
        obtain ⟨l, _, -, -, rfl⟩ := FileTree.exists_of_write written
        exact .inr ⟨exit, content, l, upcoming, artifact, rfl⟩
      · exact .inl rfl

end Job

namespace Toolchain

open Job

variable {t : Toolchain} {m m' : Machine} {home : String} {path : Option String}

/-- **A step of the build tool always has a result** when the program behaves. -/
theorem exists_of_run (spelled : t.project.IsSpelled) (ordinary : m.upcoming.IsOrdinary)
    (step : String) (arguments : List String) (path : Option String) :
    Yields (t.run step arguments path) m fun _ m' => m.Ran m' := by
  unfold run
  refine .optional (reads_printLine _) ⟨_, rfl⟩ fun m₁ before => ?_
  have ordinary : m₁.upcoming.IsOrdinary := by
    unfold Machine.Prints at before
    rw [before]
    exact ordinary
  obtain ⟨project, resolved⟩ := exists_of_resolve spelled m₁
  obtain ⟨m₂, called, ran⟩ := exists_of_call
    ⟨t.command :: step :: arguments, t.timeout, some project.text, path⟩ ordinary
  have ran_before := ran.of_prints before (Machine.lasting_prints.refl m₂)
  refine .bind resolved (.bind called ?_)
  cases upcoming : m₁.upcoming with
  | timedOut => exact .done ran_before
  | commandMissing => exact .done ran_before
  | ended exit =>
    exact .optional (reads_printLines _) (exists_printLines _ _) fun m₃ after =>
      .done (ran.of_prints before after)
  | interrupted =>
    rw [upcoming] at ordinary
    exact absurd ordinary id
  | broken reason =>
    rw [upcoming] at ordinary
    exact absurd ordinary id

/-- Where a file is found, its text is read. -/
theorem readText_of_located {p : Path} {l : Location} {data : ByteArray} {text : String}
    (located : m.tree.locate m.home p = .ok ⟨l, some (.file data)⟩)
    (decoded : String.fromUTF8? data = some text) :
    readText p m = (.ok (Text.unifyBreaks text.toList), m) := by
  have read : readBytes p m = (.ok data, m) := by
    rw [readBytes, look, FileTree.read_of_locate located]
    rfl
  rw [readText, bind_ok read, decoded]
  rfl

/-- Reading a content that can be read fails with a flaw that is told with its place. -/
theorem contained_reading {p : Path} {l : Location} {content : Content} {place : String → String}
    (located : m.tree.locate m.home p = .ok ⟨l, some (.file content.bytes)⟩)
    (readable : content.IsReadable) {e : Failure}
    (failed : (readText p >>= fun text => match Json.decodeChars Json.nestingLimit text with
      | .ok data => (pure data : Job Json)
      | .error flaw => Job.fail (flaw.failure fun told => .toolchain (place told))) m =
        (.error e, m')) : ∃ details, e = .toolchain details := by
  obtain ⟨text, decoded, small, shallow⟩ := readable
  rw [bind_ok (readText_of_located located decoded)] at failed
  cases wrong : Json.decodeChars Json.nestingLimit (Text.unifyBreaks text.toList) with
  | ok data =>
    rw [wrong] at failed
    cases failed
  | error flaw =>
    rw [wrong] at failed
    cases failed
    cases flaw with
    | invalid error => exact ⟨_, rfl⟩
    | hugeInteger => exact absurd wrong small
    | tooDeep => exact absurd wrong shallow

/-- **An export fails for a reason of its own.** -/
theorem contained_exportedJson (spelled : t.project.IsSpelled) (can : m.CanExport) {e : Failure}
    (failed : t.exportedJson home path m = (.error e, m')) : ∃ details, e = .toolchain details := by
  obtain ⟨n, hn, x, named, proper, free, room, makes_dir⟩ := exists_of_makeScratch can.sound
  obtain ⟨dir, m₁, m₂, prepared, worked, -⟩ := exists_of_withScratch failed
  cases makes_dir.symm.trans prepared
  have usable : (exportFile ⟨.single, m.scratch ++ [x]⟩).IsUsable := named ▸ can.usable n hn
  obtain ⟨result, m₃, ran_eq, ran⟩ := exists_of_run spelled can.ordinary "env"
    ["lean", "--run", (exporter m).text, home, (exportFile ⟨.single, m.scratch ++ [x]⟩).text] path
    (m := { m with tree := m.tree.put (m.scratch ++ [x]) .directory })
  have reaches := Within.reaches (t.within_run fun _ _ _ _ _ _ => trivial)
    (can.sound.reaches_put room free) ran_eq
  obtain ⟨is, asked⟩ : ∃ is, m₃.tree.isThere m₃.home (exportFile ⟨.single, m.scratch ++ [x]⟩) =
    .ok is := FileTree.exists_of_isThere usable
  have looked : isThere (exportFile ⟨.single, m.scratch ++ [x]⟩) m₃ = (.ok is, m₃) :=
    Prod.ext (congrArg (Except.mapError Failure.files) asked) rfl
  obtain ⟨_, absurd, -⟩ | ⟨_, _, ⟨⟩, worked⟩ := bind_cases worked
  · cases absurd
  replace worked := (bind_ok ran_eq _).symm.trans worked
  split at worked
  · cases worked
    exact ⟨_, rfl⟩
  replace worked := (bind_ok looked _).symm.trans worked
  split at worked
  · cases worked
    exact ⟨_, rfl⟩
  next found =>
  obtain rfl : is = true := by simpa using found
  obtain ⟨l, node, located⟩ := FileTree.exists_locate_of_isThere asked
  have in_scratch := located
  rw [exportFile, Path.child_of_plain (by decide)] at in_scratch
  obtain ⟨exit, content, ended, artifact, rfl⟩ :=
    Machine.exists_of_located can.sound proper (by decide) free ran reaches in_scratch
  exact contained_reading located (can.readable exit content ended artifact) worked

/-- **So does an export of an environment**, with a search path or without. -/
theorem contained_exportEnvironment (spelled : t.project.IsSpelled) {dir : Option Path}
    (spelled_dir : ∀ d ∈ dir, d.IsSpelled) (can : m.CanExport) {e : Failure}
    (failed : t.exportEnvironment home dir m = (.error e, m')) :
    ∃ details, e = .toolchain details := by
  obtain ⟨path, located⟩ : ∃ path, searchPath dir m = (.ok path, m) := by
    cases dir with
    | none => exact ⟨_, rfl⟩
    | some dir =>
      obtain ⟨q, resolved⟩ := exists_of_resolve (spelled_dir dir rfl) m
      exact ⟨_, (bind_ok (rfl : machine m = (.ok m, m)) _).trans (bind_ok resolved _)⟩
  unfold exportEnvironment at failed
  rw [bind_ok located] at failed
  obtain ⟨_, exported, ⟨⟩⟩ | ⟨data, m₁, -, shaped⟩ := bind_cases failed
  · exact contained_exportedJson spelled can exported
  · obtain ⟨flaw, -, rfl⟩ := exists_of_mapError (Prod.mk.inj shaped).1
    exact ⟨_, rfl⟩

/-- **Compiling a reference** ends with an environment or as a configuration error. -/
theorem contained_compileReference (spelled : t.project.IsSpelled) (fit : m.IsFit)
    (readable : ∀ reply, m.replies[1]? = some reply → reply.IsReadable) {e : Failure}
    (failed : t.compileReference home m = (.error e, m')) :
    ∃ reason, e = .configuration reason := by
  unfold compileReference at failed
  rw [printLine_bind] at failed
  obtain ⟨result, m₁, built, ran⟩ := exists_of_run spelled fit.ordinary_upcoming "build" [home]
    none (m := { m with printed := m.printed ++ (s!"Building reference module {home}..." ++ "\n") })
  replace failed := (bind_ok built _).symm.trans failed
  split at failed
  · cases failed
    exact ⟨_, rfl⟩
  obtain ⟨exported, m₂, attempted, failed⟩ := exists_of_attempt failed
  cases exported with
  | ok env => cases failed
  | error e₁ =>
    have reaches := Within.reaches ((reads_printLine _).within.bind fun _ =>
      t.within_buildReference home) (Machine.Reaches.refl fit.sound) (m := m)
      ((printLine_bind _ _ m).trans built)
    have can := fit.canExport ran rfl rfl rfl (Nat.le_succ _) reaches.sound readable
    obtain ⟨details, rfl⟩ := contained_exportEnvironment spelled (by rintro _ ⟨⟩) can attempted
    cases failed
    exact ⟨_, rfl⟩

/-- An upload is built, or not, when its path and the temporary directory can be used. -/
theorem exists_of_buildSubmission (spelled : t.project.IsSpelled) {source dir : Path}
    (spelled_source : source.IsSpelled)
    (spelled_object : (dir.child (submissionModule ++ ".olean")).IsSpelled)
    (ordinary : m.upcoming.IsOrdinary) :
    Yields (t.buildSubmission source dir) m fun _ m' => m.Ran m' := by
  obtain ⟨object, resolved⟩ := exists_of_resolve spelled_object m
  obtain ⟨file, resolved_source⟩ := exists_of_resolve spelled_source m
  exact .bind resolved (.bind resolved_source (exists_of_run spelled ordinary _ _ _))

/-- **Compiling an upload** never fails. -/
theorem contained_tryCompile (spelled : t.project.IsSpelled) {source : Path}
    (spelled_source : source.IsSpelled) (fit : m.IsFit)
    (readable : ∀ reply, m.replies[1]? = some reply → reply.IsReadable) {e : Failure} :
    t.tryCompile source m ≠ (.error e, m') := by
  intro failed
  obtain ⟨n, hn, x, named, proper, free, room, makes_dir⟩ := exists_of_makeScratch fit.sound
  obtain ⟨dir, m₁, m₂, prepared, worked, -⟩ := exists_of_withScratch failed
  cases makes_dir.symm.trans prepared
  have usable : (exportFile ⟨.single, m.scratch ++ [x]⟩).IsUsable :=
    named ▸ fit.usable n (hn.trans (Nat.le_add_right _ _))
  rw [exportFile, Path.child_of_plain (by decide)] at usable
  have spelled_dir : Path.IsSpelled ⟨.single, m.scratch ++ [x]⟩ :=
    fun name among => usable.spelled name (List.mem_append_left _ among)
  have spelled_object : Path.IsSpelled (Path.child ⟨.single, m.scratch ++ [x]⟩
      (submissionModule ++ ".olean")) := by
    rw [Path.child_of_plain (by decide)]
    intro name among
    obtain among | among := List.mem_append.1 among
    · exact spelled_dir name among
    · obtain rfl := List.mem_singleton.1 among
      decide
  obtain ⟨result, m₃, built, ran⟩ := exists_of_buildSubmission spelled spelled_source
    spelled_object fit.ordinary_upcoming
    (m := { m with tree := m.tree.put (m.scratch ++ [x]) .directory })
  replace worked := (bind_ok built _).symm.trans worked
  split at worked
  · cases worked
  obtain ⟨exported, m₄, attempted, worked⟩ := exists_of_attempt worked
  cases exported with
  | ok env => cases worked
  | error e₁ =>
    have prepared := fit.sound.reaches_put room free
    have within : Within m (FileTree.Scope.everywhere.orBelow (m.scratch ++ [x])) _ :=
      t.within_buildSubmission source proper
    have reaches := (within.at_end built prepared).reaches prepared
    have can := fit.canExport ran rfl rfl rfl (FileTree.length_putNode_le _ _ _) reaches.sound
      readable
    obtain ⟨details, rfl⟩ := contained_exportEnvironment spelled
      (by rintro _ ⟨⟩; exact spelled_dir) can attempted
    cases worked

/-- **No failure of a program leaves the toolchain**: programs that end with any code and output,
run out of time or are missing let a reference compile, or fail as a configuration error, and let an
upload compile, or fall back with a warning — if what the exporter leaves, if anything, can be
read. -/
theorem compilations_contained (home : String) (source : Path) (reference : Environment)
    (spelled : t.project.IsSpelled) (spelled_source : source.IsSpelled) (fit : m.IsFit)
    (readable : ∀ reply, m.replies[1]? = some reply → reply.IsReadable) :
    (∃ r m', t.compileReference home m = (r, m') ∧
      ((∃ env, r = .ok env) ∨ ∃ reason, r = .error (.configuration reason))) ∧
    ∃ env warning m', t.compileSubmission source reference m = (.ok (env, warning), m') := by
  constructor
  · rcases ended : t.compileReference home m with ⟨r, m'⟩
    refine ⟨r, m', rfl, ?_⟩
    cases r with
    | ok env => exact .inl ⟨env, rfl⟩
    | error e =>
      obtain ⟨reason, rfl⟩ := contained_compileReference spelled fit readable ended
      exact .inr ⟨reason, rfl⟩
  · let m₁ : Machine :=
      { m with printed := m.printed ++ (s!"Compiling submission {source.name}..." ++ "\n") }
    have announced : printLine s!"Compiling submission {source.name}..." m = (.ok (), m₁) := rfl
    have fit₁ : m₁.IsFit := fit.of_prints rfl
    rcases tried : t.tryCompile source m₁ with ⟨compiled, m₂⟩
    cases compiled with
    | error e => exact absurd tried (contained_tryCompile spelled spelled_source fit₁ readable)
    | ok compiled =>
      unfold compileSubmission
      rw [bind_ok announced, bind_ok tried]
      cases compiled with
      | ok env => exact ⟨env, "", m₂, rfl⟩
      | error details => exact ⟨_, _, _, rfl⟩

/-- A machine that builds a module, and whose exporter leaves a content. -/
def exporting (content : Content) : Machine where
  home := ["work"]
  scratch := ["tmp"]
  scratchName := "grading"
  bundle := ["bundle"]
  tree := { nodes := [(["tmp"], .directory), (["work"], .directory), (["bundle"], .directory)] }
  replies := [.ended {}, .ended { artifact := some content }]

theorem isFit_exporting (content : Content) : (exporting content).IsFit where
  sound := by
    refine ⟨FileTree.isSound_of_nodes (fun e among => ?_) nofun, rfl,
      FileTree.walk_single _ [] (by decide) (by decide), nofun⟩
    simp only [exporting, List.mem_cons, List.not_mem_nil, or_false] at among
    obtain rfl | rfl | rfl := among <;> rfl
  usable n hn := by
    have few : ∀ n < 6,
        (exportFile ⟨.single, ["tmp"] ++ [FileTree.numbered "grading" n]⟩).IsUsable := by
      decide +kernel
    exact few n (Nat.lt_succ_of_le hn)
  ordinary reply among := by
    simp only [exporting, List.mem_cons, List.not_mem_nil, or_false] at among
    obtain rfl | rfl := among <;> rfl

/-- The export of a sheet without declarations. -/
def bareSheet : String := "\x7b\"module\": \"Sheet\", \"declarations\": []\x7d"

/-- Nothing leaves the toolchain where the exporter leaves a sheet without declarations. -/
theorem compilations_contained_bareSheet :
    (∃ r m', ({ project := {} } : Toolchain).compileReference "Sheet" (exporting bareSheet) =
      (r, m') ∧ ((∃ env, r = .ok env) ∨ ∃ reason, r = .error (.configuration reason))) ∧
    ∃ env warning m', ({ project := {} } : Toolchain).compileSubmission (.ofString "hw.lean")
      (.ofList .compiled "Sheet" ["Sheet"] []) (exporting bareSheet) =
        (.ok (env, warning), m') := by
  refine compilations_contained "Sheet" _ _ nofun (by decide +kernel) (isFit_exporting _) ?_
  rintro _ ⟨⟩ exit content ⟨⟩ ⟨⟩
  have decoded : String.fromUTF8? (Content.bytes bareSheet) = some bareSheet := by decide +kernel
  have read : (Json.decodeChars Json.nestingLimit (Text.unifyBreaks bareSheet.toList)).isOk =
    true := by decide +kernel
  refine ⟨bareSheet, decoded, fun huge => ?_, fun deep => ?_⟩
  · rw [huge] at read
    cases read
  · rw [deep] at read
    cases read

/-- **Bytes that are no text end a compilation**, though the exporter ended well: what is wrong with
them is not told as a configuration error. -/
theorem compileReference_badText : (exporting (.raw ⟨#[0xFF]⟩)).IsFit ∧
    ∃ m', ({ project := {} } : Toolchain).compileReference "Sheet" (exporting (.raw ⟨#[0xFF]⟩)) =
      (.error .badText, m') := by
  refine ⟨isFit_exporting _, ?_⟩
  have failed : (match ({ project := {} } : Toolchain).compileReference "Sheet"
      (exporting (.raw ⟨#[0xFF]⟩)) with
    | (.error e, _) => e == .badText
    | _ => false) = true := by
    decide +kernel
  split at failed
  · next e m' ended => exact ⟨m', beq_iff_eq.1 failed ▸ ended⟩
  · cases failed

end Toolchain

end ProofGrading
