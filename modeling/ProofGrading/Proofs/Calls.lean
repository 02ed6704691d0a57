import ProofGrading.Proofs.Effects

/-!
# Proofs/Calls — the calls that a job makes

Between two machines some calls are made, and each takes a reply (`Machine.Makes`).  Most jobs make
none (`Job.IsQuiet`); a step of the build tool, an export and a fetch make one, unless they fail
before (`Job.MakesOne`).  Main statement: compiling a reference and then an upload makes at most
four calls, and none that waits for what did not succeed (`Toolchain.calls_compileReference`,
`Toolchain.calls_compileSubmission`).
-/

namespace ProofGrading

/-- **Between two machines some calls were made**, in their order; each took a reply. -/
structure Machine.Makes (m : Machine) (made : List Call) (m' : Machine) : Prop where
  calls : m'.calls = m.calls ++ made
  replies : m'.replies = m.replies.drop made.length

namespace Machine

variable {m m₁ m₂ m' : Machine} {made made' : List Call}

theorem Makes.refl (m : Machine) : m.Makes [] m := ⟨(List.append_nil _).symm, rfl⟩

theorem Makes.trans (h : m.Makes made m₁) (h' : m₁.Makes made' m₂) :
    m.Makes (made ++ made') m₂ where
  calls := by rw [h'.calls, h.calls, List.append_assoc]
  replies := by rw [h'.replies, h.replies, List.drop_drop, List.length_append]

/-- No call was made. -/
def Quiet (m m' : Machine) : Prop := m.Makes [] m'

theorem Quiet.of_eq (calls : m'.calls = m.calls) (replies : m'.replies = m.replies) :
    m.Quiet m' := ⟨calls.trans (List.append_nil _).symm, replies⟩

theorem lasting_quiet : Lasting Quiet where
  refl := Makes.refl
  trans := Makes.trans

theorem Prints.quiet (h : m.Prints m') : m.Quiet m' := by
  unfold Prints at h
  rw [h]
  exact .of_eq rfl rfl

theorem Quiet.makes (h : m.Quiet m₁) (h' : m₁.Makes made m₂) : m.Makes made m₂ := Makes.trans h h'

theorem Makes.quiet (h : m.Makes made m₁) (h' : m₁.Quiet m₂) : m.Makes made m₂ := by
  have both := h.trans h'
  rwa [List.append_nil] at both

end Machine

namespace Job

open Machine (lasting_quiet)

variable {α β : Type} {job : Job α} {next : α → Job β} {C : Call → Prop}

/-! ## Jobs without calls -/

/-- **A job makes no call.** -/
abbrev IsQuiet (job : Job α) : Prop := Moves Machine.Quiet job

theorem Reads.quiet (h : Reads job) : IsQuiet job := h.mono fun _ _ => Machine.Prints.quiet

theorem quiet_makeDirectories (p : Path) : IsQuiet (makeDirectories p) := by
  intro m
  unfold makeDirectories
  split <;> exact .of_eq rfl rfl

theorem quiet_change (f : FileTree → Location → Except FileFault FileTree) :
    IsQuiet (change f) := by
  intro m
  unfold change
  split <;> exact .of_eq rfl rfl

theorem quiet_copyFile (source target : Path) : IsQuiet (copyFile source target) :=
  (quiet_makeDirectories _).bind lasting_quiet fun _ => quiet_change _

theorem quiet_placeSubmission (source target : Path) : IsQuiet (placeSubmission source target) :=
  (quiet_copyFile source target).bind lasting_quiet fun _ => .done lasting_quiet _

theorem quiet_installSupportLibrary (project : Path) : IsQuiet (installSupportLibrary project) :=
  .bind lasting_quiet (.look lasting_quiet _) fun _ => .ite (fun _ => .done lasting_quiet _)
    fun _ => .bind lasting_quiet (.machine lasting_quiet) fun _ =>
      (quiet_copyFile _ _).bind lasting_quiet fun _ =>
        (reads_printLine _).quiet.bind lasting_quiet fun _ => .done lasting_quiet _

theorem quiet_writeText (p : Path) (text : String) : IsQuiet (writeText p text) := by
  unfold writeText
  split
  · exact .fail lasting_quiet _
  · exact (quiet_makeDirectories _).bind lasting_quiet fun _ => quiet_change _

/-! ## Jobs with one call -/

/-- **A job makes one call**, of a kind, unless it fails before. -/
def MakesOne (C : Call → Prop) (job : Job α) : Prop := ∀ m r m', job m = (r, m') →
  (∃ c, C c ∧ m.Makes [c] m') ∨ m.Quiet m' ∧ ∃ e, r = .error e

theorem makes_call (c : Call) (m : Machine) : m.Makes [c] (call c m).2 := by
  have taken : (nextReply m.replies).2 = m.replies.drop 1 := by
    cases m.replies <;> rfl
  unfold call
  dsimp only
  split <;> exact ⟨rfl, taken⟩

theorem makesOne_call {c : Call} (h : C c) : MakesOne C (call c) := by
  intro m r m' called
  have makes := makes_call c m
  rw [called] at makes
  exact .inl ⟨c, h, makes⟩

theorem MakesOne.mono {C' : Call → Prop} (h : MakesOne C job) (weaker : ∀ c, C c → C' c) :
    MakesOne C' job :=
  fun m r m' hr => (h m r m' hr).imp_left fun ⟨c, hc, made⟩ => ⟨c, weaker c hc, made⟩

theorem MakesOne.bind_quiet (h : MakesOne C job) (hn : ∀ a, IsQuiet (next a)) :
    MakesOne C (job >>= next) := by
  intro m r m' hr
  obtain ⟨e, failed, rfl⟩ | ⟨a, m₁, ended, rest⟩ := bind_cases hr
  · exact (h m _ m' failed).imp_right fun quiet => ⟨quiet.1, e, rfl⟩
  · obtain ⟨c, hc, made⟩ | ⟨-, e, absurd⟩ := h m _ m₁ ended
    · exact .inl ⟨c, hc, made.quiet ((hn a).at_end rest)⟩
    · cases absurd

theorem MakesOne.quiet_bind (h : IsQuiet job)
    (hn : ∀ a, (∃ m m', job m = (.ok a, m')) → MakesOne C (next a)) :
    MakesOne C (job >>= next) := by
  intro m r m' hr
  obtain ⟨e, failed, rfl⟩ | ⟨a, m₁, ended, rest⟩ := bind_cases hr
  · exact .inr ⟨h.at_end failed, e, rfl⟩
  · have before := h.at_end ended
    obtain ⟨c, hc, made⟩ | ⟨quiet, failed⟩ := hn a ⟨m, m₁, ended⟩ m₁ r m' rest
    · exact .inl ⟨c, hc, before.makes made⟩
    · exact .inr ⟨lasting_quiet.trans before quiet, failed⟩

/-- A step that may be left out, before the call. -/
theorem MakesOne.optional {c : Prop} [Decidable c] {step : Job Unit} {next : Unit → Job α}
    (h : IsQuiet step) (hn : ∀ u, MakesOne C (next u)) :
    MakesOne C (if c then step >>= next else next ()) := by
  split
  · exact .quiet_bind h fun u _ => hn u
  · exact hn ()

theorem MakesOne.withScratch {work : Path → Job α} (h : ∀ dir, MakesOne C (work dir)) :
    MakesOne C (withScratch work) := by
  intro m r m' hr
  obtain ⟨dir, m₁, m₂, prepared, worked, rfl⟩ := exists_of_withScratch hr
  have before : m.Quiet m₁ := by
    cases prepared
    exact .of_eq rfl rfl
  have after : m₂.Quiet { m₂ with tree := m₂.tree.prune dir.names } := .of_eq rfl rfl
  obtain ⟨c, hc, made⟩ | ⟨quiet, failed⟩ := h dir m₁ r m₂ worked
  · exact .inl ⟨c, hc, before.makes (made.quiet after)⟩
  · exact .inr ⟨lasting_quiet.trans (lasting_quiet.trans before quiet) after, failed⟩

/-- A job that ended with a value made its call. -/
theorem MakesOne.exists_of_ok (h : MakesOne C job) {m m' : Machine} {a : α}
    (ended : job m = (.ok a, m')) : ∃ c, C c ∧ m.Makes [c] m' := by
  obtain made | ⟨-, e, absurd⟩ := h m _ m' ended
  · exact made
  · cases absurd

/-- However it ended, a job made its call or none. -/
theorem MakesOne.cases (h : MakesOne C job) {m m' : Machine} {r : Except Failure α}
    (ended : job m = (r, m')) : m.Quiet m' ∨ ∃ c, C c ∧ m.Makes [c] m' :=
  (h m r m' ended).symm.imp_left And.left

end Job

/-! ## The calls of a toolchain -/

namespace Toolchain

open Job Machine

variable (t : Toolchain)

/-- The call of a step of the build tool. -/
def stepCall (project : Path) (step : String) (arguments : List String) (path : Option String) :
    Call :=
  ⟨t.command :: step :: arguments, t.timeout, some project.text, path⟩

/-- A build of a module of the project. -/
def IsBuild (home : String) (c : Call) : Prop :=
  ∃ project : Path, c = t.stepCall project "build" [home] none

/-- An export of a module, with a search path or without. -/
def IsExport (home : String) (path : Option String) (c : Call) : Prop :=
  ∃ project exporter dir : Path, c = t.stepCall project "env"
    ["lean", "--run", exporter.text, home, (exportFile dir).text] path

/-- A compilation of an upload: of the file that its path leads to. -/
def IsCompilation (source : Path) (c : Call) : Prop :=
  ∃ project object file : Path, (∃ m m', resolve source m = (.ok file, m')) ∧
    c = t.stepCall project "env" ["lean", "-o", object.text, file.text] none

theorem makesOne_run (step : String) (arguments : List String) (path : Option String) :
    MakesOne (fun c => ∃ project, c = t.stepCall project step arguments path)
      (t.run step arguments path) := by
  unfold run
  refine .optional (reads_printLine _).quiet fun _ => .quiet_bind (.look lasting_quiet _)
    fun project _ => .bind_quiet (makesOne_call ⟨project, rfl⟩) fun reply => ?_
  cases reply with
  | timedOut => exact .done lasting_quiet _
  | commandMissing => exact .done lasting_quiet _
  | ended exit =>
    exact .optional lasting_quiet (reads_printLines _).quiet fun _ => .done lasting_quiet _
  | interrupted => exact .fail lasting_quiet _
  | broken reason => exact .fail lasting_quiet _

theorem makesOne_buildReference (home : String) :
    MakesOne (t.IsBuild home) (t.buildReference home) := t.makesOne_run "build" [home] none

theorem makesOne_buildSubmission (source dir : Path) :
    MakesOne (t.IsCompilation source) (t.buildSubmission source dir) :=
  .quiet_bind (.look lasting_quiet _) fun object _ => .quiet_bind (.look lasting_quiet _)
    fun file resolved => (t.makesOne_run _ _ _).mono fun _ ⟨project, hc⟩ =>
      ⟨project, object, file, resolved, hc⟩

/-- **An export is one call.** -/
theorem makesOne_exportedJson (home : String) (path : Option String) :
    MakesOne (t.IsExport home path) (t.exportedJson home path) := by
  refine .withScratch fun dir => .quiet_bind (.machine lasting_quiet) fun m _ => ?_
  have one := (t.makesOne_run "env" _ path).mono fun _ ⟨project, hc⟩ =>
    (⟨project, exporter m, dir, hc⟩ : t.IsExport home path _)
  refine one.bind_quiet fun result => .ite (fun _ => .fail lasting_quiet _) fun _ =>
    .bind lasting_quiet (.look lasting_quiet _) fun there =>
      .ite (fun _ => .fail lasting_quiet _) fun _ =>
        (reads_readText _).quiet.bind lasting_quiet fun text => ?_
  split
  · exact .done lasting_quiet _
  · exact .fail lasting_quiet _

theorem exists_of_searchPath {dir : Path} {path : Option String} {m m' : Machine}
    (h : searchPath (some dir) m = (.ok path, m')) : ∃ text, path = some text := by
  obtain ⟨_, _, -, h⟩ := bind_eq_ok_iff.1 h
  obtain ⟨_, _, -, h⟩ := bind_eq_ok_iff.1 h
  exact ⟨_, (Except.ok.inj (Prod.mk.inj h).1).symm⟩

theorem makesOne_exportReference (home : String) :
    MakesOne (t.IsExport home none) (t.exportEnvironment home none) :=
  .quiet_bind (reads_searchPath none).quiet fun path ⟨_, _, located⟩ => by
    obtain rfl := Except.ok.inj (Prod.mk.inj located).1
    exact (t.makesOne_exportedJson home none).bind_quiet fun _ => .ofExcept lasting_quiet _

theorem makesOne_exportSubmission (dir : Path) :
    MakesOne (fun c => ∃ path, t.IsExport submissionModule (some path) c)
      (t.exportEnvironment submissionModule (some dir)) :=
  .quiet_bind (reads_searchPath _).quiet fun path ⟨_, _, located⟩ => by
    obtain ⟨text, rfl⟩ := exists_of_searchPath located
    have one := (t.makesOne_exportedJson submissionModule (some text)).mono fun _ hc =>
      (⟨text, hc⟩ : ∃ path, t.IsExport submissionModule (some path) _)
    exact one.bind_quiet fun _ => .ofExcept lasting_quiet _

/-! ## What a call waits for -/

variable {t} {home : String} {source : Path} {m m' : Machine}

/-- **The reference is built**: it is announced, and the build ends well. -/
inductive Builds (t : Toolchain) (home : String) (m m' : Machine) : Prop
  | intro {result : BuildResult} {m₁ : Machine}
      (announced : printLine s!"Building reference module {home}..." m = (.ok (), m₁))
      (built : t.buildReference home m₁ = (.ok result, m'))
      (clean : m₁.upcoming.IsClean)

/-- **The reference is accepted**: it is built, the exporter ends well, and the value that it wrote
has the shape of the environment. -/
inductive Accepts (t : Toolchain) (home : String) (m : Machine) (env : Environment) : Prop
  | intro {data : Json} {m₁ : Machine} (builds : t.Builds home m m₁)
      (exports : t.Exports home none m₁ data) (shaped : Export.environment data = .ok env)

/-- **An upload is compiled**: it is announced, and its build in a temporary directory ends
well. -/
inductive BuildsUpload (t : Toolchain) (source : Path) (m : Machine) : Prop
  | intro {dir : Path} {result : BuildResult} {m₁ m₂ m₃ : Machine}
      (announced : printLine s!"Compiling submission {source.name}..." m = (.ok (), m₁))
      (prepared : makeScratch m₁ = (.ok dir, m₂))
      (built : t.buildSubmission source dir m₂ = (.ok result, m₃))
      (clean : m₂.upcoming.IsClean)

/-- **The calls that compile a reference**: none, the build, or after a build that ended well the
export too; and if the compilation ends with an environment, the reference is accepted. -/
theorem calls_compileReference {r : Except Failure Environment}
    (h : t.compileReference home m = (r, m')) :
    (∃ f, r = .error f) ∧ (m.Quiet m' ∨ ∃ b, t.IsBuild home b ∧ m.Makes [b] m') ∨
      ∃ b e m₁, t.IsBuild home b ∧ t.IsExport home none e ∧ m.Makes [b, e] m' ∧
        t.Builds home m m₁ ∧ ∀ env, r = .ok env → t.Accepts home m env := by
  unfold compileReference at h
  obtain ⟨_, failed, -⟩ | ⟨_, m₁, announced, h⟩ := bind_cases h
  · cases failed
  have shown : m.Quiet m₁ := by
    cases announced
    exact .of_eq rfl rfl
  obtain ⟨f, failed, rfl⟩ | ⟨result, m₂, built, h⟩ := bind_cases h
  · have := (t.makesOne_buildReference home).cases failed
    exact .inl ⟨⟨f, rfl⟩, this.imp (lasting_quiet.trans shown)
      fun ⟨b, hb, made⟩ => ⟨b, hb, shown.makes made⟩⟩
  obtain ⟨b, hb, made⟩ := (t.makesOne_buildReference home).exists_of_ok built
  have made := shown.makes made
  split at h
  · cases h
    exact .inl ⟨⟨_, rfl⟩, .inr ⟨b, hb, made.quiet (.of_eq rfl rfl)⟩⟩
  · next succeeded =>
    have clean := (reports_of_run built).success_iff.1 (by simpa using succeeded)
    have builds : t.Builds home m m₂ := .intro announced built clean
    obtain ⟨ended, m₃, exported, h⟩ := exists_of_attempt h
    have after : m₃.Quiet m' := by
      split at h <;> cases h <;> exact .of_eq rfl rfl
    obtain ⟨e, he, made'⟩ | ⟨quiet, f, rfl⟩ := t.makesOne_exportReference home m₂ ended m₃ exported
    · refine .inr ⟨b, e, m₂, hb, he, (made.trans made').quiet after, builds, ?_⟩
      rintro env rfl
      split at h
      · obtain ⟨_, m₄, -, h⟩ := bind_eq_ok_iff.1 h
        cases h
        obtain ⟨path, data, m₅, located, exports, shaped⟩ :=
          exportEnvironment_ok_iff.1 ⟨m₃, exported⟩
        cases located
        exact .intro builds exports shaped
      · cases h
      · cases h
    · have failed : ∃ f, r = .error f := by
        cases f <;> cases h <;> exact ⟨_, rfl⟩
      exact .inl ⟨failed, .inr ⟨b, hb, made.quiet (lasting_quiet.trans quiet after)⟩⟩

/-- The calls that try to compile an upload that was announced. -/
theorem calls_tryCompile {m₁ : Machine} {tried : Except Failure (Except String Environment)}
    (announced : printLine s!"Compiling submission {source.name}..." m = (.ok (), m₁))
    (h : t.tryCompile source m₁ = (tried, m')) :
    m₁.Quiet m' ∨ (∃ c, t.IsCompilation source c ∧ m₁.Makes [c] m') ∨
      ∃ c path e, t.IsCompilation source c ∧ t.IsExport submissionModule (some path) e ∧
        m₁.Makes [c, e] m' ∧ t.BuildsUpload source m := by
  obtain ⟨dir, m₂, m₃, prepared, worked, rfl⟩ := exists_of_withScratch h
  have before : m₁.Quiet m₂ := by
    cases prepared
    exact .of_eq rfl rfl
  have removed : m₃.Quiet { m₃ with tree := m₃.tree.prune dir.names } := .of_eq rfl rfl
  obtain ⟨f, failed, rfl⟩ | ⟨result, m₄, built, worked⟩ := bind_cases worked
  · obtain quiet | ⟨c, hc, made⟩ := (t.makesOne_buildSubmission source dir).cases failed
    · exact .inl (lasting_quiet.trans before (lasting_quiet.trans quiet removed))
    · exact .inr (.inl ⟨c, hc, before.makes (made.quiet removed)⟩)
  obtain ⟨c, hc, made⟩ := (t.makesOne_buildSubmission source dir).exists_of_ok built
  have made := before.makes made
  split at worked
  · cases worked
    exact .inr (.inl ⟨c, hc, made.quiet removed⟩)
  · next succeeded =>
    have clean := (reports_of_buildSubmission built).success_iff.1 (by simpa using succeeded)
    obtain ⟨ended, m₅, exported, worked⟩ := exists_of_attempt worked
    have after : m₅.Quiet m₃ := by
      split at worked <;> cases worked <;> exact .of_eq rfl rfl
    have after := lasting_quiet.trans after removed
    obtain quiet | ⟨e, ⟨path, he⟩, made'⟩ := (t.makesOne_exportSubmission dir).cases exported
    · exact .inr (.inl ⟨c, hc, made.quiet (lasting_quiet.trans quiet after)⟩)
    · exact .inr (.inr ⟨c, path, e, hc, he, (made.trans made').quiet after,
        .intro announced prepared built clean⟩)

/-- **The calls that compile an upload**: none, the compilation, or after one that ended well the
export too. -/
theorem calls_compileSubmission {reference : Environment}
    {r : Except Failure (Environment × String)}
    (h : t.compileSubmission source reference m = (r, m')) :
    m.Quiet m' ∨ (∃ c, t.IsCompilation source c ∧ m.Makes [c] m') ∨
      ∃ c path e, t.IsCompilation source c ∧ t.IsExport submissionModule (some path) e ∧
        m.Makes [c, e] m' ∧ t.BuildsUpload source m := by
  unfold compileSubmission at h
  obtain ⟨_, failed, -⟩ | ⟨_, m₁, announced, h⟩ := bind_cases h
  · cases failed
  have shown : m.Quiet m₁ := by
    cases announced
    exact .of_eq rfl rfl
  obtain ⟨tried, m₂, attempt, after⟩ : ∃ tried m₂, t.tryCompile source m₁ = (tried, m₂) ∧
      m₂.Quiet m' := by
    obtain ⟨e, failed, -⟩ | ⟨compiled, m₂, ended, h⟩ := bind_cases h
    · exact ⟨_, m', failed, .refl m'⟩
    · refine ⟨_, m₂, ended, ?_⟩
      cases compiled <;> cases h <;> exact .of_eq rfl rfl
  have around : ∀ {made}, m₁.Makes made m₂ → m.Makes made m' :=
    fun makes => shown.makes (makes.quiet after)
  obtain quiet | ⟨c, hc, made⟩ | ⟨c, path, e, hc, he, made, builds⟩ :=
    calls_tryCompile announced attempt
  · exact .inl (around quiet)
  · exact .inr (.inl ⟨c, hc, around made⟩)
  · exact .inr (.inr ⟨c, path, e, hc, he, around made, builds⟩)

end Toolchain

end ProofGrading
