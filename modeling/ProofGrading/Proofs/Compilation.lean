import ProofGrading.Proofs.ExportedSheet
import ProofGrading.Proofs.Failures

/-!
# Proofs/Compilation — when an upload compiles

An upload **compiles to** an environment when its build and its export end well and the file that
the exporter leaves is the JSON text of one (`Toolchain.Compiles`).  Compiling ends with an
environment just when the upload compiles to it (`tryCompile_ok_iff`), and else it tells why
(`details_ne_empty_of_tryCompile`); so an upload is graded against its own environment, or, if it
has none, against what is left of the reference (`compileSubmission_cases`).
-/

namespace ProofGrading

namespace Toolchain

open Job

variable {t : Toolchain} {m m' : Machine} {path : Option String}

/-! ## The export -/

/-- The file from which the exporter is run. -/
def exporter (m : Machine) : Path := ⟨.single, m.bundle ++ ["ExportEnv.lean"]⟩

/-- The file in a directory that the exporter is to write. -/
def exportFile (dir : Path) : Path := dir.child "environment.json"

/-- **An export**: in a temporary directory the exporter is run for a module, which ends well, and
it leaves a file that is the JSON text of a value. -/
inductive Exports (t : Toolchain) (home : String) (path : Option String) (m : Machine)
    (data : Json) : Prop
  | intro {dir : Path} {result : BuildResult} {text : List Char} {m₁ m₂ m₃ m₄ : Machine}
      (prepared : makeScratch m = (.ok dir, m₁))
      (ran : t.run "env" ["lean", "--run", (exporter m₁).text, home, (exportFile dir).text] path
        m₁ = (.ok result, m₂))
      (clean : m₁.upcoming.IsClean)
      (there : isThere (exportFile dir) m₂ = (.ok true, m₃))
      (read : readText (exportFile dir) m₃ = (.ok text, m₄))
      (json : Json.decodeChars Json.nestingLimit text = .ok data)

/-- **An export ends with the value that the exporter wrote.** -/
theorem exportedJson_ok_iff {home : String} {data : Json} :
    (∃ m', t.exportedJson home path m = (.ok data, m')) ↔ t.Exports home path m data := by
  unfold exportedJson
  constructor
  · rintro ⟨m', h⟩
    obtain ⟨dir, m₁, m₂, prepared, h, -⟩ := withScratch_eq_ok_iff.1 h
    obtain ⟨_, _, ⟨⟩, h⟩ := bind_eq_ok_iff.1 h
    obtain ⟨result, m₃, ran, h⟩ := bind_eq_ok_iff.1 h
    split at h
    · cases h
    · next succeeded =>
      obtain ⟨there, m₄, looked, h⟩ := bind_eq_ok_iff.1 h
      split at h
      · cases h
      · next found =>
        obtain ⟨text, m₅, read, h⟩ := bind_eq_ok_iff.1 h
        cases json : Json.decodeChars Json.nestingLimit text with
        | ok value =>
          rw [json] at h
          cases h
          have isThere : there = true := by simpa using found
          refine .intro prepared ran ((reports_of_run ran).success_iff.1 ?_) ?_ read json
          · simpa using succeeded
          · exact isThere ▸ looked
        | error e =>
          rw [json] at h
          cases h
  · rintro (@⟨dir, result, text, m₁, m₂, m₃, m₄, prepared, ran, clean, there, read, json⟩)
    have succeeded := (reports_of_run ran).success_iff.2 clean
    refine ⟨_, withScratch_eq_ok_iff.2 ⟨dir, m₁, m₄, prepared, ?_, rfl⟩⟩
    refine bind_eq_ok_iff.2 ⟨m₁, m₁, rfl, bind_eq_ok_iff.2 ⟨result, m₂, ran, ?_⟩⟩
    rw [if_neg (by simp [succeeded])]
    refine bind_eq_ok_iff.2 ⟨true, m₃, there, ?_⟩
    rw [if_neg (by simp)]
    refine bind_eq_ok_iff.2 ⟨text, m₄, read, ?_⟩
    rw [json]
    rfl

/-- An export is followed by the reading of the environment. -/
theorem exportEnvironment_ok_iff {home : String} {dir : Option Path} {env : Environment} :
    (∃ m', t.exportEnvironment home dir m = (.ok env, m')) ↔
      ∃ path data m₁, searchPath dir m = (.ok path, m₁) ∧ t.Exports home path m₁ data ∧
        Export.environment data = .ok env := by
  unfold exportEnvironment
  constructor
  · rintro ⟨m', h⟩
    obtain ⟨path, m₁, located, h⟩ := bind_eq_ok_iff.1 h
    obtain ⟨data, m₂, exported, h⟩ := bind_eq_ok_iff.1 h
    exact ⟨path, data, m₁, located, exportedJson_ok_iff.1 ⟨m₂, exported⟩,
      eq_ok_of_mapError (Prod.mk.inj h).1⟩
  · rintro ⟨path, data, m₁, located, exports, shaped⟩
    obtain ⟨m₂, exported⟩ := exportedJson_ok_iff.2 exports
    have environment : environmentOf data = .ok env := by
      rw [environmentOf, shaped]
      rfl
    exact ⟨m₂, bind_eq_ok_iff.2 ⟨path, m₁, located,
      bind_eq_ok_iff.2 ⟨data, m₂, exported, congrArg (·, m₂) environment⟩⟩⟩

/-- **A compiled reference is priced.** -/
theorem priced_of_compileReference {home : String} {reference : Environment}
    (h : t.compileReference home m = (.ok reference, m')) : reference.IsPriced := by
  unfold compileReference at h
  obtain ⟨_, m₁, -, h⟩ := bind_eq_ok_iff.1 h
  obtain ⟨result, m₂, -, h⟩ := bind_eq_ok_iff.1 h
  split at h
  · obtain ⟨_, m₃, -, h⟩ := bind_eq_ok_iff.1 h
    cases h
  · obtain ⟨ended, m₃, exported, h⟩ := exists_of_attempt h
    split at h
    · obtain ⟨_, m₄, -, h⟩ := bind_eq_ok_iff.1 h
      cases h
      obtain ⟨_, data, _, -, -, shaped⟩ := exportEnvironment_ok_iff.1 ⟨m₃, exported⟩
      exact Export.priced_of_environment shaped
    · cases h
    · cases h

/-! ## The build and the export of an upload -/

theorem reports_of_buildSubmission {source dir : Path} {result : BuildResult}
    (h : t.buildSubmission source dir m = (.ok result, m')) :
    t.Reports "env" m.upcoming result := by
  obtain ⟨object, m₁, resolved, h⟩ := bind_eq_ok_iff.1 h
  rw [eq_of_look resolved] at h
  obtain ⟨source, m₂, resolved, h⟩ := bind_eq_ok_iff.1 h
  rw [eq_of_look resolved] at h
  exact reports_of_run h

/-- **An upload compiles to an environment**: it is announced and built in a temporary directory,
which ends well; so does the export of what was built, and the value that the exporter wrote has the
shape of the environment. -/
inductive Compiles (t : Toolchain) (source : Path) (m : Machine) (env : Environment) : Prop
  | intro {dir : Path} {path : Option String} {result : BuildResult} {data : Json}
      {m₀ m₁ m₂ m₃ : Machine}
      (announced : printLine s!"Compiling submission {source.name}..." m = (.ok (), m₀))
      (prepared : makeScratch m₀ = (.ok dir, m₁))
      (built : t.buildSubmission source dir m₁ = (.ok result, m₂))
      (clean : m₁.upcoming.IsClean)
      (located : searchPath (some dir) m₂ = (.ok path, m₃))
      (exports : t.Exports submissionModule path m₃ data)
      (shaped : Export.environment data = .ok env)

theorem Compiles.kind {source : Path} {env : Environment} (h : t.Compiles source m env) :
    env.kind = .compiled := by
  obtain @⟨_, _, _, _, _, _, _, _, _, _, _, _, _, _, shaped⟩ := h
  exact Export.kind_of_environment shaped

section

variable {source : Path} {env : Environment} {m₀ : Machine}

/-- **Compiling ends with an environment just when the upload compiles to it.** -/
theorem tryCompile_ok_iff
    (announced : printLine s!"Compiling submission {source.name}..." m = (.ok (), m₀)) :
    (∃ m', t.tryCompile source m₀ = (.ok (.ok env), m')) ↔ t.Compiles source m env := by
  unfold tryCompile
  constructor
  · rintro ⟨m', h⟩
    obtain ⟨dir, m₁, m₂, prepared, h, -⟩ := withScratch_eq_ok_iff.1 h
    obtain ⟨result, m₃, built, h⟩ := bind_eq_ok_iff.1 h
    split at h
    · cases h
    · next succeeded =>
      obtain ⟨ended, m₄, exported, h⟩ := exists_of_attempt h
      split at h
      · next env' =>
        obtain ⟨_, m₅, -, h⟩ := bind_eq_ok_iff.1 h
        cases h
        obtain ⟨path, data, m₆, located, exports, shaped⟩ :=
          exportEnvironment_ok_iff.1 ⟨m₄, exported⟩
        have clean := (reports_of_buildSubmission built).success_iff.1 (by simpa using succeeded)
        exact .intro announced prepared built clean located exports shaped
      · cases h
      · cases h
  · rintro (@⟨dir, path, result, data, m₀', m₁, m₂, m₃, announced', prepared, built, clean, located,
      exports, shaped⟩)
    cases announced.symm.trans announced'
    have succeeded := (reports_of_buildSubmission built).success_iff.2 clean
    obtain ⟨m₄, exported⟩ := exportEnvironment_ok_iff.2 ⟨path, data, m₃, located, exports, shaped⟩
    obtain ⟨m₅, told⟩ : ∃ m₅, printLine "  Submission: COMPILED" m₄ = (.ok (), m₅) := ⟨_, rfl⟩
    refine ⟨_, withScratch_eq_ok_iff.2 ⟨dir, m₁, m₅, prepared, ?_, rfl⟩⟩
    refine bind_eq_ok_iff.2 ⟨result, m₂, built, ?_⟩
    rw [if_neg (by simp [succeeded])]
    refine bind_eq_ok_iff.2 ⟨.ok env, m₄, attempt_eq_ok_iff.2 exported, ?_⟩
    exact bind_eq_ok_iff.2 ⟨(), m₅, told, rfl⟩

/-- An export that fails for a reason of its own says why. -/
theorem permits_details :
    Permits fun f => ∀ details, f = .toolchain details → details ≠ "" where
  files _ := nofun
  interrupted := nofun
  broken _ := nofun
  badText := nofun
  badValue := nofun
  tooDeep := nofun
  toolchain _ said := by
    rintro _ ⟨⟩
    exact said

/-- **An upload that does not compile is told why.** -/
theorem details_ne_empty_of_tryCompile {details : String}
    (h : t.tryCompile source m = (.ok (.error details), m')) : details ≠ "" := by
  unfold tryCompile at h
  obtain ⟨dir, m₁, m₂, prepared, h, -⟩ := withScratch_eq_ok_iff.1 h
  obtain ⟨result, m₃, built, h⟩ := bind_eq_ok_iff.1 h
  split at h
  · next failed =>
    cases h
    exact BuildResult.details_ne_empty (reports_of_buildSubmission built).explains
      (by simpa using failed) _
  · obtain ⟨ended, m₄, exported, h⟩ := exists_of_attempt h
    split at h
    · obtain ⟨_, m₅, -, h⟩ := bind_eq_ok_iff.1 h
      cases h
    · cases h
      exact t.raises_exportEnvironment permits_details _ _ _ _ _ exported _ rfl
    · cases h

/-- **How the compilation of an upload ends, if it does**: with the environment that it compiles to,
or, if there is none, with what is left of the reference and a warning that says why. -/
theorem compileSubmission_cases {reference : Environment} {warning : String}
    (h : t.compileSubmission source reference m = (.ok (env, warning), m')) :
    (t.Compiles source m env ∧ env.kind = .compiled ∧ warning = "") ∨
      (∀ e, ¬t.Compiles source m e) ∧ env = reference.degraded ∧
        ∃ details, details ≠ "" ∧ warning = submissionBuildWarning ++ "\n\n" ++ details := by
  obtain ⟨_, m₀, announced, h⟩ := bind_eq_ok_iff.1 h
  obtain ⟨compiled, m₁, tried, h⟩ := bind_eq_ok_iff.1 h
  cases compiled with
  | ok env' =>
    have compiles := (tryCompile_ok_iff announced).1 ⟨m₁, tried⟩
    cases h
    exact .inl ⟨compiles, compiles.kind, rfl⟩
  | error details =>
    have none_compiles : ∀ e, ¬t.Compiles source m e := by
      intro e compiles
      obtain ⟨m₂, tried'⟩ := (tryCompile_ok_iff announced).2 compiles
      cases tried.symm.trans tried'
    have said := details_ne_empty_of_tryCompile tried
    obtain ⟨_, m₂, -, h⟩ := bind_eq_ok_iff.1 h
    cases h
    exact .inr ⟨none_compiles, rfl, details, said, rfl⟩

end

end Toolchain

end ProofGrading
