import ProofGrading.Proofs.Failures
import ProofGrading.Proofs.FileWriting
import ProofGrading.Proofs.Writability

/-!
# Proofs/ResultsDocument — what a run leaves for the student

A run up to the writing of its document comes to a `Conclusion`: settings that cannot be read, a
grading that failed, or a report.  It always comes to one (`exists_concludes`), the document tells
how it ended (`Concludes.truthful`), and what follows is the writing of that document and no more
(`Concludes.wrote`).  So where the results can be written there is a document of this very run,
unless the reason in it holds half of a surrogate pair; then the run ends without one
(`gradingProgram_leaves_document`).
-/

namespace ProofGrading

/-! ## What a run comes to -/

/-- What is told in place of a report: the wording of a failure that explains itself, and of the
others no more than that they are unexpected. -/
def Failure.told (f : Failure) : String :=
  if f.exitCode?.isSome then f.message else unexpectedErrorMessage

/-- What a run comes to before its document is written. -/
inductive Conclusion where
  | unsettled (f : Failure)
  | failed (s : Settings) (f : Failure)
  | graded (s : Settings) (r : Report)

namespace Conclusion

/-- Where the document goes: where the settings say, or the standard place without settings. -/
def results : Conclusion → Path
  | unsettled _ => ({} : Settings).results
  | failed s _ => s.results
  | graded s _ => s.results

/-- The failure that a run ended in. -/
def failure? : Conclusion → Option Failure
  | unsettled f => some f
  | failed _ f => some f
  | graded _ _ => none

/-- The reason that stands in place of a report. -/
def reason? : Conclusion → Option String
  | unsettled f => some ("Grader configuration error: " ++ f.message)
  | failed _ f => some f.told
  | graded _ _ => none

/-- The document to be written. -/
def document (c : Conclusion) : Json :=
  match c with
  | unsettled f => fatalDocument ("Grader configuration error: " ++ f.message)
  | failed _ f => fatalDocument f.told
  | graded _ r => r.document

/-- The exit code. -/
def code : Conclusion → Nat
  | unsettled _ => 1
  | failed _ f => f.exitCode?.getD 1
  | graded _ _ => 0

end Conclusion

/-! ## Documents -/

/-- A report: at least one entry for an exercise. -/
def Json.IsReport (j : Json) : Prop :=
  ∃ fields entry rest, j = .obj fields ∧ field? fields "tests" = some (.arr (entry :: rest))

/-- What stands in place of a report: no entries, no points, and a reason that says something. -/
def Json.IsFatal (j : Json) : Prop :=
  ∃ fields reason, j = .obj fields ∧ field? fields "tests" = none ∧
    field? fields "score" = some (.float 0.0) ∧ field? fields "output" = some (.str reason) ∧
    reason ≠ ""

theorem Report.isReport_document (r : Report) : r.document.IsReport := by
  obtain ⟨results, summary, nonempty⟩ := r
  obtain ⟨e, rest, rfl⟩ := List.exists_cons_of_ne_nil nonempty
  exact ⟨_, entry e, rest.map entry, rfl, rfl⟩

theorem isFatal_fatalDocument {reason : String} (h : reason ≠ "") :
    (fatalDocument reason).IsFatal := ⟨_, reason, rfl, rfl, rfl, rfl, h⟩

/-- **What stands in place of a report has bytes unless its reason has none.** -/
theorem bytes?_fatalText_eq_none_iff {reason : String} :
    Text.bytes? (fatalText reason) = none ↔ Text.holdsHalf reason = true := by
  have texts : (fatalDocument reason).texts =
      ["output", reason, "score", "output_format", outputFormat] := rfl
  have named : ∀ s ∈ ["score", "output_format", outputFormat], ¬Text.holdsHalf s = true := by
    decide
  rw [fatalText, Json.bytes?_document_eq_none_iff, texts]
  constructor
  · rintro ⟨s, hs, half⟩
    rw [List.mem_cons, List.mem_cons] at hs
    rcases hs with rfl | rfl | hs
    · exact absurd half (by decide)
    · exact half
    · exact absurd half (named s hs)
  · exact fun half => ⟨reason, List.mem_cons_of_mem _ (List.mem_cons_self ..), half⟩

/-- A document and an exit code that go together with how a run ended. -/
def Conclusion.Truthful (c : Conclusion) : Prop :=
  match c.failure? with
  | none => c.document.IsReport ∧ c.code = 0
  | some f => c.document.IsFatal ∧
    (c.code = 0 ∧ (∃ reason, f = .submission reason) ∨
      c.code = 1 ∧ ¬∃ reason, f = .submission reason)

/-! ## A run comes to a conclusion -/

theorem Failure.told_ne_empty {f : Failure} (h : f.Explained) : f.told ≠ "" := by
  unfold told
  split
  · next own => exact h (Option.isSome_iff_ne_none.1 own)
  · decide

/-- A failure of the grader's own is an upload that cannot be graded, or counts as an error. -/
theorem Failure.code_cases (f : Failure) :
    f.exitCode?.getD 1 = 0 ∧ (∃ reason, f = .submission reason) ∨
      f.exitCode?.getD 1 = 1 ∧ ¬∃ reason, f = .submission reason := by
  cases f with
  | submission reason => exact Or.inl ⟨rfl, reason, rfl⟩
  | _ => exact Or.inr ⟨rfl, fun ⟨_, h⟩ => Failure.noConfusion h⟩

namespace Conclusion

theorem truthful_unsettled {f : Failure} (h : f.IsForeign) : (unsettled f).Truthful := by
  refine ⟨isFatal_fatalDocument (ne_empty_append (by decide) _), Or.inr ⟨rfl, ?_⟩⟩
  rintro ⟨reason, rfl⟩
  cases h.1

theorem truthful_failed (s : Settings) {f : Failure} (h : f.Explained) : (failed s f).Truthful :=
  ⟨isFatal_fatalDocument (Failure.told_ne_empty h), f.code_cases⟩

theorem truthful_graded (s : Settings) (r : Report) : (graded s r).Truthful :=
  ⟨r.isReport_document, rfl⟩

end Conclusion

namespace GradingRun

/-- **A run up to the writing of its document** comes to a conclusion on a machine.  A report that
holds half of a surrogate pair has no bytes; being refused is how that run ends. -/
inductive Concludes (inv : Invocation) (m : Machine) : Conclusion → Machine → Prop
  | unsettled {f : Failure} {m₁ : Machine}
      (found : Settings.find (.ofString inv.settings) m = (.error f, m₁)) :
      Concludes inv m (.unsettled f) m₁
  | failed {s : Settings} {f : Failure} {m₀ m₁ : Machine}
      (found : Settings.find (.ofString inv.settings) m = (.ok s, m₀))
      (reported : report s inv m₀ = (.error f, m₁)) : Concludes inv m (.failed s f) m₁
  | refused {s : Settings} {r : Report} {m₀ m₁ : Machine}
      (found : Settings.find (.ofString inv.settings) m = (.ok s, m₀))
      (reported : report s inv m₀ = (.ok r, m₁)) (bytes : Text.bytes? r.text = none) :
      Concludes inv m (.failed s .unwritable) m₁
  | graded {s : Settings} {r : Report} {m₀ m₁ : Machine} {data : ByteArray}
      (found : Settings.find (.ofString inv.settings) m = (.ok s, m₀))
      (reported : report s inv m₀ = (.ok r, m₁)) (bytes : Text.bytes? r.text = some data) :
      Concludes inv m (.graded s r) m₁

variable {inv : Invocation} {m m₁ : Machine} {c : Conclusion}

/-- **Every run comes to a conclusion.** -/
theorem exists_concludes (inv : Invocation) (m : Machine) : ∃ c m₁, Concludes inv m c m₁ := by
  rcases hf : Settings.find (.ofString inv.settings) m with ⟨found, m₀⟩
  cases found with
  | error f => exact ⟨_, _, .unsettled hf⟩
  | ok s =>
    rcases hr : report s inv m₀ with ⟨reported, m₁⟩
    cases reported with
    | error f => exact ⟨_, _, .failed hf hr⟩
    | ok r =>
      cases hb : Text.bytes? r.text with
      | none => exact ⟨_, _, .refused hf hr hb⟩
      | some data => exact ⟨_, _, .graded hf hr hb⟩

/-- **The document tells how the run ended.** -/
theorem Concludes.truthful (h : Concludes inv m c m₁) : c.Truthful := by
  cases h with
  | unsettled found => exact Conclusion.truthful_unsettled (Settings.raises_find _ _ _ _ found)
  | failed _ reported => exact Conclusion.truthful_failed _ (raises_report _ _ _ _ _ reported)
  | refused => exact Conclusion.truthful_failed _ (Failure.explained_of_foreign rfl)
  | graded => exact Conclusion.truthful_graded _ _

/-! ## What follows is the writing of the document -/

/-- **How a run ends that has a text to write** and a machine to write it on: with a code, and the
text is there; or the text has no bytes, the run fails for that and the files are as they were. -/
inductive Wrote (m : Machine) (results : Path) (text : String) (code : Nat) :
    Except Failure Nat × Machine → Prop
  | written {data : ByteArray} {m' : Machine} (bytes : Text.bytes? text = some data)
      (read : m'.tree.read m'.home results = .ok data) : Wrote m results text code (.ok code, m')
  | refused {m' : Machine} (bytes : Text.bytes? text = none)
      (untouched : m'.tree = m.tree ∧ m'.home = m.home) :
      Wrote m results text code (.error .unwritable, m')

theorem wrote_giveUp {results : Path} (told reason : String) (code : Nat)
    (h : m.tree.CanWrite m.home results) :
    Wrote m results (fatalText reason) code (giveUp results told reason code m) := by
  let shown : Machine := { m with printed := m.printed ++ (told ++ "\n") }
  have printed : Job.printLine told m = (.ok (), shown) := rfl
  rw [giveUp, Job.bind_ok printed]
  cases bytes : Text.bytes? (fatalText reason) with
  | some data =>
    obtain ⟨tree, written, read⟩ := Machine.writeText_ok (m := shown) h bytes
    rw [Job.bind_ok written]
    exact .written bytes read
  | none =>
    rw [Job.bind_error (Machine.writeText_unwritable bytes)]
    exact .refused bytes ⟨rfl, rfl⟩

/-- Every failure is given up on with what is told of it. -/
theorem conclude_error (results : Path) (f : Failure) :
    ∃ said, conclude results (.error f) = giveUp results said f.told (f.exitCode?.getD 1) := by
  cases f <;> exact ⟨_, rfl⟩

/-- Without settings the run gives up at the standard place. -/
theorem run_of_unsettled {f : Failure} (h : f ≠ .interrupted)
    (found : Settings.find (.ofString inv.settings) m = (.error f, m₁)) :
    ∃ said, run inv m = giveUp ({} : Settings).results said
      ("Grader configuration error: " ++ f.message) 1 m₁ := by
  have caught : Job.attempt (Settings.find (.ofString inv.settings)) m = (.ok (.error f), m₁) := by
    rw [Job.attempt, found]
  rw [run, Job.bind_ok caught]
  cases f with
  | interrupted => exact (h rfl).elim
  | _ => exact ⟨_, rfl⟩

/-- With settings the run concludes whatever the grading comes to. -/
theorem run_of_settled {s : Settings} {m₀ : Machine} {ended : Except Failure Unit}
    (found : Settings.find (.ofString inv.settings) m = (.ok s, m₀))
    (graded : gradeAndWrite s inv m₀ = (ended, m₁)) :
    run inv m = conclude s.results ended m₁ := by
  have settled : Job.attempt (Settings.find (.ofString inv.settings)) m = (.ok (.ok s), m₀) := by
    rw [Job.attempt, found]
  have caught : Job.attempt (gradeAndWrite s inv) m₀ = (.ok ended, m₁) := by
    rw [Job.attempt, graded]
  rw [run, Job.bind_ok settled]
  exact Job.bind_ok caught _

theorem gradeAndWrite_ok {s : Settings} {r : Report} {m₀ : Machine} {data : ByteArray}
    (reported : report s inv m₀ = (.ok r, m₁)) (writable : m₁.tree.CanWrite m₁.home s.results)
    (bytes : Text.bytes? r.text = some data) :
    ∃ m₂, gradeAndWrite s inv m₀ = (.ok (), m₂) ∧ m₂.tree.read m₂.home s.results = .ok data := by
  obtain ⟨tree, written, read⟩ := Machine.writeText_ok writable bytes
  exact ⟨_, (Job.bind_ok reported _).trans (Job.bind_ok written _), read⟩

theorem gradeAndWrite_unwritable {s : Settings} {r : Report} {m₀ : Machine}
    (reported : report s inv m₀ = (.ok r, m₁)) (bytes : Text.bytes? r.text = none) :
    gradeAndWrite s inv m₀ = (.error .unwritable, m₁) :=
  (Job.bind_ok reported _).trans (Job.bind_error (Machine.writeText_unwritable bytes) _)

/-- **A run writes the document of its conclusion**, and ends with its code. -/
theorem Concludes.wrote (h : Concludes inv m c m₁)
    (writable : m₁.tree.CanWrite m₁.home c.results) :
    Wrote m₁ c.results c.document.document c.code (run inv m) := by
  cases h with
  | unsettled found =>
    obtain ⟨said, hrun⟩ := run_of_unsettled (Settings.raises_find _ _ _ _ found).2 found
    rw [hrun]
    exact wrote_giveUp said ("Grader configuration error: " ++ _) 1 writable
  | @failed s f m₀ _ found reported =>
    obtain ⟨said, hgive⟩ := conclude_error s.results f
    rw [run_of_settled found (Job.bind_error reported _), hgive]
    exact wrote_giveUp said _ _ writable
  | refused found reported bytes =>
    rw [run_of_settled found (gradeAndWrite_unwritable reported bytes)]
    exact wrote_giveUp _ _ _ writable
  | graded found reported bytes =>
    obtain ⟨m₂, written, read⟩ := gradeAndWrite_ok reported writable bytes
    rw [run_of_settled found written]
    exact .written bytes read

end GradingRun

/-! ## The program -/

/-- The reason that is to stand in place of a report holds half of a surrogate pair. -/
def Conclusion.IsUnwritable (c : Conclusion) : Prop :=
  ∃ reason, c.reason? = some reason ∧ Text.holdsHalf reason = true

theorem Conclusion.document_of_reason? {c : Conclusion} {reason : String}
    (h : c.reason? = some reason) : c.document = fatalDocument reason := by
  cases c with
  | graded => cases h
  | _ => cases h; rfl

/-- The document of a run has bytes unless its reason has none. -/
theorem GradingRun.Concludes.bytes?_eq_none_iff {inv : Invocation} {m m₁ : Machine}
    {c : Conclusion} (h : Concludes inv m c m₁) :
    Text.bytes? c.document.document = none ↔ c.IsUnwritable := by
  cases hr : c.reason? with
  | some reason =>
    rw [Conclusion.document_of_reason? hr, ← fatalText, bytes?_fatalText_eq_none_iff,
      Conclusion.IsUnwritable, hr]
    constructor
    · exact fun half => ⟨reason, rfl, half⟩
    · rintro ⟨_, same, half⟩
      exact Option.some.inj same ▸ half
  | none =>
    cases h with
    | @graded s r _ _ data _ _ bytes =>
      have written : Text.bytes? (Conclusion.graded s r).document.document = some data := bytes
      rw [written]
      exact iff_of_false (Option.some_ne_none data) fun ⟨_, hn, _⟩ => nomatch hn
    | _ => cases hr

namespace GradingRun

variable {arguments : List String} {inv : Invocation} {m m₁ : Machine} {c : Conclusion}

theorem gradingProgram_eq (accepted : CommandLine.parse arguments = .ok inv) (m : Machine) :
    gradingProgram arguments m = (run inv >>= fun code => return .exited code) m := by
  rw [gradingProgram, accepted]

/-- A document whose reason can be written is there at the end. -/
theorem Concludes.gradingProgram_ok (h : Concludes inv m c m₁)
    (accepted : CommandLine.parse arguments = .ok inv)
    (writable : m₁.tree.CanWrite m₁.home c.results) (hw : ¬c.IsUnwritable) :
    ∃ m₂ data, gradingProgram arguments m = (.ok (.exited c.code), m₂) ∧
      Text.bytes? c.document.document = some data ∧
      m₂.tree.read m₂.home c.results = .ok data := by
  have wrote := h.wrote writable
  rw [gradingProgram_eq accepted]
  rcases ended : run inv m with ⟨result, m₂⟩
  rw [ended] at wrote
  cases wrote with
  | @written data _ bytes read =>
    rw [Job.bind_ok ended]
    exact ⟨m₂, data, rfl, bytes, read⟩
  | refused bytes => exact (hw (h.bytes?_eq_none_iff.1 bytes)).elim

/-- A reason that cannot be written ends the run without a document. -/
theorem Concludes.gradingProgram_error (h : Concludes inv m c m₁)
    (accepted : CommandLine.parse arguments = .ok inv)
    (writable : m₁.tree.CanWrite m₁.home c.results) (hw : c.IsUnwritable) :
    ∃ m₂, gradingProgram arguments m = (.error .unwritable, m₂) ∧ m₂.tree = m₁.tree ∧
      m₂.home = m₁.home := by
  have wrote := h.wrote writable
  rw [gradingProgram_eq accepted]
  rcases ended : run inv m with ⟨result, m₂⟩
  rw [ended] at wrote
  cases wrote with
  | written bytes => exact nomatch (h.bytes?_eq_none_iff.2 hw).symm.trans bytes
  | refused bytes untouched =>
    rw [Job.bind_error ended]
    exact ⟨m₂, rfl, untouched⟩

end GradingRun

theorem Settings.find_standardFile {m : Machine}
    (absent : m.tree.isThere m.home standardFile = .ok false) :
    Settings.find standardFile m = (.ok {}, m) := by
  have looked : Job.isThere standardFile m = (.ok false, m) := by
    rw [Job.isThere, Job.look, absent]
    rfl
  rw [Settings.find, if_pos (beq_self_eq_true _), Job.bind_ok looked]
  rfl

/-- A file that is given and not there ends the run, and nothing has happened. -/
theorem GradingRun.report_of_missing {s : Settings} {inv : Invocation} {m : Machine}
    {home file : String} (given : inv.given = some (home, file)) (named : home.isEmpty = false)
    (absent : m.tree.isFile m.home (.ofString file) = .ok false) :
    report s inv m =
      (.error (.submission ("Submission file not found: " ++ (Path.ofString file).text)), m) := by
  have looked : Job.isFile (.ofString file) m = (.ok false, m) := by
    rw [Job.isFile, Job.look, absent]
    rfl
  have missing : sources s (some (home, file)) m =
      (.error (.submission ("Submission file not found: " ++ (Path.ofString file).text)), m) := by
    unfold sources
    dsimp only
    rw [named, if_neg Bool.false_ne_true]
    exact Job.bind_ok looked _
  rw [report, given]
  exact Job.bind_error missing _

/-- A name that is a path of its own, can be looked up and is not too long. -/
def IsPlainName (name : String) : Prop :=
  Path.ofString name = ⟨.relative, [name]⟩ ∧ Text.isFileName name = true ∧
    name.toList.contains '\x00' = false ∧ name ≠ ".." ∧ Text.nameSize name ≤ FileTree.nameLimit

instance (name : String) : Decidable (IsPlainName name) :=
  inferInstanceAs (Decidable (_ ∧ _ ∧ _ ∧ _ ∧ _))

/-- A machine with the results of an earlier run and little else. -/
def sampleMachine : Machine where
  home := ["work"]
  scratch := ["tmp"]
  scratchName := "grading"
  bundle := ["bundle"]
  tree :=
    { nodes := [(["work"], .directory), (["results"], .directory),
        (["results", "results.json"], .file "older".toUTF8)] }

namespace sampleMachine

open FileTree

/-- No file stands at a plain name in the working directory. -/
theorem locate_name {name : String} (h : IsPlainName name) :
    sampleMachine.tree.locate ["work"] (.ofString name) = .ok ⟨["work", name], none⟩ := by
  obtain ⟨path, spelled, plain, proper, fits⟩ := h
  have free : sampleMachine.tree.node? ["work", name] = none := by
    simp [node?, sampleMachine]
  have led : Leads sampleMachine.tree ["work"] [name] ["work", name] :=
    .last proper fits fun h => by cases free.symm.trans h
  have short : Text.nameSize (Path.mk .relative [name]).text < pathLimit := by
    rw [Path.text_name]
    exact Nat.lt_of_le_of_lt fits (by decide)
  rw [path]
  refine locate_eq_ok_iff.2 ⟨by simpa using spelled, by simpa using plain, short, ?_⟩
  exact led.walk_eq.trans (by rw [free])

theorem locate_results : sampleMachine.tree.locate ["work"] ({} : Settings).results =
    .ok ⟨["results", "results.json"], some (.file "older".toUTF8)⟩ := by
  have path : ({} : Settings).results = ⟨.relative, ["..", "results", "results.json"]⟩ := by
    decide +kernel
  have older : sampleMachine.tree.node? ["results", "results.json"] =
      some (.file "older".toUTF8) := by
    simp [node?, sampleMachine]
  have led : Leads sampleMachine.tree ["work"] ["..", "results", "results.json"]
      ["results", "results.json"] :=
    .up (.down (by decide) (by decide) rfl (.last (by decide) (by decide) fun h => by
      cases older.symm.trans h))
  rw [path]
  refine locate_eq_ok_iff.2 ⟨by decide +kernel, by decide +kernel, by decide +kernel, ?_⟩
  exact led.walk_eq.trans (by rw [older])

theorem canWrite_results :
    sampleMachine.tree.CanWrite sampleMachine.home ({} : Settings).results := by
  have parent : ({} : Settings).results.parent = ⟨.relative, ["..", "results"]⟩ := by
    decide +kernel
  have there : sampleMachine.tree.locate ["work"] ({} : Settings).results.parent =
      .ok ⟨["results"], some .directory⟩ := by
    have fits : ¬nameLimit < Text.nameSize "results" := by decide
    rw [parent]
    refine locate_eq_ok_iff.2 ⟨by decide +kernel, by decide +kernel, by decide +kernel, ?_⟩
    simp [walk, fits, step, node?, sampleMachine, Path.isAbsolute]
  exact canWrite_of_directory there locate_results fun h => by cases h

/-- A run on a file that is not there says so. -/
theorem concludes_missing {file : String} (h : IsPlainName file) :
    GradingRun.Concludes { given := some ("Sheet", file) } sampleMachine
      (.failed {} (.submission ("Submission file not found: " ++ file))) sampleMachine := by
  have standard : IsPlainName "grader_config.yml" := by decide +kernel
  have unsettled : sampleMachine.tree.isThere ["work"] Settings.standardFile = .ok false := by
    rw [Settings.standardFile, isThere, asks, locate_name standard]
  have missing : sampleMachine.tree.isFile ["work"] (.ofString file) = .ok false := by
    rw [isFile, asks, locate_name h]
  have reported : GradingRun.report {} { given := some ("Sheet", file) } sampleMachine = _ :=
    GradingRun.report_of_missing rfl rfl missing
  rw [h.1, Path.text_name] at reported
  exact .failed (Settings.find_standardFile unsettled) reported

end sampleMachine

/-- A file name that is half of a surrogate pair. -/
def halfName : String := .ofList [Text.mark, Char.ofNat 0x10FCFF]

end ProofGrading
