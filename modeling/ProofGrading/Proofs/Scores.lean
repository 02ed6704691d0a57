import ProofGrading.Proofs.Credit
import ProofGrading.Proofs.Degrading
import ProofGrading.Proofs.Documents

/-!
# Proofs/Scores — the scores that a results document tells

An exercise that was passed gives the points that its declaration was exported with, and any other
gives none (`score_of_verify`).  Points are not negative, but they may be infinite.  Main statement:
from the document of an exported sheet each score is read as a number, but for those of passed
exercises with points that are not finite, and these are read as `null` (`scores_read_back`).
-/

namespace ProofGrading

/-- The score that an entry of a document tells. -/
def Json.score? : Json → Option Json
  | .obj fields => field? fields "score"
  | _ => none

variable {checker : Checker} {policy : Option AxiomPolicy} {reference submission : Environment}

/-- **What is passed gives its points**, and nothing else gives any. -/
theorem score_of_verify {e : Exercise} {v : Verdict}
    (graded : verify checker policy e reference submission = .ok v) :
    v.result.score = if v.result.status = .passed then e.points else 0.0 := by
  obtain passed | ⟨failed, none⟩ := result_of_verify graded
  · rw [passed, if_pos rfl]
  · rw [if_neg failed, none]

/-- What the entry of a verdict tells: a number, or `null` for points that are not finite. -/
def Verdict.ScoredBy (reference : Environment) (home : String) (v : Verdict) (entry : Json) :
    Prop :=
  ∃ d ∈ reference.declarations, ∃ points, d.home = some home ∧ d.name = v.result.name ∧
    d.points = some points ∧ 0.0 ≤ points ∧
    ((v.result.status = .passed → Json.isFinite points = true) →
      ∃ x, entry.score? = some (.float x)) ∧
    (v.result.status = .passed ∧ Json.isFinite points = false → entry.score? = some .null)

theorem scoredBy_entryRead {home : String} (priced : reference.IsPriced) {es : List Exercise}
    (listed : reference.exercises home none = .ok es) {e : Exercise} (he : e ∈ es) {v : Verdict}
    (graded : verify checker policy e reference submission = .ok v) :
    v.ScoredBy reference home (Report.entryRead v.result) := by
  obtain ⟨d, declared, at_home, called, worth⟩ := priced.points_of_listed listed he
  have score : (Report.entryRead v.result).score? = some (Json.readBack v.result.score) := rfl
  rw [score_of_verify graded] at score
  refine ⟨d, declared, e.points, at_home, called.trans (name_of_verify graded).1.symm, worth,
    priced d declared _ worth, fun finite => ?_, fun ⟨passed, infinite⟩ => ?_⟩
  · rw [score]
    split
    · next passed =>
      obtain ⟨x, read⟩ := Json.exists_readBack (finite passed)
      exact ⟨x, congrArg some read⟩
    · exact ⟨0.0, congrArg some Json.readBack_zero⟩
  · rw [score, if_pos passed, Json.readBack_of_not_isFinite infinite]

/-- **Every score is read as a number where points are finite.**  For an exported reference, any
submission and any module: when grading, the report and its writing come to an end, the document is
read as one entry for each verdict in its order.  Its score is a number, unless the exercise was
passed and its exported points are not finite, and then it is `null`. -/
theorem scores_read_back {data : Json} {home : String} {verdicts : List Verdict}
    {summary : Scalar} {r : Report} {m m' : Machine} {p : Path}
    (exported : Export.environment data = .ok reference)
    (graded : grade checker policy reference submission home none = .ok verdicts)
    (reported : Report.ofResults (verdicts.map (·.result)) summary = .ok r)
    (wrote : Job.writeText p r.text m = (.ok (), m')) :
    ∃ tests, m'.tree.HoldsJson m'.home p (.obj [("tests", .arr tests), ("output", .str r.summary),
        ("output_format", .str outputFormat)]) ∧
      List.Forall₂ (Verdict.ScoredBy reference home) verdicts tests := by
  have priced := Export.priced_of_environment exported
  obtain ⟨es, listed, each⟩ : ∃ es, reference.exercises home none = .ok es ∧
      List.Forall₂ (fun e v => verify checker policy e reference submission = .ok v) es
        verdicts := by
    obtain ⟨-, refused⟩ | ⟨-, refused⟩ | ⟨es, vs, listed, -, each, ended⟩ :=
      grade_cases checker policy priced submission home
    · cases graded.symm.trans refused
    · cases graded.symm.trans refused
    · obtain rfl := Except.ok.inj (graded.symm.trans ended)
      exact ⟨es, listed, each⟩
  have results : r.results = verdicts.map (·.result) := by
    unfold Report.ofResults at reported
    split at reported
    · cases reported
    · cases reported
    · next same _ =>
      cases reported
      exact same.symm
  obtain ⟨data, bytes, read⟩ := Machine.read_of_writeText wrote
  refine ⟨_, Report.holdsJson_of_read bytes read, ?_⟩
  rw [results, List.map_map, List.forall₂_map_right_iff, List.forall₂_same]
  intro v among
  obtain ⟨e, he, verified⟩ := exists_of_forall₂ each among
  exact scoredBy_entryRead priced listed he verified

/-! ## A sheet with points of any size -/

/-- The export of a sheet with one exercise. -/
def pricedSheet (points : Json) : Json :=
  .obj [("module", .str "Sheet"), ("declarations", .arr [.obj
    [("name", .str "easy"), ("module", .str "Sheet"), ("kind", .str "theorem"),
      ("type", .obj [("kind", .str "const"), ("name", .str "True"), ("levels", .arr [])]),
      ("points", points)]])]

/-- The environment that is read from it. -/
def pricedReference (points : Float) : Environment where
  mainModule := "Sheet"
  modules := ["Sheet"]
  declarations :=
    [{ name := "easy", home := some "Sheet", kind := .theoremKind,
       type := .obj [("kind", .str "const"), ("name", .str "True"), ("levels", .arr [])],
       points := some points }]
  distinct := List.nodup_singleton _

namespace pricedReference

variable {p : Float}

/-- Graded against itself the sheet passes and earns its points. -/
theorem grade_eq (listed : (pricedReference p).exercises "Sheet" none = .ok [⟨"easy", p⟩]) :
    ∃ v, grade .structural none (pricedReference p) (pricedReference p) "Sheet" none = .ok [v] ∧
      v.result = ⟨"easy", .passed, p, p, "Passed all tests"⟩ := by
  obtain ⟨v, graded⟩ :
      ∃ v, verify .structural none ⟨"easy", p⟩ (pricedReference p) (pricedReference p) = .ok v :=
    verify_eq_ok _ rfl
  have passed : v.result.status = .passed := by
    refine (passed_iff graded).2 ⟨_, _, rfl, rfl, ?_, rfl, ?_⟩
    · simp [Declaration.Unfinished]
    · rintro ⟨a, d, -, found, isAxiom, -⟩
      obtain rfl := List.mem_singleton.1 (Environment.mem_of_lookup found)
      cases isAxiom
  have each := verifyAll_ok_iff.2 (.cons graded .nil)
  refine ⟨v, ?_, result_of_passed graded passed⟩
  rw [grade, listed]
  dsimp only
  rw [each]

/-- What is written of it is read. -/
theorem exists_written (listed : (pricedReference p).exercises "Sheet" none = .ok [⟨"easy", p⟩]) :
    ∃ verdicts r m',
      grade .structural none (pricedReference p) (pricedReference p) "Sheet" none =
          .ok verdicts ∧
        Report.ofResults (verdicts.map (·.result)) (.text "") = .ok r ∧
        Job.writeText ({} : Settings).results r.text sampleMachine = (.ok (), m') ∧
        m'.tree.HoldsJson m'.home ({} : Settings).results
          (.obj [("tests", .arr [.obj [("score", Json.readBack p),
              ("output", .str "Passed all tests"), ("name", .str "easy"),
              ("status", .str "passed")]]),
            ("output", .str ""), ("output_format", .str "text")]) := by
  obtain ⟨v, graded, result⟩ := grade_eq listed
  let r : Report := ⟨[⟨"easy", .passed, p, p, "Passed all tests"⟩], "", List.cons_ne_nil _ _⟩
  have reported : Report.ofResults ([v].map (·.result)) (.text "") = .ok r := by
    rw [List.map_singleton, result]
    rfl
  have whole : Text.holdsHalf r.text = false := by
    rw [← Bool.not_eq_true, r.holdsHalf_text_iff]
    rintro ⟨s, among, half⟩
    have words : ∀ s ∈ ["", "easy", "Passed all tests"], Text.holdsHalf s = false := by
      decide +kernel
    rw [words s among] at half
    cases half
  have bytes := Text.bytes?_eq_written whole
  obtain ⟨tree, wrote, read⟩ := Machine.writeText_ok sampleMachine.canWrite_results bytes
  exact ⟨[v], r, _, graded, reported, wrote, Report.holdsJson_of_read bytes read⟩

end pricedReference

/-- Two and a half points are read as a number. -/
theorem scores_read_back_priced : ∃ reference verdicts r m',
    Export.environment (pricedSheet (.float 2.5)) = .ok reference ∧
      grade .structural none reference reference "Sheet" none = .ok verdicts ∧
      Report.ofResults (verdicts.map (·.result)) (.text "") = .ok r ∧
      Job.writeText ({} : Settings).results r.text sampleMachine = (.ok (), m') ∧
      ∃ tests, m'.tree.HoldsJson m'.home ({} : Settings).results (.obj [("tests", .arr tests),
          ("output", .str r.summary), ("output_format", .str outputFormat)]) ∧
        List.Forall₂ (Verdict.ScoredBy reference "Sheet") verdicts tests := by
  have exported : Export.environment (pricedSheet (.float 2.5)) = .ok (pricedReference 2.5) := rfl
  obtain ⟨verdicts, r, m', graded, reported, wrote, -⟩ :=
    pricedReference.exists_written (p := 2.5) rfl
  exact ⟨_, verdicts, r, m', exported, graded, reported, wrote,
    scores_read_back exported graded reported wrote⟩

/-- Infinitely many points are read as `null`. -/
theorem infinite_points_read_back : ∃ reference verdicts r m',
    Export.environment (pricedSheet (.str "Infinity")) = .ok reference ∧
      grade .structural none reference reference "Sheet" none = .ok verdicts ∧
      Report.ofResults (verdicts.map (·.result)) (.text "") = .ok r ∧
      Job.writeText ({} : Settings).results r.text sampleMachine = (.ok (), m') ∧
      m'.tree.HoldsJson m'.home ({} : Settings).results
        (.obj [("tests", .arr [.obj [("score", .null), ("output", .str "Passed all tests"),
            ("name", .str "easy"), ("status", .str "passed")]]),
          ("output", .str ""), ("output_format", .str "text")]) := by
  have exported : Export.environment (pricedSheet (.str "Infinity")) =
      .ok (pricedReference (1.0 / 0.0)) := rfl
  obtain ⟨verdicts, r, m', graded, reported, wrote, read⟩ :=
    pricedReference.exists_written (p := 1.0 / 0.0) rfl
  exact ⟨_, verdicts, r, m', exported, graded, reported, wrote, read⟩

end ProofGrading

