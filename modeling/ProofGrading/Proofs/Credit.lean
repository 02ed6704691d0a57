import ProofGrading.Proofs.GradingPolicy

/-!
# Proofs/Credit — what an exercise that passed rests on

An exercise passes when its own declaration is finished and states what the reference states, and
no reference leads to an axiom that is not accepted (`passed_iff`).  Axioms are accepted by name, so
whatever the submission itself postulates has an accepted name (`own_axioms_of_passed`), and an
accepted name is enough (`passed_on_own_axiom`).  Where the export declares the placeholder that its
declarations refer to, nothing an exercise rests on is unfinished (`finished_of_passed`).
-/

namespace ProofGrading

/-! ## When an exercise passes -/

section

variable {e : Exercise} {reference submission : Environment} {expected actual : Declaration}
  {v : Verdict}

/-- The status of a declaration that is there: the first check that fails decides. -/
theorem status_judge :
    (judge .structural none e submission expected actual).result.status =
      if Checker.structural.isIncomplete actual = true then .incomplete
      else if Checker.structural.typesEqual expected actual = true then
        if (Checker.structural.policy.unexpected submission e.name).isEmpty = true then .passed
        else .axiomViolation
      else .typeMismatch := by
  unfold judge
  by_cases unfinished : Checker.structural.isIncomplete actual = true
  · rw [if_pos unfinished, if_pos unfinished]
    rfl
  · rw [if_neg unfinished, if_neg unfinished]
    by_cases same : Checker.structural.typesEqual expected actual = true
    · rw [if_neg (by simp [same]), if_pos same]
      dsimp only [Option.getD_none]
      split <;> rfl
    · rw [if_pos (by simp [same]), if_neg same]
      rfl

theorem judge_passed_iff :
    (judge .structural none e submission expected actual).result.status = .passed ↔
      ¬actual.Unfinished ∧ Checker.structural.typesEqual expected actual = true ∧
        ¬RestsOnUnaccepted submission e.name := by
  rw [status_judge, ← unexpected_isEmpty_iff, ← isIncomplete_iff]
  split_ifs <;> simp_all

theorem judge_incomplete_iff :
    (judge .structural none e submission expected actual).result.status = .incomplete ↔
      actual.Unfinished := by
  rw [status_judge, ← isIncomplete_iff]
  split_ifs <;> simp_all

/-- A graded exercise is missing, or its declaration was judged. -/
theorem verify_cases (graded : verify .structural none e reference submission = .ok v) :
    (submission.lookup e.name = none ∧ v.result.status = .missing) ∨
      ∃ expected actual, reference.lookup e.name = some expected ∧
        submission.lookup e.name = some actual ∧
        v = judge .structural none e submission expected actual := by
  unfold verify at graded
  split at graded
  · cases graded
  · next absent =>
    cases graded
    exact Or.inl ⟨absent, rfl⟩
  · next expected actual declared found =>
    cases graded
    exact Or.inr ⟨expected, actual, declared, found, rfl⟩

/-- An exercise is passed with its points, or gives none. -/
theorem result_of_verify {checker : Checker} {policy : Option AxiomPolicy}
    (graded : verify checker policy e reference submission = .ok v) :
    v.result = ⟨e.name, .passed, e.points, e.points, "Passed all tests"⟩ ∨
      v.result.status ≠ .passed ∧ v.result.score = 0.0 := by
  unfold verify at graded
  split at graded
  · cases graded
  · cases graded
    exact .inr ⟨nofun, rfl⟩
  · cases graded
    unfold judge
    split
    · exact .inr ⟨nofun, rfl⟩
    · split
      · exact .inr ⟨nofun, rfl⟩
      · dsimp only
        split
        · exact .inl rfl
        · exact .inr ⟨nofun, rfl⟩

theorem result_of_passed {checker : Checker} {policy : Option AxiomPolicy}
    (graded : verify checker policy e reference submission = .ok v)
    (passed : v.result.status = .passed) :
    v.result = ⟨e.name, .passed, e.points, e.points, "Passed all tests"⟩ :=
  (result_of_verify graded).resolve_right fun h => h.1 passed

/-- **When an exercise passes**: its declaration is finished and states what the reference does,
and it rests on accepted axioms. -/
theorem passed_iff (graded : verify .structural none e reference submission = .ok v) :
    v.result.status = .passed ↔
      ∃ expected actual, reference.lookup e.name = some expected ∧
        submission.lookup e.name = some actual ∧ ¬actual.Unfinished ∧
        Checker.structural.typesEqual expected actual = true ∧
        ¬RestsOnUnaccepted submission e.name := by
  obtain ⟨absent, missing⟩ | ⟨expected, actual, declared, found, rfl⟩ := verify_cases graded
  · simp [missing, absent]
  · simp [judge_passed_iff, declared, found]

/-- **The mark decides for the declaration itself**, whatever it refers to. -/
theorem incomplete_iff (graded : verify .structural none e reference submission = .ok v) :
    v.result.status = .incomplete ↔
      ∃ d, submission.lookup e.name = some d ∧ d.Unfinished := by
  obtain ⟨absent, missing⟩ | ⟨expected, actual, declared, found, rfl⟩ := verify_cases graded
  · simp [missing, absent]
  · simp [judge_incomplete_iff, found]

/-- What an exercise that passed rests on was accepted by its name. -/
theorem accepted_of_passed (graded : verify .structural none e reference submission = .ok v)
    (passed : v.result.status = .passed) {a : String} {d : Declaration}
    (reached : Reachable submission e.name a) (found : submission.lookup a = some d)
    (isAxiom : d.kind = .axiomKind) : a ∈ ["propext", "Quot.sound", "Classical.choice"] := by
  obtain ⟨_, _, _, _, _, _, rests⟩ := (passed_iff graded).1 passed
  by_contra unaccepted
  exact rests ⟨a, d, reached, found, isAxiom, unaccepted⟩

end

/-! ## Axioms of a submission's own -/

/-- A name that an environment postulates in its main module. -/
def Environment.Postulates (env : Environment) (name : String) : Prop :=
  ∃ d, env.lookup name = some d ∧ d.kind = .axiomKind ∧ d.home = some env.mainModule

/-- **Postulating earns nothing under a name that is not accepted**: all that a submission
postulates itself and that an exercise which passed rests on has one of the accepted names. -/
theorem own_axioms_of_passed {e : Exercise} {reference submission : Environment} {v : Verdict}
    (graded : verify .structural none e reference submission = .ok v)
    (passed : v.result.status = .passed) :
    ∀ n, Reachable submission e.name n → submission.Postulates n →
      n ∈ ["propext", "Quot.sound", "Classical.choice"] := by
  rintro n reached ⟨d, found, isAxiom, -⟩
  exact accepted_of_passed graded passed reached found isAxiom

/-- A submission that passes: its proof runs in a circle and to an axiom of its own under an
accepted name.  Beside it stand a draft and another axiom of its own. -/
def draftedSubmission : Environment where
  mainModule := "Submission"
  declarations :=
    [{ name := "easy", home := some "Submission", kind := .theoremKind, type := sampleType "y",
       references := ["helper"] },
      { name := "helper", home := some "Submission", kind := .theoremKind,
        references := ["easy", "propext", "ghost"] },
      { name := "propext", home := some "Submission", kind := .axiomKind },
      { name := "cheat", home := some "Submission", kind := .axiomKind },
      { name := "draft", home := some "Submission", kind := .theoremKind, hasSorry := true,
        references := ["sorryAx", "cheat"] },
      { name := "sorryAx", home := some "Init.Prelude", kind := .axiomKind }]
  distinct := by decide

namespace draftedSubmission

theorem mem_of_reachable {name : String} (h : Reachable draftedSubmission "easy" name) :
    name ∈ ["easy", "helper", "propext", "ghost"] :=
  h.mem_of_closed (by decide) (by decide)

theorem reachable_propext : Reachable draftedSubmission "easy" "propext" :=
  have helper : Reachable draftedSubmission "easy" "helper" :=
    Reachable.start.step rfl (List.mem_singleton_self _)
  helper.step rfl (by decide)

theorem not_restsOnUnaccepted : ¬RestsOnUnaccepted draftedSubmission "easy" := by
  rintro ⟨a, d, reached, found, isAxiom, unaccepted⟩
  have among := mem_of_reachable reached
  simp only [List.mem_cons, List.not_mem_nil, or_false] at among
  rcases among with rfl | rfl | rfl | rfl
  · cases found
    cases isAxiom
  · cases found
    cases isAxiom
  · exact unaccepted (by decide)
  · cases found

theorem verify_passed : ∃ v,
    verify .structural none ⟨"easy", 5⟩ sampleReference draftedSubmission = .ok v ∧
      v.result.status = .passed := by
  obtain ⟨v, graded⟩ :
      ∃ v, verify .structural none ⟨"easy", 5⟩ sampleReference draftedSubmission = .ok v :=
    verify_eq_ok _ rfl
  have finished : ¬draftedSubmission.declarations[0].Unfinished := by
    simp [draftedSubmission, Declaration.Unfinished]
  exact ⟨v, graded, (passed_iff graded).2
    ⟨_, _, rfl, rfl, finished, by decide, not_restsOnUnaccepted⟩⟩

end draftedSubmission

/-- An axiom of the submission's own under another name is not what the exercise rests on. -/
theorem own_axioms_of_drafted : ∃ v,
    verify .structural none ⟨"easy", 5⟩ sampleReference draftedSubmission = .ok v ∧
      v.result.status = .passed ∧ draftedSubmission.Postulates "cheat" ∧
      ¬Reachable draftedSubmission "easy" "cheat" := by
  obtain ⟨v, graded, passed⟩ := draftedSubmission.verify_passed
  have postulated : draftedSubmission.Postulates "cheat" := ⟨_, rfl, rfl, rfl⟩
  refine ⟨v, graded, passed, postulated, fun reached => ?_⟩
  exact absurd (own_axioms_of_passed graded passed "cheat" reached postulated) (by decide)

/-- Under an accepted name an axiom of the submission's own does not keep an exercise from
passing. -/
theorem passed_on_own_axiom : ∃ v,
    verify .structural none ⟨"easy", 5⟩ sampleReference draftedSubmission = .ok v ∧
      v.result.status = .passed ∧ Reachable draftedSubmission "easy" "propext" ∧
      draftedSubmission.Postulates "propext" := by
  obtain ⟨v, graded, passed⟩ := draftedSubmission.verify_passed
  exact ⟨v, graded, passed, draftedSubmission.reachable_propext, _, rfl, rfl, rfl⟩

/-! ## Placeholders -/

/-- What an export promises about placeholders: what is marked as unfinished refers to the
placeholder, and where something does the placeholder is declared as an axiom. -/
structure Environment.DeclaresPlaceholder (env : Environment) : Prop where
  referred : ∀ d ∈ env.declarations, d.hasSorry = true → "sorryAx" ∈ d.references
  declared : ∀ d ∈ env.declarations, "sorryAx" ∈ d.references →
    ∃ s, env.lookup "sorryAx" = some s ∧ s.kind = .axiomKind

/-- What is unfinished leads to the placeholder. -/
theorem Environment.DeclaresPlaceholder.mem_references {env : Environment} {d : Declaration}
    (h : env.DeclaresPlaceholder) (hd : d ∈ env.declarations) (unfinished : d.Unfinished) :
    "sorryAx" ∈ d.references :=
  unfinished.elim (h.referred d hd) id

/-- **No placeholder earns points, however deep it is**: nothing that an exercise which passed rests
on is unfinished.  What is marked decides only for the exercise's own declaration; for all others it
is the placeholder's being an axiom that is not accepted. -/
theorem finished_of_passed {e : Exercise} {reference submission : Environment} {v : Verdict}
    (promised : submission.DeclaresPlaceholder)
    (graded : verify .structural none e reference submission = .ok v) :
    (v.result.status = .incomplete ↔ ∃ d, submission.lookup e.name = some d ∧ d.Unfinished) ∧
      (v.result.status = .passed → ∀ n d, Reachable submission e.name n →
        submission.lookup n = some d → d.hasSorry = false ∧ "sorryAx" ∉ d.references) := by
  refine ⟨incomplete_iff graded, fun passed n d reached found => ?_⟩
  have declared := Environment.mem_of_lookup found
  have finished : ¬d.Unfinished := fun unfinished => by
    have refers := promised.mem_references declared unfinished
    obtain ⟨s, hs, isAxiom⟩ := promised.declared d declared refers
    have accepted := accepted_of_passed graded passed (reached.step found refers) hs isAxiom
    exact absurd accepted (by decide)
  simpa [Declaration.Unfinished] using finished

/-- A draft beside what an exercise rests on does not matter. -/
theorem finished_of_drafted : draftedSubmission.DeclaresPlaceholder ∧ ∃ v,
    verify .structural none ⟨"easy", 5⟩ sampleReference draftedSubmission = .ok v ∧
      v.result.status = .passed ∧ ∀ n d, Reachable draftedSubmission "easy" n →
        draftedSubmission.lookup n = some d → d.hasSorry = false ∧ "sorryAx" ∉ d.references := by
  have promised : draftedSubmission.DeclaresPlaceholder :=
    ⟨by decide, fun _ _ _ => ⟨_, rfl, rfl⟩⟩
  obtain ⟨v, graded, passed⟩ := draftedSubmission.verify_passed
  exact ⟨promised, v, graded, passed, (finished_of_passed promised graded).2 passed⟩

end ProofGrading
