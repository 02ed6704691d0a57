import ProofGrading.Proofs.TypeComparison
import ProofGrading.Proofs.Walking
import ProofGrading.Verification

/-!
# Proofs/GradingPolicy — grading decides the declared policy

The policy of an exercise is said without the checks that run: by reachability along references and
by sameness of statements.  Each of the three checks decides one of its conditions
(`isIncomplete_iff`, `sameType_iff`, `unexpected_isEmpty_iff`), and in their order they decide the
policy (`verify_structural_graded`).
-/

namespace ProofGrading

/-! ## The conditions of the policy -/

/-- A declaration that leaves something open: marked so, or with a reference to the placeholder. -/
def Declaration.Unfinished (d : Declaration) : Prop :=
  d.hasSorry = true ∨ "sorryAx" ∈ d.references

/-- Two types that cannot be told to state the same: one was not exported, or they differ in more
than binder names, binder kinds and metadata. -/
def StatesOther (expected actual : Json) : Prop :=
  expected = .null ∨ actual = .null ∨ ¬TypeTree.SameStatement expected actual

/-- **References lead from a name to an axiom that is not accepted.** -/
def RestsOnUnaccepted (env : Environment) (name : String) : Prop :=
  ∃ a d, Reachable env name a ∧ env.lookup a = some d ∧ d.kind = .axiomKind ∧
    a ∉ ["propext", "Quot.sound", "Classical.choice"]

/-- **When the policy gives a status**, the expected declaration being given: the first condition
that is not met decides. -/
def Policy (e : Exercise) (expected : Declaration) (submission : Environment) :
    ExerciseStatus → Prop
  | .missing => submission.lookup e.name = none
  | .incomplete => ∃ d, submission.lookup e.name = some d ∧ d.Unfinished
  | .typeMismatch => ∃ d, submission.lookup e.name = some d ∧ ¬d.Unfinished ∧
      StatesOther expected.type d.type
  | .axiomViolation => ∃ d, submission.lookup e.name = some d ∧ ¬d.Unfinished ∧
      ¬StatesOther expected.type d.type ∧ RestsOnUnaccepted submission e.name
  | .passed => ∃ d, submission.lookup e.name = some d ∧ ¬d.Unfinished ∧
      ¬StatesOther expected.type d.type ∧ ¬RestsOnUnaccepted submission e.name
  | .buildError => False

/-- **What the policy says of the result of an exercise.** -/
structure Graded (e : Exercise) (expected : Declaration) (submission : Environment)
    (r : ExerciseResult) : Prop where
  name_eq : r.name = e.name
  status_iff : ∀ s, r.status = s ↔ Policy e expected submission s
  score_eq : r.score = if r.status = .passed then e.points else 0.0
  maxScore_eq : r.maxScore = e.points

/-! ## What the checks decide -/

theorem isIncomplete_iff {d : Declaration} :
    Checker.structural.isIncomplete d = true ↔ d.Unfinished := by
  change (d.hasSorry || d.references.contains "sorryAx") = true ↔ _
  rw [Bool.or_eq_true, List.contains_iff_mem, Declaration.Unfinished]

theorem sameType_iff {expected actual : Declaration} (he : TypeTree.Shallow expected.type)
    (ha : TypeTree.Shallow actual.type) :
    Checker.structural.typesEqual expected actual = true ↔
      ¬StatesOther expected.type actual.type := by
  rw [StatesOther, not_or, not_or, not_not]
  exact TypeTree.equal_iff he ha

/-- **What is not accepted** is each axiom that is reachable and has no accepted name. -/
theorem mem_unexpected_iff {env : Environment} {name a : String} :
    a ∈ Checker.structural.policy.unexpected env name ↔
      ∃ d, Reachable env name a ∧ env.lookup a = some d ∧ d.kind = .axiomKind ∧
        a ∉ ["propext", "Quot.sound", "Classical.choice"] := by
  change a ∈ (collectAxioms env name).filter (fun a => !standardAxioms.contains a) ↔ _
  rw [List.mem_filter, Bool.not_eq_true', ← Bool.not_eq_true, List.contains_iff_mem,
    mem_collectAxioms_iff]
  constructor
  · rintro ⟨⟨hr, d, hd, hk⟩, hn⟩
    exact ⟨d, hr, hd, hk, hn⟩
  · rintro ⟨d, hr, hd, hk, hn⟩
    exact ⟨⟨hr, d, hd, hk⟩, hn⟩

theorem unexpected_isEmpty_iff {env : Environment} {name : String} :
    (Checker.structural.policy.unexpected env name).isEmpty = true ↔
      ¬RestsOnUnaccepted env name := by
  rw [List.isEmpty_iff, List.eq_nil_iff_forall_not_mem, RestsOnUnaccepted, not_exists]
  exact forall_congr' fun a => not_congr mem_unexpected_iff

/-- Each of them is found once. -/
theorem nodup_unexpected (env : Environment) (name : String) :
    (Checker.structural.policy.unexpected env name).Nodup :=
  (nodup_collectAxioms env name).filter _

/-! ## The policy is decided -/

section

variable {e : Exercise} {submission : Environment} {expected actual : Declaration}

/-- **The policy gives one status.** -/
theorem Policy.unique {s t : ExerciseStatus} (hs : Policy e expected submission s)
    (ht : Policy e expected submission t) : s = t := by
  cases found : submission.lookup e.name with
  | none => cases s <;> cases t <;> simp_all [Policy]
  | some d => cases s <;> cases t <;> simp_all [Policy]

theorem graded_of_policy {v : Verdict} (hn : v.result.name = e.name)
    (hp : Policy e expected submission v.result.status)
    (hs : v.result.score = if v.result.status = .passed then e.points else 0.0)
    (hm : v.result.maxScore = e.points) : Graded e expected submission v.result :=
  ⟨hn, fun _ => ⟨fun h => h ▸ hp, hp.unique⟩, hs, hm⟩

/-- **A declaration that is there is judged by the policy.** -/
theorem graded_judge (found : submission.lookup e.name = some actual)
    (he : TypeTree.Shallow expected.type) (ha : TypeTree.Shallow actual.type) :
    Graded e expected submission
      (judge .structural none e submission expected actual).result := by
  have hi := isIncomplete_iff (d := actual)
  have ht := sameType_iff he ha
  have hu : (Checker.structural.policy.unexpected submission e.name).isEmpty = true ↔
      ¬RestsOnUnaccepted submission e.name := unexpected_isEmpty_iff
  unfold judge
  by_cases unfinished : Checker.structural.isIncomplete actual = true
  · rw [if_pos unfinished]
    exact graded_of_policy rfl ⟨actual, found, hi.1 unfinished⟩ rfl rfl
  · rw [if_neg unfinished]
    rw [hi] at unfinished
    by_cases same : Checker.structural.typesEqual expected actual = true
    · rw [if_neg (by simp [same])]
      dsimp only [Option.getD_none]
      by_cases standard : (Checker.structural.policy.unexpected submission e.name).isEmpty = true
      · rw [if_pos standard]
        exact graded_of_policy rfl ⟨actual, found, unfinished, ht.1 same, hu.1 standard⟩ rfl rfl
      · rw [if_neg standard]
        rw [hu, not_not] at standard
        exact graded_of_policy rfl ⟨actual, found, unfinished, ht.1 same, standard⟩ rfl rfl
    · rw [if_pos (by simp [same])]
      rw [ht, not_not] at same
      exact graded_of_policy rfl ⟨actual, found, unfinished, same⟩ rfl rfl

/-- **Grading decides the policy**: a declared exercise has exactly one result, and its status and
score are the ones that the policy gives. -/
theorem verify_structural_graded {reference : Environment}
    (declared : reference.lookup e.name = some expected) (submission : Environment)
    (he : TypeTree.Shallow expected.type)
    (hs : ∀ d, submission.lookup e.name = some d → TypeTree.Shallow d.type) :
    ∃ v, verify .structural none e reference submission = .ok v ∧
      Graded e expected submission v.result := by
  cases found : submission.lookup e.name with
  | none =>
    let v := Verdict.failed e .missing "Declaration not found in submission" []
    refine ⟨v, ?_, graded_of_policy rfl found rfl rfl⟩
    rw [verify, declared, found]
  | some actual =>
    refine ⟨_, ?_, graded_judge found he (hs actual found)⟩
    rw [verify, declared, found]

end

/-- A statement about a bound variable of a given name. -/
def sampleType (binder : String) : Json :=
  .obj [("kind", .str "forallE"), ("binder", .str binder), ("body", .obj [("kind", .str "sort")])]

/-- A reference sheet with one exercise. -/
def sampleReference : Environment where
  mainModule := "Sheet"
  declarations := [{ name := "easy", kind := .theoremKind, type := sampleType "x" }]
  distinct := by decide

/-- A submission whose proof runs in a circle, to a name that is not declared and to an axiom of its
own. -/
def sampleSubmission : Environment where
  mainModule := "Sheet"
  declarations :=
    [{ name := "easy", kind := .theoremKind, type := sampleType "y", references := ["helper"] },
      { name := "helper", kind := .theoremKind, references := ["easy", "ghost", "cheat"] },
      { name := "cheat", kind := .axiomKind }]
  distinct := by decide

/-- An axiom behind a helper is found, and earns nothing. -/
theorem verify_sample : ∃ v,
    verify .structural none ⟨"easy", 5⟩ sampleReference sampleSubmission = .ok v ∧
      v.result.status = .axiomViolation ∧ v.result.score = 0.0 ∧ v.result.maxScore = 5 := by
  have declared : sampleReference.lookup "easy" = some sampleReference.declarations[0] := rfl
  obtain ⟨v, hv, graded⟩ := verify_structural_graded (e := ⟨"easy", 5⟩) declared sampleSubmission
    (by decide) (fun d hd => by cases hd; decide)
  have same := (TypeTree.equal_iff (a := sampleType "x") (b := sampleType "y") (by decide)
    (by decide)).1 (by decide)
  have helper : Reachable sampleSubmission "easy" "helper" :=
    Reachable.start.step rfl (List.mem_singleton_self _)
  have reached : Reachable sampleSubmission "easy" "cheat" := helper.step rfl (by simp)
  have violates : v.result.status = .axiomViolation :=
    (graded.status_iff .axiomViolation).2
      ⟨_, rfl, by simp [Declaration.Unfinished],
        by rintro (h | h | h); exacts [same.1 h, same.2.1 h, h same.2.2],
        "cheat", _, reached, rfl, rfl, by decide⟩
  exact ⟨v, hv, violates, by rw [graded.score_eq, violates]; rfl, graded.maxScore_eq⟩

end ProofGrading
