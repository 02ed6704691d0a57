import ProofGrading.GradingRun
import ProofGrading.Proofs.Degrading

/-!
# Proofs/ExerciseList — one result for each exercise

A module of an exported sheet is graded if it was loaded and asks for something; any other is
refused as misconfigured.  Main statement: there is one result for each declaration that the module
asks for, in the order in which the export first lists their names (`grade_asked`).  That the sheet
does not declare one of its exercises is never what grading ends with.
-/

namespace ProofGrading

variable {checker : Checker} {policy : Option AxiomPolicy} {reference submission : Environment}
  {home : String} {es : List Exercise} {vs : List Verdict}

/-- Whether a refusal counts as a misconfiguration. -/
def GradingError.IsConfiguration (e : GradingError) : Prop :=
  ∃ wording, e.failure = .configuration wording

/-- **A result for a declaration**: under its name, out of its points. -/
def Verdict.IsFor (d : Declaration) (v : Verdict) : Prop :=
  v.result.name = d.name ∧ d.points = some v.result.maxScore

/-- Results that stand for declarations have their names. -/
theorem names_of_isFor {ds : List Declaration} (each : List.Forall₂ Verdict.IsFor ds vs) :
    vs.map (·.result.name) = Declaration.names ds := by
  rw [Declaration.names, ← List.forall₂_eq_eq_eq, List.forall₂_map_left_iff,
    List.forall₂_map_right_iff]
  exact each.flip.imp fun _ _ same => same.1

namespace Environment.IsPriced

/-- Exercises that are listed are graded as what the module asks for. -/
theorem isFor_asked (priced : reference.IsPriced)
    (listed : reference.exercises home none = .ok es)
    (each : List.Forall₂ (fun e v => verify checker policy e reference submission = .ok v) es vs) :
    List.Forall₂ Verdict.IsFor (reference.asked home) vs := by
  obtain ⟨-, asked⟩ := priced.asked_of_listed listed
  clear listed
  generalize reference.asked home = ds at asked
  induction each generalizing ds with
  | nil =>
    cases asked
    exact .nil
  | cons graded _ ih =>
    cases asked with
    | cons same rest =>
      obtain ⟨name, points⟩ := name_of_verify graded
      exact .cons ⟨name.trans same.1.symm, points ▸ same.2⟩ (ih _ rest)

/-- **How grading a module ends**: as misconfigured, if it was not loaded or asks for nothing, or
with a result for each declaration that it asks for. -/
theorem grade_cases_asked (priced : reference.IsPriced) (checker : Checker)
    (policy : Option AxiomPolicy) (submission : Environment) (home : String) :
    (∃ e : GradingError, e.IsConfiguration ∧ (∀ name, e ≠ .undeclared name) ∧
        (home ∉ reference.modules ∨ reference.asked home = []) ∧
        grade checker policy reference submission home none = .error e) ∨
      ∃ vs, home ∈ reference.modules ∧ reference.asked home ≠ [] ∧
        List.Forall₂ Verdict.IsFor (reference.asked home) vs ∧
        grade checker policy reference submission home none = .ok vs := by
  obtain ⟨unloaded, refused⟩ | ⟨listed, refused⟩ | ⟨es, vs, listed, some, each, graded⟩ :=
    grade_cases checker policy priced submission home
  · refine .inl ⟨_, ⟨_, rfl⟩, fun _ => by simp, .inl fun loaded => ?_, refused⟩
    exact Bool.false_ne_true (unloaded.symm.trans (List.contains_iff_mem.2 loaded))
  · refine .inl ⟨_, ⟨_, rfl⟩, fun _ => by simp, .inr ?_, refused⟩
    exact List.forall₂_nil_right_iff.1 (priced.asked_of_listed listed).2
  · have each := priced.isFor_asked listed each
    refine .inr ⟨vs, List.contains_iff_mem.1 (priced.asked_of_listed listed).1, fun none => ?_,
      each, graded⟩
    rw [none] at each
    exact some (List.forall₂_nil_left_iff.1 each)

end Environment.IsPriced

/-- **One result for each declaration that is asked for.**  Grading a module of an exported sheet,
with the points of the export, is refused as misconfigured just when the module was not loaded or
asks for nothing, and never because an exercise is not declared.  Otherwise there is one result for
each declaration that is asked for, out of its points; their names are distinct, in the order in
which the export first lists them. -/
theorem grade_asked {data : Json} (exported : Export.environment data = .ok reference)
    (checker : Checker) (policy : Option AxiomPolicy) (submission : Environment) (home : String) :
    ((∃ e : GradingError, e.IsConfiguration ∧
        grade checker policy reference submission home none = .error e) ↔
      home ∉ reference.modules ∨ reference.asked home = []) ∧
    (¬(home ∉ reference.modules ∨ reference.asked home = []) → ∃ vs,
      grade checker policy reference submission home none = .ok vs ∧
        List.Forall₂ Verdict.IsFor (reference.asked home) vs ∧
        (vs.map (·.result.name)).Nodup ∧
        ∃ fields listed ds, data = .obj fields ∧
          Export.Describes fields reference.mainModule listed ds ∧
          (vs.map (·.result.name)).Sublist (Declaration.names ds).eraseDups) ∧
    ∀ name, grade checker policy reference submission home none ≠ .error (.undeclared name) := by
  have priced := Export.priced_of_environment exported
  obtain ⟨e, misconfigured, declared, why, refused⟩ | ⟨vs, loaded, some, each, graded⟩ :=
    priced.grade_cases_asked checker policy submission home
  · refine ⟨⟨fun _ => why, fun _ => ⟨e, misconfigured, refused⟩⟩, fun fine => absurd why fine,
      fun name => ?_⟩
    rw [refused]
    exact fun same => declared name (Except.error.inj same)
  · have fine : ¬(home ∉ reference.modules ∨ reference.asked home = []) :=
      not_or.2 ⟨not_not_intro loaded, some⟩
    have asked := reference.names_asked_sublist home
    obtain ⟨fields, main, listed, ds, rfl, described, rfl⟩ := Export.exists_of_environment exported
    rw [graded]
    refine ⟨⟨fun ⟨_, _, refused⟩ => (nomatch refused), fun why => absurd why fine⟩,
      fun _ => ⟨vs, rfl, each, ?_, fields, listed, ds, rfl, described, ?_⟩, nofun⟩
    · rw [names_of_isFor each]
      exact (Environment.distinct _).sublist asked
    · rw [names_of_isFor each, ← Declaration.names_index]
      exact asked

/-- An export that lists one exercise twice, and declarations that are none. -/
def exerciseSheet : Json :=
  let entry (name : String) (points : Json) : Json :=
    .obj [("name", .str name), ("module", .str "Sheet"), ("kind", .str "theorem"),
      ("points", points)]
  .obj [("module", .str "Sheet"), ("declarations", .arr
    [entry "hard" (.float 3.0), entry "helper" .null, entry "easy" (.float 2.0),
      entry "hard" (.float 5.0), entry "easy._proof" (.float 1.0)])]

/-- The exercise that is listed twice is graded once, in its first place and out of its last
points. -/
theorem grade_exerciseSheet : ∃ reference vs, Export.environment exerciseSheet = .ok reference ∧
    grade .structural none reference reference.degraded "Sheet" none = .ok vs ∧
      vs.map (·.result.name) = ["hard", "easy"] ∧
      (reference.asked "Sheet").map (·.points) = [some 5.0, some 2.0] := by
  have exported : Export.environment exerciseSheet = .ok _ := rfl
  obtain ⟨-, graded, -⟩ := grade_asked exported .structural none (Environment.degraded _) "Sheet"
  obtain ⟨vs, graded, each, -⟩ := graded (by
    rintro (unloaded | none)
    · exact unloaded (by decide)
    · cases none)
  exact ⟨_, vs, exported, graded, names_of_isFor each, rfl⟩

end ProofGrading
