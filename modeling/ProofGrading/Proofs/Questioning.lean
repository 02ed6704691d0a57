import Mathlib.Data.List.Nodup
import ProofGrading.Proofs.ExerciseList

/-!
# Proofs/Questioning — what a checker is asked

A checker may be any three functions, and a question to it may be expensive; so what is asked for an
exercise stops at the first check that fails (`Inquiry`).  Main statement: grading asks, exercise
after exercise, just what the checks need, each question once, and each question that it asks can
change what comes of it while no other can (`grade_questioned`).
-/

namespace ProofGrading

variable {checker checker' : Checker} {e : Exercise} {reference submission : Environment}
  {expected actual : Declaration} {v : Verdict} {es : List Exercise} {vs : List Verdict}

/-! ## The questions for one exercise -/

/-- **The inquiry into an exercise**: the questions up to the first check that fails, and the status
that this check stands for.  The axioms are compared with the standard ones. -/
inductive Inquiry (checker : Checker) (e : Exercise) (submission : Environment)
    (expected : Declaration) : List Question → ExerciseStatus → Prop
  | missing (absent : submission.lookup e.name = none) :
      Inquiry checker e submission expected [] .missing
  | incomplete {actual : Declaration} (found : submission.lookup e.name = some actual)
      (unfinished : checker.isIncomplete actual = true) :
      Inquiry checker e submission expected [.incomplete actual] .incomplete
  | typeMismatch {actual : Declaration} (found : submission.lookup e.name = some actual)
      (finished : checker.isIncomplete actual = false)
      (differs : checker.typesEqual expected actual = false) :
      Inquiry checker e submission expected [.incomplete actual, .types expected actual]
        .typeMismatch
  | axiomViolation {actual : Declaration} (found : submission.lookup e.name = some actual)
      (finished : checker.isIncomplete actual = false)
      (same : checker.typesEqual expected actual = true)
      (violated : ∃ a ∈ checker.axiomsOf submission e.name, a ∉ standardAxioms) :
      Inquiry checker e submission expected
        [.incomplete actual, .types expected actual, .axioms submission e.name] .axiomViolation
  | passed {actual : Declaration} (found : submission.lookup e.name = some actual)
      (finished : checker.isIncomplete actual = false)
      (same : checker.typesEqual expected actual = true)
      (accepted : ∀ a ∈ checker.axiomsOf submission e.name, a ∈ standardAxioms) :
      Inquiry checker e submission expected
        [.incomplete actual, .types expected actual, .axioms submission e.name] .passed

/-- A checker's own policy finds nothing unexpected in axioms that are all standard. -/
theorem Checker.unexpected_isEmpty_iff {name : String} :
    (checker.policy.unexpected submission name).isEmpty = true ↔
      ∀ a ∈ checker.axiomsOf submission name, a ∈ standardAxioms := by
  simp [Checker.policy, AxiomPolicy.unexpected]

/-- The questions to a checker about a declaration that is there. -/
def Question.aboutPresent (e : Exercise) (submission : Environment)
    (expected actual : Declaration) : List Question :=
  [.incomplete actual, .types expected actual, .axioms submission e.name]

theorem judge_of_incomplete (unfinished : checker.isIncomplete actual = true) :
    judge checker none e submission expected actual =
      .failed e .incomplete "Proof contains sorry" [.incomplete actual] :=
  if_pos unfinished

theorem judge_of_differs (finished : checker.isIncomplete actual = false)
    (differs : checker.typesEqual expected actual = false) :
    judge checker none e submission expected actual =
      .failed e .typeMismatch "Type is different than expected"
        [.incomplete actual, .types expected actual] := by
  rw [judge, if_neg (Bool.eq_false_iff.1 finished), if_pos (by rw [differs]; rfl)]

theorem judge_of_same (finished : checker.isIncomplete actual = false)
    (same : checker.typesEqual expected actual = true) :
    judge checker none e submission expected actual =
      if (checker.policy.unexpected submission e.name).isEmpty then
        .passed e (Question.aboutPresent e submission expected actual)
      else
        { Verdict.failed e .axiomViolation "Contains unexpected axioms"
            (Question.aboutPresent e submission expected actual) with
          unexpected := checker.policy.unexpected submission e.name } := by
  rw [judge, if_neg (Bool.eq_false_iff.1 finished), if_neg (by rw [same]; decide)]
  rfl

/-- A declaration that is there is inquired into. -/
theorem inquiry_judge (found : submission.lookup e.name = some actual) :
    Inquiry checker e submission expected
      (judge checker none e submission expected actual).asked
      (judge checker none e submission expected actual).result.status := by
  by_cases unfinished : checker.isIncomplete actual = true
  · rw [judge_of_incomplete unfinished]
    exact .incomplete found unfinished
  have finished := eq_false_of_ne_true unfinished
  by_cases same : checker.typesEqual expected actual = true
  · rw [judge_of_same finished same]
    split
    · next accepted => exact .passed found finished same (Checker.unexpected_isEmpty_iff.1 accepted)
    · next violated =>
      refine .axiomViolation found finished same ?_
      simpa using mt Checker.unexpected_isEmpty_iff.2 violated
  · have differs := eq_false_of_ne_true same
    rw [judge_of_differs finished differs]
    exact .typeMismatch found finished differs

/-- **Each exercise that is graded is inquired into.** -/
theorem inquiry_of_verify (graded : verify checker none e reference submission = .ok v) :
    ∃ expected, reference.lookup e.name = some expected ∧
      Inquiry checker e submission expected v.asked v.result.status := by
  unfold verify at graded
  split at graded
  · cases graded
  · next declared absent =>
    cases graded
    exact ⟨_, declared, .missing absent⟩
  · next declared found =>
    cases graded
    exact ⟨_, declared, inquiry_judge found⟩

/-! ## What an answer can change -/

namespace Question

/-- **Two checkers answer a question alike.** -/
def AnsweredAlike (checker checker' : Checker) : Question → Prop
  | incomplete d => checker.isIncomplete d = checker'.isIncomplete d
  | types expected actual =>
    checker.typesEqual expected actual = checker'.typesEqual expected actual
  | .axioms env name => checker.axiomsOf env name = checker'.axiomsOf env name

/-- The name of the declaration that a question is about. -/
def subject : Question → String
  | incomplete d => d.name
  | types _ actual => actual.name
  | .axioms _ name => name

end Question

/-- **A verdict depends on nothing but the answers to what was asked.** -/
theorem judge_congr (alike : ∀ q ∈ (judge checker none e submission expected actual).asked,
      q.AnsweredAlike checker checker') :
    judge checker' none e submission expected actual =
      judge checker none e submission expected actual := by
  by_cases unfinished : checker.isIncomplete actual = true
  · rw [judge_of_incomplete unfinished] at alike ⊢
    have first : checker.isIncomplete actual = checker'.isIncomplete actual :=
      alike _ (List.mem_cons_self ..)
    exact judge_of_incomplete (first.symm.trans unfinished)
  have finished := eq_false_of_ne_true unfinished
  by_cases same : checker.typesEqual expected actual = true
  · have asked : (judge checker none e submission expected actual).asked =
        Question.aboutPresent e submission expected actual := by
      rw [judge_of_same finished same]
      split <;> rfl
    simp only [asked, Question.aboutPresent, List.forall_mem_cons, List.not_mem_nil,
      Question.AnsweredAlike] at alike
    obtain ⟨first, second, third, -⟩ := alike
    have unexpected : checker'.policy.unexpected submission e.name =
        checker.policy.unexpected submission e.name := by
      simp only [AxiomPolicy.unexpected, Checker.policy, third]
    rw [judge_of_same finished same, judge_of_same (first.symm.trans finished)
      (second.symm.trans same), unexpected]
  · have differs := eq_false_of_ne_true same
    rw [judge_of_differs finished differs] at alike ⊢
    simp only [Verdict.failed, List.forall_mem_cons, Question.AnsweredAlike] at alike
    obtain ⟨first, second, -⟩ := alike
    exact judge_of_differs (first.symm.trans finished) (second.symm.trans differs)

theorem verify_congr (graded : verify checker none e reference submission = .ok v)
    (alike : ∀ q ∈ v.asked, q.AnsweredAlike checker checker') :
    verify checker' none e reference submission = .ok v := by
  unfold verify at graded ⊢
  split at graded
  · cases graded
  · exact graded
  · cases graded
    exact congrArg _ (judge_congr alike)

/-- What is asked for an exercise begins what there is to ask about its declaration, if any. -/
theorem Inquiry.isPrefix {asked : List Question} {status : ExerciseStatus}
    (inquiry : Inquiry checker e submission expected asked status) :
    asked = [] ∨ ∃ actual, submission.lookup e.name = some actual ∧
      asked <+: Question.aboutPresent e submission expected actual := by
  cases inquiry with
  | missing => exact .inl rfl
  | incomplete found =>
    exact .inr ⟨_, found, [.types expected _, .axioms submission e.name], rfl⟩
  | typeMismatch found => exact .inr ⟨_, found, [.axioms submission e.name], rfl⟩
  | axiomViolation found => exact .inr ⟨_, found, List.prefix_rfl⟩
  | passed found => exact .inr ⟨_, found, List.prefix_rfl⟩

/-- The questions for one exercise are distinct, and are about what it is called. -/
theorem Inquiry.nodup_and_subject {asked : List Question} {status : ExerciseStatus}
    (inquiry : Inquiry checker e submission expected asked status) :
    asked.Nodup ∧ ∀ q ∈ asked, q.subject = e.name := by
  obtain rfl | ⟨actual, found, begins⟩ := inquiry.isPrefix
  · exact ⟨List.nodup_nil, List.forall_mem_nil _⟩
  · have called := Environment.name_of_lookup found
    have distinct : (Question.aboutPresent e submission expected actual).Nodup := by
      simp [Question.aboutPresent]
    have about : ∀ q ∈ Question.aboutPresent e submission expected actual,
        q.subject = e.name := by
      simp [Question.aboutPresent, Question.subject, called]
    exact ⟨distinct.sublist begins.sublist, fun q among => about q (begins.subset among)⟩

open Classical in
/-- The checker that gives another answer to one question: the opposite, or axioms that are accepted
where they were not and the other way round. -/
noncomputable def Checker.contradict (checker : Checker) (q : Question) : Checker where
  typesEqual expected actual :=
    if q = .types expected actual then !checker.typesEqual expected actual
    else checker.typesEqual expected actual
  isIncomplete d := if q = .incomplete d then !checker.isIncomplete d else checker.isIncomplete d
  axiomsOf env name :=
    if q = .axioms env name then
      if ∀ a ∈ checker.axiomsOf env name, a ∈ standardAxioms then [incompleteMarker] else []
    else checker.axiomsOf env name

/-- A checker is contradicted in one answer only. -/
theorem Checker.alike_contradict (checker : Checker) {q q' : Question} (other : q' ≠ q) :
    q'.AnsweredAlike checker (checker.contradict q) := by
  cases q' with
  | incomplete d => exact (if_neg other.symm).symm
  | types expected actual => exact (if_neg other.symm).symm
  | «axioms» env name => exact (if_neg other.symm).symm

@[simp] theorem Checker.isIncomplete_contradict (checker : Checker) (d : Declaration) :
    (checker.contradict (.incomplete d)).isIncomplete d = !checker.isIncomplete d :=
  if_pos rfl

@[simp] theorem Checker.typesEqual_contradict (checker : Checker) (expected actual : Declaration) :
    (checker.contradict (.types expected actual)).typesEqual expected actual =
      !checker.typesEqual expected actual :=
  if_pos rfl

/-- Axioms are accepted just where they were not. -/
theorem Checker.accepted_contradict_iff (checker : Checker) (env : Environment) (name : String) :
    (∀ a ∈ (checker.contradict (.axioms env name)).axiomsOf env name, a ∈ standardAxioms) ↔
      ∃ a ∈ checker.axiomsOf env name, a ∉ standardAxioms := by
  have answer : (checker.contradict (.axioms env name)).axiomsOf env name = _ := if_pos rfl
  rw [answer]
  split
  · next accepted =>
    have strange : incompleteMarker ∉ standardAxioms := by decide
    simpa [strange] using accepted
  · next violated => simpa using violated

/-- **Each answer matters**: had a question that was asked been answered otherwise, the status would
be another. -/
theorem Inquiry.status_ne {asked asked' : List Question} {status status' : ExerciseStatus}
    (inquiry : Inquiry checker e submission expected asked status) {q : Question}
    (among : q ∈ asked)
    (other : Inquiry (checker.contradict q) e submission expected asked' status') :
    status ≠ status' := by
  rintro rfl
  cases inquiry with
  | missing => cases among
  | incomplete found unfinished =>
    cases other with | incomplete found' unfinished' =>
    obtain rfl := Option.some.inj (found.symm.trans found')
    obtain rfl := List.mem_singleton.1 among
    simp [unfinished] at unfinished'
  | typeMismatch found finished differs =>
    cases other with | typeMismatch found' finished' differs' =>
    obtain rfl := Option.some.inj (found.symm.trans found')
    simp only [List.mem_cons, List.not_mem_nil, or_false] at among
    obtain rfl | rfl := among
    · simp [finished] at finished'
    · simp [differs] at differs'
  | axiomViolation found finished same violated =>
    cases other with | axiomViolation found' finished' same' violated' =>
    obtain rfl := Option.some.inj (found.symm.trans found')
    simp only [List.mem_cons, List.not_mem_nil, or_false] at among
    obtain rfl | rfl | rfl := among
    · simp [finished] at finished'
    · simp [same] at same'
    · obtain ⟨a, rests, strange⟩ := violated'
      exact strange ((checker.accepted_contradict_iff ..).2 violated a rests)
  | passed found finished same accepted =>
    cases other with | passed found' finished' same' accepted' =>
    obtain rfl := Option.some.inj (found.symm.trans found')
    simp only [List.mem_cons, List.not_mem_nil, or_false] at among
    obtain rfl | rfl | rfl := among
    · simp [finished] at finished'
    · simp [same] at same'
    · obtain ⟨a, rests, strange⟩ := (checker.accepted_contradict_iff ..).1 accepted'
      exact strange (accepted a rests)

/-! ## The questions of a grading -/

/-- An exercise is called what it was read for. -/
theorem Exercise.name_of_ofPoints {name : String} {points : Json}
    (read : ofPoints name points = .ok e) : e.name = name := by
  rw [ofPoints, ofFields, Checked.toExcept_eq_ok_iff, Checked.seq_eq_valid_iff] at read
  obtain ⟨_, _, named, -, rfl⟩ := read
  obtain ⟨_, same, rfl⟩ := Checked.map_eq_valid_iff.1 named
  cases same
  rfl

/-- Exercises are called what they were read for, in order. -/
theorem Environment.names_of_readExercises {entries : List (String × Json)}
    (read : readExercises entries = .ok es) : es.map (·.name) = entries.map (·.1) := by
  induction entries generalizing es with
  | nil =>
    cases read
    rfl
  | cons entry rest ih =>
    rw [readExercises] at read
    split at read
    · cases read
    · next e first =>
      obtain ⟨others, rest_read, rfl⟩ := exists_of_map_eq_ok read
      rw [List.map_cons, List.map_cons, ih rest_read, Exercise.name_of_ofPoints first]

/-- What is annotated is called what is declared, in order. -/
theorem Environment.names_annotated_sublist (env : Environment) (home : String)
    (points : List (String × Json)) :
    ((env.annotated home points).map (·.1)).Sublist (Declaration.names env.declarations) := by
  refine List.Sublist.trans ?_ ((List.filter_sublist (p := (·.home == some home))).map _)
  rw [annotated, declarationsOf]
  induction env.declarations.filter (·.home == some home) with
  | nil => exact .slnil
  | cons d rest ih =>
    rw [List.filterMap_cons, List.map_cons]
    split
    · exact ih.cons _
    · next entry annotated =>
      split at annotated
      · cases annotated
      · obtain ⟨_, -, rfl⟩ := Option.map_eq_some_iff.1 annotated
        exact ih.cons_cons _

/-- **The exercises of a module have distinct names**, whatever table their points are from. -/
theorem Environment.nodup_of_listed {home : String} {points : Option (List (String × Json))}
    (listed : reference.exercises home points = .ok es) : (es.map (·.name)).Nodup := by
  unfold exercises at listed
  split at listed
  · rw [names_of_readExercises listed]
    exact reference.distinct.sublist (reference.names_annotated_sublist home _)
  · cases listed

/-- **What the checker was asked for a grading**: the questions of each exercise, one exercise after
the other. -/
def Verdict.questions (vs : List Verdict) : List Question := vs.flatMap (·.asked)

/-- The statuses of the results. -/
def Verdict.statuses (vs : List Verdict) : List ExerciseStatus := vs.map (·.result.status)

/-- **A grading that asks what it has to**: exercise by exercise what the inquiry into it needs, of
a declaration that the reference expects, and no question twice. -/
structure Questioned (checker : Checker) (reference submission : Environment)
    (es : List Exercise) (vs : List Verdict) : Prop where
  each : List.Forall₂ (fun e v => ∃ expected, reference.lookup e.name = some expected ∧
    Inquiry checker e submission expected v.asked v.result.status) es vs
  once : (Verdict.questions vs).Nodup

variable {home : String} {points : Option (List (String × Json))}

/-- What a grading that ends with results consists of. -/
theorem exists_of_grade {policy : Option AxiomPolicy}
    (graded : grade checker policy reference submission home points = .ok vs) :
    vs ≠ [] ∧ ∃ es, reference.exercises home points = .ok es ∧
      List.Forall₂ (fun e v => verify checker policy e reference submission = .ok v) es vs := by
  unfold grade at graded
  split at graded
  · cases graded
  · next es listed =>
    split at graded
    · cases graded
    · cases graded
    · next verdicts some verified =>
      cases graded
      exact ⟨some, es, listed, verifyAll_ok_iff.1 verified⟩

/-- Exercises of a module that are graded one by one, and there is one, are a grading. -/
theorem grade_eq_ok {policy : Option AxiomPolicy}
    (listed : reference.exercises home points = .ok es) (some : vs ≠ [])
    (each : List.Forall₂ (fun e v => verify checker policy e reference submission = .ok v) es vs) :
    grade checker policy reference submission home points = .ok vs := by
  unfold grade
  rw [listed]
  dsimp only
  rw [verifyAll_ok_iff.2 each]
  match vs, some with
  | _ :: _, _ => rfl

/-- Exercises of distinct names are graded with distinct questions. -/
theorem questioned_of_verified (distinct : (es.map (·.name)).Nodup)
    (each : List.Forall₂ (fun e v => verify checker none e reference submission = .ok v) es vs) :
    Questioned checker reference submission es vs where
  each := each.imp fun _ _ graded => inquiry_of_verify graded
  once := by
    induction each with
    | nil => exact List.nodup_nil
    | @cons e v es vs graded rest ih =>
      obtain ⟨expected, -, inquiry⟩ := inquiry_of_verify graded
      obtain ⟨once, about⟩ := inquiry.nodup_and_subject
      obtain ⟨other, distinct⟩ := List.nodup_cons.1 distinct
      refine List.nodup_append.2 ⟨once, ih distinct, fun q now q' later same => ?_⟩
      obtain ⟨v', among, asked⟩ := List.mem_flatMap.1 later
      obtain ⟨e', he', graded'⟩ := exists_of_forall₂ rest among
      obtain ⟨_, -, inquiry'⟩ := inquiry_of_verify graded'
      have called : e'.name = e.name := by
        rw [← about q now, same, inquiry'.nodup_and_subject.2 q' asked]
      exact other (List.mem_map.2 ⟨e', he', called⟩)

/-- Where a question was asked, the statuses change with the answer. -/
theorem statuses_ne {q : Question} {vs' : List Verdict} (asked : q ∈ Verdict.questions vs)
    (each : List.Forall₂ (fun e v => verify checker none e reference submission = .ok v) es vs)
    (each' : List.Forall₂
      (fun e v => verify (checker.contradict q) none e reference submission = .ok v) es vs') :
    Verdict.statuses vs' ≠ Verdict.statuses vs := by
  induction each generalizing vs' with
  | nil => cases asked
  | cons graded _ ih =>
    cases each' with
    | cons graded' rest' =>
      intro same
      obtain ⟨same_first, same_rest⟩ := List.cons.inj same
      obtain now | later := List.mem_append.1 asked
      · obtain ⟨expected, declared, inquiry⟩ := inquiry_of_verify graded
        obtain ⟨expected', declared', inquiry'⟩ := inquiry_of_verify graded'
        obtain rfl := Option.some.inj (declared.symm.trans declared')
        exact inquiry.status_ne now inquiry' same_first.symm
      · exact ih later rest' same_rest

/-- **A grading depends on nothing but the answers to what was asked**, whatever else the checker
would say. -/
theorem grade_congr (graded : grade checker none reference submission home points = .ok vs)
    (alike : ∀ q ∈ Verdict.questions vs, q.AnsweredAlike checker checker') :
    grade checker' none reference submission home points = .ok vs := by
  obtain ⟨some, es, listed, each⟩ := exists_of_grade graded
  have alike_each : ∀ v ∈ vs, ∀ q ∈ v.asked, q.AnsweredAlike checker checker' :=
    fun v among q asked => alike q (List.mem_flatMap.2 ⟨v, among, asked⟩)
  have both := (List.forall₂_and_left _ _).2 ⟨alike_each, each.flip⟩
  have each' := (both.imp fun _ _ h => verify_congr h.2 h.1).flip
  exact grade_eq_ok listed some each'

/-- **What a grading asks.**  Grading a module with any checker asks, exercise after exercise, for
the mark, then the types, then the axioms, up to the first check that fails, which gives the status;
no question is asked twice.  A question is asked just when another answer to it alone can change the
statuses. -/
theorem grade_questioned
    (graded : grade checker none reference submission home points = .ok vs) :
    (∃ es, reference.exercises home points = .ok es ∧
      Questioned checker reference submission es vs) ∧
    ∀ q, q ∈ Verdict.questions vs ↔ ∃ checker' vs',
      (∀ q' ≠ q, q'.AnsweredAlike checker checker') ∧
        grade checker' none reference submission home points = .ok vs' ∧
        Verdict.statuses vs' ≠ Verdict.statuses vs := by
  obtain ⟨some, es, listed, each⟩ := exists_of_grade graded
  refine ⟨⟨es, listed, questioned_of_verified (Environment.nodup_of_listed listed) each⟩,
    fun q => ⟨fun asked => ?_, ?_⟩⟩
  · have declared : ∀ e ∈ es, (reference.lookup e.name).isSome := fun e he => by
      obtain ⟨v, -, verified⟩ := exists_of_forall₂ each.flip he
      obtain ⟨expected, declared, -⟩ := inquiry_of_verify verified
      exact Option.isSome_iff_exists.2 ⟨expected, declared⟩
    obtain ⟨vs', verified'⟩ := exists_verifyAll (checker.contradict q) none submission declared
    have each' := verifyAll_ok_iff.1 verified'
    have some' : vs' ≠ [] := by
      rintro rfl
      exact some (List.length_eq_zero_iff.1 (each.length_eq.symm.trans each'.length_eq))
    exact ⟨checker.contradict q, vs', fun q' other => checker.alike_contradict other,
      grade_eq_ok listed some' each', statuses_ne asked each each'⟩
  · rintro ⟨checker', vs', alike, graded', differ⟩
    by_contra unasked
    have graded_alike := grade_congr graded fun q' asked =>
      alike q' (ne_of_mem_of_not_mem asked unasked)
    obtain rfl := Except.ok.inj (graded_alike.symm.trans graded')
    exact differ rfl

/-- A checker that finds one declaration unfinished and every statement right. -/
def harshChecker : Checker where
  typesEqual _ _ := true
  isIncomplete d := d.name == "hard"
  axiomsOf _ _ := ["propext"]

/-- Of two exercises it is asked one question about the first, and three about the second. -/
theorem questioned_exerciseSheet : ∃ reference vs es,
    Export.environment exerciseSheet = .ok reference ∧
      grade harshChecker none reference reference "Sheet" none = .ok vs ∧
      reference.exercises "Sheet" none = .ok es ∧
      Questioned harshChecker reference reference es vs ∧
      (Verdict.questions vs).map (·.subject) = ["hard", "easy", "easy", "easy"] ∧
      Verdict.statuses vs = [.incomplete, .passed] := by
  obtain ⟨reference, exported⟩ : ∃ reference, Export.environment exerciseSheet = .ok reference :=
    ⟨_, rfl⟩
  obtain ⟨vs, graded, subjects, statuses⟩ : ∃ vs,
      grade harshChecker none reference reference "Sheet" none = .ok vs ∧
        (Verdict.questions vs).map (·.subject) = ["hard", "easy", "easy", "easy"] ∧
        Verdict.statuses vs = [.incomplete, .passed] := by
    cases exported
    exact ⟨_, rfl, rfl, rfl⟩
  obtain ⟨⟨es, listed, questioned⟩, -⟩ := grade_questioned graded
  exact ⟨reference, vs, es, exported, graded, listed, questioned, subjects, statuses⟩

end ProofGrading
