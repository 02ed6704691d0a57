import ProofGrading.Proofs.GradingPolicy

/-!
# Proofs/Isolation — an exercise is graded by what it rests on

Two environments agree from a name when all that is reachable from it in the first is declared alike
in both (`Environment.AgreeFrom`), as they do when a declaration that is not reachable is put in or
taken out (`AgreeFrom.replace`, `AgreeFrom.remove`).  Agreement is asked from one side only, and yet
the same names are reachable in both (`AgreeFrom.reachable_iff`); a walk finds the same axioms in
them, in one order or another (`AgreeFrom.unexpected_perm`), and what is printed does not show the
order.  So what an exercise does not rest on never changes its grade (`shown_verify_eq`).
-/

namespace ProofGrading

/-! ## Environments that agree -/

/-- Declarations that differ in nothing that is looked at but their types: they are of one kind,
marked alike, and refer to the same names, in any order and any number of times. -/
structure Declaration.Agrees (d₁ d₂ : Declaration) : Prop where
  kind_eq : d₁.kind = d₂.kind
  hasSorry_eq : d₁.hasSorry = d₂.hasSorry
  mem_references_iff : ∀ r, r ∈ d₁.references ↔ r ∈ d₂.references

theorem Declaration.Agrees.refl (d : Declaration) : d.Agrees d := ⟨rfl, rfl, fun _ => Iff.rfl⟩

theorem Declaration.Agrees.isIncomplete_eq {d₁ d₂ : Declaration} (h : d₁.Agrees d₂) :
    d₁.isIncomplete = d₂.isIncomplete := by
  unfold Declaration.isIncomplete
  rw [h.hasSorry_eq, Bool.eq_iff_iff]
  simp only [Bool.or_eq_true, List.contains_iff_mem, h.mem_references_iff]

/-- **Environments that agree from a name**: all that is reachable from it in the first is declared
in neither, or in both by declarations that agree; and the name itself has one type. -/
structure Environment.AgreeFrom (start : String) (env₁ env₂ : Environment) : Prop where
  declared : ∀ n, Reachable env₁ start n →
    Option.Rel Declaration.Agrees (env₁.lookup n) (env₂.lookup n)
  type_eq : (env₁.lookup start).map (·.type) = (env₂.lookup start).map (·.type)

namespace Environment.AgreeFrom

variable {env₁ env₂ : Environment} {start name : String}

/-- Environments that lead alike from all that is reachable agree. -/
theorem of_lookup_eq (h : ∀ n, Reachable env₁ start n → env₂.lookup n = env₁.lookup n) :
    AgreeFrom start env₁ env₂ where
  declared n hn := by
    rw [h n hn]
    cases env₁.lookup n with
    | none => exact .none
    | some d => exact .some (.refl d)
  type_eq := by rw [h start .start]

/-- **A declaration that is not reachable may be added, or put in the place of another.** -/
theorem replace {d : Declaration} (h : ¬Reachable env₁ start d.name)
    (modules : Option (List String)) : AgreeFrom start env₁ (env₁.replace d modules) :=
  of_lookup_eq fun n hn => by
    have other : d.name ≠ n := fun same => h (same ▸ hn)
    rw [lookup_replace, if_neg other]

/-- **A declaration that is not reachable may be removed.** -/
theorem remove (h : ¬Reachable env₁ start name) (modules : Option (List String)) :
    AgreeFrom start env₁ (env₁.remove name modules) :=
  of_lookup_eq fun n hn => by
    have other : name ≠ n := fun same => h (same ▸ hn)
    rw [lookup_remove, if_neg other]

theorem exists_right (h : AgreeFrom start env₁ env₂) (hn : Reachable env₁ start name)
    {d₁ : Declaration} (found : env₁.lookup name = some d₁) :
    ∃ d₂, env₂.lookup name = some d₂ ∧ d₁.Agrees d₂ := by
  have related := h.declared name hn
  rw [found] at related
  cases hr : env₂.lookup name with
  | none => rw [hr] at related; cases related
  | some d₂ => rw [hr] at related; cases related with | some agrees => exact ⟨d₂, rfl, agrees⟩

theorem exists_left (h : AgreeFrom start env₁ env₂) (hn : Reachable env₁ start name)
    {d₂ : Declaration} (found : env₂.lookup name = some d₂) :
    ∃ d₁, env₁.lookup name = some d₁ ∧ d₁.Agrees d₂ := by
  have related := h.declared name hn
  rw [found] at related
  cases hl : env₁.lookup name with
  | none => rw [hl] at related; cases related
  | some d₁ => rw [hl] at related; cases related with | some agrees => exact ⟨d₁, rfl, agrees⟩

/-- **The same names are reachable.**  A path in the second environment is one in the first, since
the first has each name on it and so each of its references. -/
theorem reachable_iff (h : AgreeFrom start env₁ env₂) :
    Reachable env₁ start name ↔ Reachable env₂ start name := by
  constructor
  · intro hn
    induction hn with
    | start => exact .start
    | step before found refers ih =>
      obtain ⟨d₂, found₂, agrees⟩ := h.exists_right before found
      exact ih.step found₂ ((agrees.mem_references_iff _).1 refers)
  · intro hn
    induction hn with
    | start => exact .start
    | step _ found refers ih =>
      obtain ⟨d₁, found₁, agrees⟩ := h.exists_left ih found
      exact ih.step found₁ ((agrees.mem_references_iff _).2 refers)

/-- The same axioms are reachable. -/
theorem mem_collectAxioms_iff (h : AgreeFrom start env₁ env₂) :
    name ∈ collectAxioms env₁ start ↔ name ∈ collectAxioms env₂ start := by
  rw [ProofGrading.mem_collectAxioms_iff, ProofGrading.mem_collectAxioms_iff, ← h.reachable_iff]
  refine and_congr_right fun hn => ⟨?_, ?_⟩
  · rintro ⟨d₁, found, isAxiom⟩
    obtain ⟨d₂, found₂, agrees⟩ := h.exists_right hn found
    exact ⟨d₂, found₂, agrees.kind_eq ▸ isAxiom⟩
  · rintro ⟨d₂, found, isAxiom⟩
    obtain ⟨d₁, found₁, agrees⟩ := h.exists_left hn found
    exact ⟨d₁, found₁, agrees.kind_eq ▸ isAxiom⟩

/-- **The axioms that are not accepted are the same**, in one order or another. -/
theorem unexpected_perm (h : AgreeFrom start env₁ env₂) (p : List String) :
    (AxiomPolicy.unexpected ⟨p, collectAxioms⟩ env₁ start).Perm
      (AxiomPolicy.unexpected ⟨p, collectAxioms⟩ env₂ start) :=
  ((List.perm_ext_iff_of_nodup (nodup_collectAxioms _ _) (nodup_collectAxioms _ _)).2 fun _ =>
    h.mem_collectAxioms_iff).filter _

end Environment.AgreeFrom

/-! ## What is seen of a graded exercise -/

/-- What is seen of a graded exercise: its result, and what is printed about it. -/
def Verdict.shown (v : Verdict) : ExerciseResult × Option String := (v.result, v.notice)

/-- Sorted names do not show the order that they came in. -/
theorem sortNames_eq_of_perm {ns ms : List String} (h : ns.Perm ms) :
    sortNames ns = sortNames ms := by
  have sorted : ∀ ns : List String, (sortNames ns).Pairwise (fun a b => decide (a ≤ b) = true) :=
    List.pairwise_mergeSort
      (fun a b c hab hbc => decide_eq_true
        (String.le_trans (of_decide_eq_true hab) (of_decide_eq_true hbc)))
      (fun a b => by simpa using String.le_total a b)
  refine List.Perm.eq_of_pairwise (fun a b _ _ hab hba => ?_) (sorted ns) (sorted ms) ?_
  · exact String.le_antisymm (of_decide_eq_true hab) (of_decide_eq_true hba)
  · exact (List.mergeSort_perm ns _).trans (h.trans (List.mergeSort_perm ms _).symm)

section

variable {e : Exercise} {env₁ env₂ : Environment} {x₁ x₂ a₁ a₂ : Declaration}

/-- **Declarations are judged alike** when the three checks of them come to the same. -/
theorem shown_judge_eq
    (incomplete : Checker.structural.isIncomplete a₁ = Checker.structural.isIncomplete a₂)
    (types : Checker.structural.typesEqual x₁ a₁ = Checker.structural.typesEqual x₂ a₂)
    (unexpected : (Checker.structural.policy.unexpected env₁ e.name).Perm
      (Checker.structural.policy.unexpected env₂ e.name)) :
    (judge .structural none e env₁ x₁ a₁).shown = (judge .structural none e env₂ x₂ a₂).shown := by
  unfold judge
  rw [incomplete, types]
  split
  · rfl
  · split
    · rfl
    · dsimp only [Option.getD_none]
      rw [unexpected.isEmpty_eq]
      split
      · rfl
      · simp only [Verdict.shown, Verdict.notice, unexpected.isEmpty_eq,
          sortNames_eq_of_perm unexpected]
        rfl

/-- **An exercise is graded by what it rests on**: with one expected type, and submissions that
agree from its name, its result is the same and so is what is printed. -/
theorem shown_verify_eq {reference₁ reference₂ : Environment}
    (expected : (reference₁.lookup e.name).map (·.type) = (reference₂.lookup e.name).map (·.type))
    (agree : Environment.AgreeFrom e.name env₁ env₂) :
    (verify .structural none e reference₁ env₁).map Verdict.shown =
      (verify .structural none e reference₂ env₂).map Verdict.shown := by
  have related := agree.declared e.name .start
  have typed := agree.type_eq
  unfold verify
  cases declared₁ : reference₁.lookup e.name with
  | none =>
    have declared₂ : reference₂.lookup e.name = none := by simpa [declared₁] using expected.symm
    rw [declared₂]
  | some x₁ =>
    rw [declared₁] at expected
    obtain ⟨x₂, declared₂, types⟩ := Option.map_eq_some_iff.1 expected.symm
    rw [declared₂]
    cases found₁ : env₁.lookup e.name with
    | none =>
      have found₂ : env₂.lookup e.name = none := by simpa [found₁] using typed.symm
      rw [found₂]
    | some a₁ =>
      obtain ⟨a₂, found₂, agrees⟩ := agree.exists_right .start found₁
      rw [found₁, found₂, Option.map_some, Option.map_some, Option.some.injEq] at typed
      rw [found₂]
      refine congrArg Except.ok (shown_judge_eq agrees.isIncomplete_eq ?_
        (agree.unexpected_perm standardAxioms))
      change TypeTree.equal x₁.type a₁.type = TypeTree.equal x₂.type a₂.type
      rw [types, typed]

end

/-- A submission whose proof runs in a circle, to a name that is not declared and to two axioms of
its own. -/
def tangledSubmission : Environment where
  mainModule := "Sheet"
  declarations :=
    [{ name := "easy", kind := .theoremKind, type := sampleType "y", references := ["helper"] },
      { name := "helper", kind := .theoremKind, references := ["easy", "ghost", "trick", "cheat"] },
      { name := "trick", kind := .axiomKind },
      { name := "cheat", kind := .axiomKind }]
  distinct := by decide

/-- The same in another order, with references repeated and a draft added, from another module and
with points. -/
def rearrangedSubmission : Environment where
  mainModule := "Copy"
  modules := ["Copy", "Init"]
  declarations :=
    [{ name := "cheat", home := some "Copy", kind := .axiomKind, internal := true },
      { name := "draft", home := some "Copy", kind := .theoremKind, hasSorry := true,
        references := ["sorryAx", "easy"] },
      { name := "helper", home := some "Copy", kind := .theoremKind, points := some 3,
        references := ["cheat", "trick", "ghost", "easy", "cheat"] },
      { name := "easy", home := some "Copy", kind := .theoremKind, type := sampleType "y",
        references := ["helper", "helper"] },
      { name := "trick", home := some "Init", kind := .axiomKind }]
  distinct := by decide

/-- The sample reference with another exercise. -/
def widerReference : Environment :=
  sampleReference.replace { name := "hard", kind := .theoremKind, points := some 2 } none

theorem agreeFrom_rearranged :
    Environment.AgreeFrom "easy" tangledSubmission rearrangedSubmission where
  declared n hn := by
    have among : n ∈ ["easy", "helper", "ghost", "trick", "cheat"] :=
      hn.mem_of_closed (by decide) (by decide)
    simp only [List.mem_cons, List.not_mem_nil, or_false] at among
    rcases among with rfl | rfl | rfl | rfl | rfl
    · exact .some ⟨rfl, rfl, by simp⟩
    · exact .some ⟨rfl, rfl, by simp; tauto⟩
    · exact .none
    · exact .some ⟨rfl, rfl, by simp⟩
    · exact .some ⟨rfl, rfl, by simp⟩
  type_eq := rfl

/-- The rearranged submission violates the same axioms, and the same is printed. -/
theorem shown_verify_rearranged :
    (verify .structural none ⟨"easy", 5⟩ sampleReference tangledSubmission).map Verdict.shown =
      (verify .structural none ⟨"easy", 5⟩ widerReference rearrangedSubmission).map
        Verdict.shown := by
  have expected : (sampleReference.lookup "easy").map (·.type) =
      (widerReference.lookup "easy").map (·.type) := by
    rw [widerReference, Environment.lookup_replace]
    rfl
  exact shown_verify_eq expected agreeFrom_rearranged

end ProofGrading
