import Mathlib.Data.List.Nodup
import ProofGrading.Proofs.Credit

/-!
# Proofs/Assumptions — one axiom more

An axiom is assumed when it is added to a submission and some declaration is made to refer to it
(`Environment.assume`).  If an exercise rests on that declaration, it then rests on one name more
(`Environment.reachable_assume_iff`), however references run; so an exercise that passed fails on
that axiom alone, and passes again once it is discharged (`assumed_axiom_decides`).
-/

namespace ProofGrading

namespace Declaration

/-- What was put in a place may be replaced there. -/
theorem put_put (ds : List Declaration) {d d' : Declaration} (h : d'.name = d.name) :
    put (put ds d') d = put ds d := by
  induction ds with
  | nil => exact if_pos h
  | cons e rest ih =>
    by_cases here : e.name = d.name
    · rw [put, if_pos (here.trans h.symm), put, if_pos h, put, if_pos here]
    · rw [put, if_neg (h ▸ here), put, if_neg here, ih, put, if_neg here]

/-- A declaration that is there is in its place. -/
theorem put_eq_self {ds : List Declaration} {d : Declaration} (h : find? ds d.name = some d) :
    put ds d = ds := by
  induction ds with
  | nil => cases h
  | cons e rest ih =>
    rw [find?, List.find?_cons] at h
    by_cases here : e.name = d.name
    · rw [beq_iff_eq.2 here] at h
      rw [put, if_pos here, Option.some.inj h]
    · rw [beq_eq_false_iff_ne.2 here] at h
      rw [put, if_neg here, ih h]

/-- A declaration under a new name can be dropped again. -/
theorem filter_put_of_notMem {ds : List Declaration} {d : Declaration} (h : d.name ∉ names ds) :
    (put ds d).filter (·.name != d.name) = ds := by
  have others : ∀ e ∈ ds, (e.name != d.name) = true := fun e he =>
    bne_iff_ne.2 fun same => h (same ▸ List.mem_map_of_mem he)
  rw [put_of_notMem h, List.filter_append, List.filter_eq_self.2 others]
  simp

end Declaration

namespace Environment

variable {env : Environment} {d x : Declaration} {references : List String} {start name : String}

/-- A name that nothing declares is not that of a declaration. -/
theorem ne_of_lookup_eq_none {new : String} (absent : env.lookup new = none)
    (found : env.lookup name = some d) : new ≠ name := by
  rintro rfl
  cases absent.symm.trans found

theorem notMem_names_of_lookup_eq_none {new : String} (absent : env.lookup new = none) :
    new ∉ Declaration.names env.declarations := fun among => by
  obtain ⟨d, declared, called⟩ := List.mem_map.1 among
  obtain ⟨e, found⟩ := Option.isSome_iff_exists.1 (lookup_isSome_of_mem declared)
  exact ne_of_lookup_eq_none absent found called.symm

/-! ## Assuming and discharging -/

/-- **The environment with an axiom more**, and with the references that now lead to it. -/
def assume (env : Environment) (d x : Declaration) (references : List String) : Environment :=
  (env.replace { d with references } (some env.modules)).replace x (some env.modules)

/-- The environment without that axiom, and with the declaration that led to it as it was. -/
def discharge (env : Environment) (d x : Declaration) : Environment :=
  (env.remove x.name (some env.modules)).replace d (some env.modules)

theorem lookup_assume (env : Environment) (d x : Declaration) (references : List String)
    (name : String) : (env.assume d x references).lookup name =
      if x.name = name then some x
      else if d.name = name then some { d with references } else env.lookup name := by
  rw [assume, lookup_replace, lookup_replace]

theorem declarations_replace (env : Environment) (d : Declaration)
    (modules : Option (List String)) :
    (env.replace d modules).declarations = Declaration.put env.declarations d :=
  Declaration.index_of_nodup (Declaration.nodup_names_put env.distinct d)

theorem declarations_remove (env : Environment) (name : String)
    (modules : Option (List String)) :
    (env.remove name modules).declarations = env.declarations.filter (·.name != name) :=
  Declaration.index_of_nodup (nodup_names_filter _ env.distinct)

theorem eq_of_declarations_eq {env₁ env₂ : Environment} (kind : env₁.kind = env₂.kind)
    (main : env₁.mainModule = env₂.mainModule) (modules : env₁.modules = env₂.modules)
    (declarations : env₁.declarations = env₂.declarations) : env₁ = env₂ := by
  cases env₁
  cases env₂
  simp_all

/-- **What was assumed can be discharged**, and nothing else has changed then. -/
theorem discharge_assume (found : env.lookup d.name = some d) (new : env.lookup x.name = none) :
    (env.assume d x references).discharge d x = env := by
  have there : d.name ∈ Declaration.names env.declarations :=
    List.mem_map_of_mem (mem_of_lookup found)
  have absent := notMem_names_of_lookup_eq_none new
  have names := Declaration.names_put env.declarations { d with references }
  rw [if_pos there] at names
  have called : ({ d with references } : Declaration).name = d.name := rfl
  refine eq_of_declarations_eq rfl rfl rfl ?_
  rw [discharge, declarations_replace, declarations_remove, assume, declarations_replace,
    declarations_replace, Declaration.filter_put_of_notMem (names.symm ▸ absent),
    Declaration.put_put _ called, Declaration.put_eq_self found]

/-! ## What is reachable -/

section

variable (reached : Reachable env start d.name) (found : env.lookup d.name = some d)
  (new : env.lookup x.name = none) (alone : x.references = [])
  (added : ∀ r, r ∈ references ↔ r = x.name ∨ r ∈ d.references)
include found added

include new in
/-- References are only added: what was reachable still is. -/
theorem reachable_assume (h : Reachable env start name) :
    Reachable (env.assume d x references) start name := by
  induction h with
  | start => exact .start
  | @step n next d₁ _ declared refers ih =>
    have there := env.lookup_assume d x references n
    rw [if_neg (ne_of_lookup_eq_none new declared)] at there
    by_cases here : d.name = n
    · subst here
      obtain rfl := Option.some.inj (found.symm.trans declared)
      rw [if_pos rfl] at there
      exact ih.step there ((added _).2 (.inr refers))
    · rw [if_neg here] at there
      exact ih.step (there.trans declared) refers

include alone in
/-- Nothing but the axiom comes within reach, since it refers to nothing itself. -/
theorem reachable_of_assume (h : Reachable (env.assume d x references) start name) :
    name = x.name ∨ Reachable env start name := by
  induction h with
  | start => exact .inr .start
  | @step n next d₁ _ declared refers ih =>
    rw [lookup_assume] at declared
    split at declared
    · cases declared
      rw [alone] at refers
      cases refers
    · next other =>
      have before := ih.resolve_left (Ne.symm other)
      split at declared
      · next here =>
        cases declared
        exact ((added _).1 refers).imp_right fun refers => before.step (here ▸ found) refers
      · exact .inr (before.step declared refers)

include reached new alone

/-- **An axiom that is assumed is one name more**, for whatever rests on the declaration that refers
to it. -/
theorem reachable_assume_iff :
    Reachable (env.assume d x references) start name ↔
      name = x.name ∨ Reachable env start name := by
  refine ⟨reachable_of_assume found alone added, ?_⟩
  rintro (rfl | h)
  · have there := env.lookup_assume d x references d.name
    rw [if_neg (ne_of_lookup_eq_none new found), if_pos rfl] at there
    exact (reachable_assume found new added reached).step there ((added _).2 (.inl rfl))
  · exact reachable_assume found new added h

/-- **The axiom that is assumed is the one that is not accepted**, if all others are. -/
theorem unexpected_assume (standard : ¬RestsOnUnaccepted env start) (isAxiom : x.kind = .axiomKind)
    (unaccepted : x.name ∉ ["propext", "Quot.sound", "Classical.choice"]) :
    Checker.structural.policy.unexpected (env.assume d x references) start = [x.name] := by
  have nodup := nodup_unexpected (env.assume d x references) start
  refine List.perm_singleton.1 ((List.perm_ext_iff_of_nodup nodup (List.nodup_singleton _)).2 ?_)
  intro a
  rw [mem_unexpected_iff, List.mem_singleton]
  constructor
  · rintro ⟨d₁, hr, hd, hk, hn⟩
    obtain same | hr := (reachable_assume_iff reached found new alone added).1 hr
    · exact same
    rw [lookup_assume] at hd
    split at hd
    · next same => exact same.symm
    · split at hd
      · next here =>
        cases hd
        exact absurd ⟨a, d, hr, here ▸ found, hk, hn⟩ standard
      · exact absurd ⟨a, d₁, hr, hd, hk, hn⟩ standard
  · rintro rfl
    refine ⟨x, (reachable_assume_iff reached found new alone added).2 (.inl rfl), ?_, isAxiom,
      unaccepted⟩
    rw [lookup_assume, if_pos rfl]

end

end Environment

/-! ## What comes of it -/

variable {e : Exercise} {reference submission : Environment} {expected actual d x : Declaration}
  {references : List String} {v : Verdict}

/-- How a finished declaration of the expected type is judged when an axiom is not accepted. -/
theorem judge_of_unexpected {a : String} (finished : ¬actual.Unfinished)
    (same : Checker.structural.typesEqual expected actual = true)
    (unexpected : Checker.structural.policy.unexpected submission e.name = [a]) :
    (judge .structural none e submission expected actual).result =
        ⟨e.name, .axiomViolation, 0.0, e.points, "Contains unexpected axioms"⟩ ∧
      (judge .structural none e submission expected actual).unexpected = [a] := by
  unfold judge
  rw [if_neg fun unfinished => finished (isIncomplete_iff.1 unfinished),
    if_neg (by simp [same])]
  dsimp only [Option.getD_none]
  rw [unexpected]
  exact ⟨rfl, rfl⟩

/-- **An axiom that is not accepted decides.**  Take an exercise that passed, any declaration that
it rests on, its own included, and any name that is neither declared nor accepted; where the
declaration is the exercise's own, the name is not that of the placeholder.  With an axiom of this
name, and a reference to it from the declaration, the exercise fails on this axiom and no other;
once both are taken back it passes with all its points. -/
theorem assumed_axiom_decides
    (graded : verify .structural none e reference submission = .ok v)
    (passed : v.result.status = .passed) (reached : Reachable submission e.name d.name)
    (found : submission.lookup d.name = some d) (isAxiom : x.kind = .axiomKind)
    (alone : x.references = []) (new : submission.lookup x.name = none)
    (unaccepted : x.name ∉ ["propext", "Quot.sound", "Classical.choice"])
    (unmarked : d.name = e.name → x.name ≠ "sorryAx")
    (added : ∀ r, r ∈ references ↔ r = x.name ∨ r ∈ d.references) :
    (∃ v₁, verify .structural none e reference (submission.assume d x references) = .ok v₁ ∧
        v₁.result = ⟨e.name, .axiomViolation, 0.0, e.points, "Contains unexpected axioms"⟩ ∧
        v₁.unexpected = [x.name]) ∧
      ∃ v₂, verify .structural none e reference
          ((submission.assume d x references).discharge d x) = .ok v₂ ∧
        v₂.result = ⟨e.name, .passed, e.points, e.points, "Passed all tests"⟩ := by
  obtain ⟨expected, actual, declared, there, finished, same, standard⟩ :=
    (passed_iff graded).1 passed
  constructor
  · obtain ⟨actual', there', finished', same'⟩ : ∃ actual',
        (submission.assume d x references).lookup e.name = some actual' ∧
          ¬actual'.Unfinished ∧ Checker.structural.typesEqual expected actual' = true := by
      have other : x.name ≠ e.name := Environment.ne_of_lookup_eq_none new there
      rw [Environment.lookup_assume, if_neg other]
      split
      · next here =>
        obtain rfl := Option.some.inj (there.symm.trans (here ▸ found))
        refine ⟨_, rfl, ?_, same⟩
        rintro (marked | refers)
        · exact finished (.inl marked)
        · obtain placeholder | refers := (added _).1 refers
          · exact unmarked here placeholder.symm
          · exact finished (.inr refers)
      · exact ⟨actual, there, finished, same⟩
    have unexpected :=
      Environment.unexpected_assume reached found new alone added standard isAxiom unaccepted
    obtain ⟨result, alone⟩ := judge_of_unexpected finished' same' unexpected
    refine ⟨_, ?_, result, alone⟩
    rw [verify, declared, there']
  · rw [Environment.discharge_assume found new]
    exact ⟨v, graded, result_of_passed graded passed⟩

namespace draftedSubmission

/-- An axiom under a name to which the helper refers, though nothing declares it. -/
def ghost : Declaration := { name := "ghost", kind := .axiomKind }

/-- The helper that the exercise refers to. -/
def helper : Declaration := draftedSubmission.declarations[1]

/-- The submission with the axiom, and one more reference to it. -/
def edited : Environment :=
  draftedSubmission.assume helper ghost ("ghost" :: helper.references)

end draftedSubmission

/-- Once the axiom is declared the exercise fails, and only as long as it is. -/
theorem assumed_ghost_decides : ∃ v₁ v₂,
    verify .structural none ⟨"easy", 5⟩ sampleReference draftedSubmission.edited = .ok v₁ ∧
      v₁.result.status = .axiomViolation ∧ v₁.unexpected = ["ghost"] ∧
      verify .structural none ⟨"easy", 5⟩ sampleReference
          (draftedSubmission.edited.discharge draftedSubmission.helper draftedSubmission.ghost) =
        .ok v₂ ∧
      v₂.result.status = .passed := by
  obtain ⟨v, graded, passed⟩ := draftedSubmission.verify_passed
  have reached : Reachable draftedSubmission "easy" draftedSubmission.helper.name :=
    Reachable.start.step rfl (List.mem_singleton_self _)
  obtain ⟨⟨v₁, failed, result₁, unexpected⟩, v₂, restored, result₂⟩ :=
    assumed_axiom_decides (x := draftedSubmission.ghost) graded passed reached rfl rfl rfl rfl
      (by decide) (by decide) fun _ => List.mem_cons
  exact ⟨v₁, v₂, failed, by rw [result₁], unexpected, restored, by rw [result₂]⟩

end ProofGrading
