import Mathlib.Logic.Relation
import ProofGrading.AxiomClosure

/-!
# Proofs/Walking — a walk visits exactly what is reachable

A walk goes on round by round until no name is pending.  What carries it is `Walk.Covers`: every
name that was met is reachable, and what a visited name refers to was met.  When nothing is pending
the visited names are closed under references, so they are the reachable ones
(`mem_visited_ofStart_iff`), and of these the axioms are collected (`collectAxioms_exact`).
-/

namespace ProofGrading

namespace Walk

variable {env : Environment} {start : String} {w w' : Walk}

/-! ## One round -/

theorem step_eq_none_iff : step env w = none ↔ w.pending = [] := by
  unfold step
  split
  · next h => simp [h]
  · next h => split <;> simp [h]

/-- One round leads from a walk to the next. -/
def Round (env : Environment) (w w' : Walk) : Prop := step env w = some w'

/-- **What a round does**: it passes over a name that was visited, or visits the name and adds those
of its references that were not. -/
theorem Round.cases (h : Round env w w') :
    ∃ name rest, w.pending = name :: rest ∧
      ((name ∈ w.visited ∧ w'.visited = w.visited ∧ w'.pending = rest) ∨
        (name ∉ w.visited ∧ w'.visited = name :: w.visited ∧
          w'.pending = ((referencesOf env name).filter fun r =>
            !(name :: w.visited).contains r).reverse ++ rest)) := by
  unfold Round step at h
  split at h
  · cases h
  · next name rest hp =>
    refine ⟨name, rest, hp, ?_⟩
    split at h
    · next hv =>
      obtain rfl := Option.some.inj h
      exact Or.inl ⟨List.contains_iff_mem.1 hv, rfl, rfl⟩
    · next hv =>
      obtain rfl := Option.some.inj h
      exact Or.inr ⟨fun hm => hv (List.contains_iff_mem.2 hm), rfl, rfl⟩

/-- A name was met when it was visited or is pending. -/
def Met (w : Walk) (name : String) : Prop := name ∈ w.visited ∨ name ∈ w.pending

theorem Round.nodup (h : Round env w w') (hn : w.visited.Nodup) : w'.visited.Nodup := by
  obtain ⟨name, rest, -, ⟨-, hvis, -⟩ | ⟨hnew, hvis, -⟩⟩ := h.cases
  · rw [hvis]
    exact hn
  · rw [hvis]
    exact List.nodup_cons.2 ⟨hnew, hn⟩

/-- **No name that was met is forgotten.** -/
theorem Round.met (h : Round env w w') {n : String} (hn : w.Met n) : w'.Met n := by
  obtain ⟨name, rest, hp, ⟨hold, hvis, hpen⟩ | ⟨-, hvis, hpen⟩⟩ := h.cases
  · rw [Met, hp, List.mem_cons] at hn
    rw [Met, hvis, hpen]
    rcases hn with hn | rfl | hn
    · exact Or.inl hn
    · exact Or.inl hold
    · exact Or.inr hn
  · rw [Met, hp, List.mem_cons] at hn
    rw [Met, hvis, hpen, List.mem_cons, List.mem_append]
    rcases hn with hn | rfl | hn
    · exact Or.inl (Or.inr hn)
    · exact Or.inl (Or.inl rfl)
    · exact Or.inr (Or.inr hn)

/-- A name that is met for the first time is referred to by one that was pending. -/
theorem Round.met_before (h : Round env w w') {n : String} (hn : w'.Met n) :
    w.Met n ∨ ∃ name ∈ w.pending, n ∈ referencesOf env name := by
  obtain ⟨name, rest, hp, ⟨-, hvis, hpen⟩ | ⟨-, hvis, hpen⟩⟩ := h.cases
  · rw [Met, hvis, hpen] at hn
    rw [Met, hp]
    exact Or.inl (hn.imp_right (List.mem_cons_of_mem _))
  · rw [Met, hvis, hpen, List.mem_cons, List.mem_append, List.mem_reverse, List.mem_filter] at hn
    rw [Met, hp]
    rcases hn with (rfl | hn) | ⟨hn, -⟩ | hn
    · exact Or.inl (Or.inr (List.mem_cons_self ..))
    · exact Or.inl (Or.inl hn)
    · exact Or.inr ⟨name, List.mem_cons_self .., hn⟩
    · exact Or.inl (Or.inr (List.mem_cons_of_mem _ hn))

/-- **A name that is visited in a round has all its references met.** -/
theorem Round.visited_before (h : Round env w w') {n : String} (hn : n ∈ w'.visited) :
    n ∈ w.visited ∨ ∀ r ∈ referencesOf env n, w'.Met r := by
  obtain ⟨name, rest, -, ⟨-, hvis, -⟩ | ⟨-, hvis, hpen⟩⟩ := h.cases
  · exact Or.inl (hvis ▸ hn)
  · rw [hvis, List.mem_cons] at hn
    rcases hn with rfl | hn
    · refine Or.inr fun r hr => ?_
      rw [Met, hvis, hpen, List.mem_append, List.mem_reverse, List.mem_filter]
      by_cases hmem : r ∈ n :: w.visited
      · exact Or.inl hmem
      · exact Or.inr (Or.inl ⟨hr, by simpa using hmem⟩)
    · exact Or.inl hn

/-! ## All rounds -/

/-- **What every round keeps, the whole walk keeps.** -/
theorem run_induction {P : Walk → Prop} (hstep : ∀ {w w'}, Round env w w' → P w → P w')
    (h : P w) : P (run env w) := by
  fun_induction run env w with
  | case1 w hn => exact h
  | case2 w w' hs ih => exact ih (hstep hs h)

/-- A walk ends after rounds, as many as it takes… -/
theorem rounds_run (env : Environment) (w : Walk) :
    Relation.ReflTransGen (Round env) w (run env w) :=
  run_induction (P := fun v => Relation.ReflTransGen (Round env) w v)
    (fun hr h => h.tail hr) Relation.ReflTransGen.refl

/-- …and there is no round after them. -/
theorem step_run (env : Environment) (w : Walk) : step env (run env w) = none := by
  fun_induction run env w with
  | case1 w hn => exact hn
  | case2 w w' hs ih => exact ih

/-! ## The invariant -/

theorem mem_referencesOf_iff {name next : String} :
    next ∈ referencesOf env name ↔ ∃ d, env.lookup name = some d ∧ next ∈ d.references := by
  unfold referencesOf
  cases env.lookup name with
  | none => simp
  | some d => simp

theorem reachable_of_mem_referencesOf {name next : String} (h : Reachable env start name)
    (hr : next ∈ referencesOf env name) : Reachable env start next := by
  obtain ⟨d, hd, hm⟩ := mem_referencesOf_iff.1 hr
  exact h.step hd hm

/-- **Only what is reachable was met, and no reference of a visited name was missed.** -/
structure Covers (env : Environment) (start : String) (w : Walk) : Prop where
  nodup : w.visited.Nodup
  reachable : ∀ n, w.Met n → Reachable env start n
  start_met : w.Met start
  reference_met : ∀ n ∈ w.visited, ∀ r ∈ referencesOf env n, w.Met r

theorem covers_start (env : Environment) (start : String) :
    Covers env start { pending := [start] } where
  nodup := List.nodup_nil
  reachable n hn := by
    obtain rfl : n = start := by simpa [Met] using hn
    exact .start
  start_met := Or.inr (List.mem_singleton.2 rfl)
  reference_met _ hn := by cases hn

/-- **A round covers what was covered.** -/
theorem Covers.round (hc : Covers env start w) (hr : Round env w w') : Covers env start w' where
  nodup := hr.nodup hc.nodup
  reachable n hn := by
    rcases hr.met_before hn with hn | ⟨name, hname, hn⟩
    · exact hc.reachable n hn
    · exact reachable_of_mem_referencesOf (hc.reachable name (Or.inr hname)) hn
  start_met := hr.met hc.start_met
  reference_met n hn r href := by
    rcases hr.visited_before hn with hn | hall
    · exact hr.met (hc.reference_met n hn r href)
    · exact hall r href

/-! ## The end of a walk -/

theorem covers_ofStart (env : Environment) (start : String) :
    Covers env start (ofStart env start) :=
  run_induction (fun hr hc => hc.round hr) (covers_start env start)

theorem pending_ofStart (env : Environment) (start : String) : (ofStart env start).pending = [] :=
  step_eq_none_iff.1 (step_run env _)

/-- Where nothing is pending, all that is reachable was visited. -/
theorem Covers.mem_visited (hc : Covers env start w) (hp : w.pending = []) {name : String}
    (h : Reachable env start name) : name ∈ w.visited := by
  have visited : ∀ {n}, w.Met n → n ∈ w.visited := fun hn => by simpa [Met, hp] using hn
  induction h with
  | start => exact visited hc.start_met
  | step _ declared refers ih =>
    exact visited (hc.reference_met _ ih _ (mem_referencesOf_iff.2 ⟨_, declared, refers⟩))

/-- **The names visited are the names reachable.** -/
theorem mem_visited_ofStart_iff {name : String} :
    name ∈ (ofStart env start).visited ↔ Reachable env start name :=
  ⟨fun h => (covers_ofStart env start).reachable name (Or.inl h),
    (covers_ofStart env start).mem_visited (pending_ofStart env start)⟩

end Walk

/-- **Names that are closed under references are not left**: with the start name all that is
reachable is among them. -/
theorem Reachable.mem_of_closed {env : Environment} {start name : String} {names : List String}
    (h : Reachable env start name) (hs : start ∈ names)
    (hc : ∀ n ∈ names, ∀ r ∈ Walk.referencesOf env n, r ∈ names) : name ∈ names := by
  induction h with
  | start => exact hs
  | step _ declared refers ih =>
    exact hc _ ih _ (Walk.mem_referencesOf_iff.2 ⟨_, declared, refers⟩)

/-! ## The axioms -/

variable {env : Environment} {start name : String}

theorem Environment.declaresAxiom_iff :
    env.declaresAxiom name = true ↔ ∃ d, env.lookup name = some d ∧ d.kind = .axiomKind := by
  unfold Environment.declaresAxiom
  cases env.lookup name with
  | none => simp
  | some d => simp [Declaration.isAxiom]

/-- **The axioms collected are the axioms reachable.** -/
theorem mem_collectAxioms_iff :
    name ∈ collectAxioms env start ↔
      Reachable env start name ∧ ∃ d, env.lookup name = some d ∧ d.kind = .axiomKind := by
  rw [collectAxioms, List.mem_filter, Walk.mem_visited_ofStart_iff, Environment.declaresAxiom_iff]

/-- No axiom is collected twice. -/
theorem nodup_collectAxioms (env : Environment) (start : String) :
    (collectAxioms env start).Nodup :=
  (Walk.covers_ofStart env start).nodup.filter _

/-- **Collecting axioms ends and is exact**: rounds lead from the start name to a walk without a
further round, and what is collected, each name once, are the axioms that are reachable. -/
theorem collectAxioms_exact (env : Environment) (start : String) :
    Relation.ReflTransGen (Walk.Round env) { pending := [start] } (Walk.ofStart env start) ∧
      Walk.step env (Walk.ofStart env start) = none ∧
      (collectAxioms env start).Nodup ∧
      ∀ a, a ∈ collectAxioms env start ↔
        Reachable env start a ∧ ∃ d, env.lookup a = some d ∧ d.kind = .axiomKind :=
  ⟨Walk.rounds_run env _, Walk.step_run env _, nodup_collectAxioms env start,
    fun _ => mem_collectAxioms_iff⟩

end ProofGrading
