import Mathlib
import ProofGrading.Proofs.Indexing
import ProofGrading.Proofs.Walking

/-!
# Proofs/Expanding — how often a walk takes up a name

A name can be pending several times over, once for every reference that led to it before it was
visited.  The **trail** of a walk is its states at the beginning of each round, and its `lookups`
are the names that are new when they are taken up; the others are passed over.  Every round and
every pending name but the start was paid for by a reference of a visited name (`Walk.IsPaid`).  So
each reachable name is looked up once, and there are at most as many rounds as the reachable
declarations have references, and one (`Walk.expands_once`).
-/

namespace ProofGrading

namespace Walk

variable {env : Environment} {start : String} {w w' : Walk}

/-! ## The rounds of a walk -/

/-- The states of a walk at the beginning of its rounds, the first one first. -/
def trail (env : Environment) (w : Walk) : List Walk :=
  match _h : step env w with
  | none => []
  | some w' => w :: trail env w'
termination_by w.potential env
decreasing_by exact potential_lt_of_step _h

/-- The name that a round looks up: the next pending one, unless it was visited. -/
def lookedUp? (w : Walk) : Option String :=
  w.pending.head?.filter fun name => !w.visited.contains name

/-- The names that a walk looks up from here on, in order. -/
def lookups (env : Environment) (w : Walk) : List String := (trail env w).filterMap lookedUp?

theorem trail_of_none (h : step env w = none) : trail env w = [] := by
  unfold trail
  split
  · rfl
  · next h' => cases h.symm.trans h'

theorem Round.trail_eq (h : Round env w w') : trail env w = w :: trail env w' := by
  rw [trail]
  split
  · next h' => cases h.symm.trans h'
  · next h' =>
    obtain rfl := Option.some.inj (h.symm.trans h')
    rfl

/-- The states of a walk begin with the one it starts from… -/
theorem head?_trail_append (env : Environment) (w : Walk) :
    (trail env w ++ [run env w]).head? = some w := by
  fun_cases run env w with
  | case1 ended => rw [trail_of_none ended]; rfl
  | case2 w' next => rw [Round.trail_eq next]; rfl

/-- …and **each state leads to the next one by a round**. -/
theorem isChain_trail_append (env : Environment) (w : Walk) :
    (trail env w ++ [run env w]).IsChain (Round env) := by
  fun_induction run env w with
  | case1 w ended =>
    rw [trail_of_none ended]
    exact .singleton w
  | case2 w w' next ih =>
    rw [Round.trail_eq next, List.cons_append]
    refine ih.cons fun v first => ?_
    rw [head?_trail_append] at first
    obtain rfl := Option.some.inj first
    exact next

theorem Round.rounds_eq (h : Round env w w') : w'.rounds = w.rounds + 1 := by
  unfold Round step at h
  split at h
  · cases h
  · split at h <;> cases h <;> rfl

/-- **What is looked up is visited from then on**, and nothing else is. -/
theorem Round.visited_eq (h : Round env w w') :
    w'.visited = w.lookedUp?.toList ++ w.visited := by
  obtain ⟨name, rest, hp, ⟨old, hvis, -⟩ | ⟨new, hvis, -⟩⟩ := h.cases
  · have passed : w.lookedUp? = none := by
      simp [lookedUp?, hp, Option.filter, old]
    rw [hvis, passed]
    rfl
  · have taken : w.lookedUp? = some name := by
      simp [lookedUp?, hp, Option.filter, new]
    rw [hvis, taken]
    rfl

/-- Rounds are counted. -/
theorem rounds_run_eq (env : Environment) (w : Walk) :
    (run env w).rounds = w.rounds + (trail env w).length := by
  fun_induction run env w with
  | case1 w ended => rw [trail_of_none ended, List.length_nil, Nat.add_zero]
  | case2 w w' next ih =>
    rw [ih, Round.rounds_eq next, Round.trail_eq next, List.length_cons]
    omega

/-- The names visited in the end are those that were looked up, and those visited before. -/
theorem visited_run_eq (env : Environment) (w : Walk) :
    (run env w).visited = (lookups env w).reverse ++ w.visited := by
  fun_induction run env w with
  | case1 w ended => rw [lookups, trail_of_none ended]; rfl
  | case2 w w' next ih =>
    rw [ih, Round.visited_eq next, lookups, lookups, Round.trail_eq next, List.filterMap_cons]
    cases w.lookedUp? <;> simp

/-! ## What the rounds cost -/

/-- **The pending names are paid for** by the references of the visited ones, but for the start. -/
def IsPaid (env : Environment) (w : Walk) : Prop :=
  w.rounds + w.pending.length ≤ 1 + (w.visited.map fun name => (referencesOf env name).length).sum

theorem Round.isPaid (h : Round env w w') (paid : IsPaid env w) : IsPaid env w' := by
  have counted := h.rounds_eq
  obtain ⟨name, rest, hp, ⟨-, hvis, hpen⟩ | ⟨-, hvis, hpen⟩⟩ := h.cases
  · rw [IsPaid, hp, List.length_cons] at paid
    rw [IsPaid, hvis, hpen]
    omega
  · have fewer := List.length_filter_le (fun r => !(name :: w.visited).contains r)
      (referencesOf env name)
    rw [IsPaid, hp, List.length_cons] at paid
    rw [IsPaid, hvis, hpen, List.map_cons, List.sum_cons, List.length_append, List.length_reverse]
    omega

theorem isPaid_ofStart (env : Environment) (start : String) : IsPaid env (ofStart env start) :=
  run_induction (fun next paid => next.isPaid paid) (Nat.le_refl 1)

/-- Names have the references of the declarations that they lead to. -/
theorem sum_referencesOf (env : Environment) (names : List String) :
    (names.map fun name => (referencesOf env name).length).sum =
      ((names.filterMap env.lookup).map fun d => d.references.length).sum := by
  induction names with
  | nil => rfl
  | cons name names ih =>
    rw [List.map_cons, List.sum_cons, ih, List.filterMap_cons, referencesOf]
    cases env.lookup name with
    | none => exact Nat.zero_add _
    | some d => rw [List.map_cons, List.sum_cons]

/-- Distinct names lead to distinct declarations. -/
theorem nodup_filterMap_lookup {names : List String} (once : names.Nodup) :
    (names.filterMap env.lookup).Nodup :=
  once.filterMap fun _ _ _ found found' =>
    (Environment.name_of_lookup found).symm.trans (Environment.name_of_lookup found')

open Classical in
/-- The declarations that are reachable, in order. -/
noncomputable def reachableDeclarations (env : Environment) (start : String) : List Declaration :=
  env.declarations.filter fun d => decide (Reachable env start d.name)

open Classical in
/-- **The visited names have no more references than the reachable declarations.** -/
theorem Covers.sum_le (hc : Covers env start w) :
    (w.visited.map fun name => (referencesOf env name).length).sum ≤
      ((reachableDeclarations env start).map fun d => d.references.length).sum := by
  have among : w.visited.filterMap env.lookup ⊆ reachableDeclarations env start := by
    intro d there
    obtain ⟨name, visited, found⟩ := List.mem_filterMap.1 there
    obtain rfl := Environment.name_of_lookup found
    exact List.mem_filter.2
      ⟨Environment.mem_of_lookup found, decide_eq_true (hc.reachable _ (Or.inl visited))⟩
  obtain ⟨some_of, perm, sub⟩ := (nodup_filterMap_lookup hc.nodup).subperm among
  rw [sum_referencesOf, ← (perm.map _).sum_eq]
  exact (sub.map _).sum_le_sum fun _ _ => Nat.zero_le _

/-! ## The whole walk -/

/-- **Each reachable name is looked up once, and no other name is.**  Rounds lead from the start
name to a walk without a further round, and there are no more of them than references of the
reachable declarations, and one. -/
theorem expands_once (env : Environment) (start : String) :
    let rounds := trail env { pending := [start] }
    let names := lookups env { pending := [start] }
    (rounds ++ [ofStart env start]).head? = some { pending := [start] } ∧
      (rounds ++ [ofStart env start]).IsChain (Round env) ∧
      step env (ofStart env start) = none ∧
      (names.Nodup ∧ ∀ name, name ∈ names ↔ Reachable env start name) ∧
      rounds.length = (ofStart env start).rounds ∧
      rounds.length ≤
        1 + ((reachableDeclarations env start).map fun d => d.references.length).sum := by
  intro rounds names
  have visited : (ofStart env start).visited = names.reverse :=
    (visited_run_eq env _).trans (List.append_nil _)
  have counted : (ofStart env start).rounds = rounds.length :=
    (rounds_run_eq env _).trans (Nat.zero_add _)
  have covers := covers_ofStart env start
  refine ⟨head?_trail_append env _, isChain_trail_append env _, step_run env _,
    ⟨?_, fun name => ?_⟩, counted.symm, ?_⟩
  · exact List.nodup_reverse.1 (visited ▸ covers.nodup)
  · rw [← mem_visited_ofStart_iff, visited, List.mem_reverse]
  · have paid := isPaid_ofStart env start
    rw [IsPaid, pending_ofStart, List.length_nil, counted] at paid
    exact paid.trans (Nat.add_le_add_left covers.sum_le 1)

end Walk

end ProofGrading
