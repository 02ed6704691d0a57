import ProofGrading.Environment

/-!
# AxiomClosure — the axioms that a declaration rests on

A walk follows references from a start name.  Every name is expanded at most once: the names still
pending and the references of what is not yet visited only shrink (`Walk.potential`), so the walk
ends on every graph, cycles and dangling names included.  `Reachable` says without the walk which
names there are to find.
-/

namespace ProofGrading

/-- **A name is reachable** from itself, and from any name whose declaration leads to it. -/
inductive Reachable (env : Environment) (start : String) : String → Prop where
  | start : Reachable env start start
  | step {name next : String} {d : Declaration} (h : Reachable env start name)
      (declared : env.lookup name = some d) (refers : next ∈ d.references) :
      Reachable env start next

/-- A walk along references: the names visited, last one first; the names pending, next one first;
and how many names were taken up so far. -/
structure Walk where
  visited : List String := []
  pending : List String
  rounds : Nat := 0

namespace Walk

/-- How many references the declarations hold whose names are not visited. -/
def countUnvisited (visited : List String) : List Declaration → Nat
  | [] => 0
  | d :: rest =>
    (if visited.contains d.name then 0 else d.references.length) + countUnvisited visited rest

/-- How many references of an environment no walk with these names visited has followed. -/
def unexpanded (env : Environment) (visited : List String) : Nat :=
  countUnvisited visited env.declarations

/-- What a walk has still to do, counted in names. -/
def potential (env : Environment) (w : Walk) : Nat :=
  unexpanded env w.visited + w.pending.length

/-- The references of a name, if it is declared. -/
def referencesOf (env : Environment) (name : String) : List String :=
  match env.lookup name with
  | some d => d.references
  | none => []

/-- Visiting more names leaves no more references. -/
theorem countUnvisited_cons_le (visited : List String) (name : String) (ds : List Declaration) :
    countUnvisited (name :: visited) ds ≤ countUnvisited visited ds := by
  induction ds with
  | nil => exact Nat.le_refl _
  | cons d rest ih =>
    by_cases hv : visited.contains d.name = true
    · have : (name :: visited).contains d.name = true := by
        simp only [List.contains_cons, hv, Bool.or_true]
      simpa only [countUnvisited, this, hv, if_true, Nat.zero_add] using ih
    · simp only [countUnvisited, hv, if_false, Bool.false_eq_true]
      split <;> omega

/-- Visiting a declared name takes its references out of the count. -/
theorem countUnvisited_cons_add_le {visited : List String} {d : Declaration}
    (hnew : visited.contains d.name = false) {ds : List Declaration} (hmem : d ∈ ds) :
    countUnvisited (d.name :: visited) ds + d.references.length ≤ countUnvisited visited ds := by
  induction ds with
  | nil => cases hmem
  | cons e rest ih =>
    have hrest := countUnvisited_cons_le visited d.name rest
    rcases List.mem_cons.1 hmem with rfl | h
    · have hself : (d.name :: visited).contains d.name = true := by simp
      simp only [countUnvisited, hself, hnew, if_true, if_false, Bool.false_eq_true]
      omega
    · have := ih h
      by_cases hv : visited.contains e.name = true
      · have : (d.name :: visited).contains e.name = true := by
          simp only [List.contains_cons, hv, Bool.or_true]
        simp only [countUnvisited, this, hv, if_true]
        omega
      · simp only [countUnvisited, hv, if_false, Bool.false_eq_true]
        split <;> omega

/-- **Expanding a name pays for the references it adds.** -/
theorem unexpanded_cons_add_le (env : Environment) {visited : List String} {name : String}
    (hnew : visited.contains name = false) :
    unexpanded env (name :: visited) + (referencesOf env name).length ≤
      unexpanded env visited := by
  unfold referencesOf
  cases hl : env.lookup name with
  | none => exact countUnvisited_cons_le visited name env.declarations
  | some d =>
    have hname := Environment.name_of_lookup hl
    subst hname
    exact countUnvisited_cons_add_le hnew (Environment.mem_of_lookup hl)

/-- **One round of a walk**: the next pending name is taken up and, unless it was visited before, it
is visited and those of its references that were not are pending before all others, the last one
first.  Without a pending name there is no round. -/
def step (env : Environment) (w : Walk) : Option Walk :=
  match w.pending with
  | [] => none
  | name :: rest =>
    if w.visited.contains name then
      some { visited := w.visited, pending := rest, rounds := w.rounds + 1 }
    else
      let visited := name :: w.visited
      some
        { visited
          pending :=
            ((referencesOf env name).filter fun r => !visited.contains r).reverse ++ rest
          rounds := w.rounds + 1 }

/-- Every round leaves less to do. -/
theorem potential_lt_of_step {env : Environment} {w w' : Walk} (h : step env w = some w') :
    w'.potential env < w.potential env := by
  unfold step at h
  split at h
  · cases h
  · next name rest hp =>
    split at h
    · cases h
      simp only [potential, hp, List.length_cons]
      omega
    · next hv =>
      cases h
      have hpay := unexpanded_cons_add_le env (by simpa using hv : w.visited.contains name = false)
      have hfilter := List.length_filter_le (fun r => !(name :: w.visited).contains r)
        (referencesOf env name)
      simp only [potential, hp, List.length_cons, List.length_append, List.length_reverse]
      omega

/-- Walks on until no name is pending. -/
def run (env : Environment) (w : Walk) : Walk :=
  match _h : step env w with
  | none => w
  | some w' => run env w'
termination_by w.potential env
decreasing_by exact potential_lt_of_step _h

/-- The whole walk from a name. -/
def ofStart (env : Environment) (start : String) : Walk := run env { pending := [start] }

end Walk

/-- Whether a name is declared as an axiom. -/
def Environment.declaresAxiom (env : Environment) (name : String) : Bool :=
  match env.lookup name with
  | some d => d.isAxiom
  | none => false

/-- **The axioms reachable from a declaration.** -/
def collectAxioms (env : Environment) (start : String) : List String :=
  (Walk.ofStart env start).visited.filter env.declaresAxiom

/-- Names in increasing order, by code points. -/
def sortNames (names : List String) : List String := names.mergeSort fun a b => decide (a ≤ b)

/-- A list of accepted axioms and a way to find those of a declaration. -/
structure AxiomPolicy where
  accepted : List String
  closure : Environment → String → List String := collectAxioms

/-- The axioms accepted for credit. -/
def standardAxioms : List String := ["propext", "Quot.sound", "Classical.choice"]

namespace AxiomPolicy

/-- The axioms that a declaration rests on and that are not accepted. -/
def unexpected (p : AxiomPolicy) (env : Environment) (name : String) : List String :=
  (p.closure env name).filter fun a => !p.accepted.contains a

/-- Whether a declaration rests on accepted axioms only. -/
def accepts (p : AxiomPolicy) (env : Environment) (name : String) : Bool :=
  (p.unexpected env name).isEmpty

end AxiomPolicy

end ProofGrading
