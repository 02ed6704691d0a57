import ProofGrading.Exercise
import ProofGrading.Proofs.Indexing

/-!
# Proofs/ExportedSheet — the exercises of a sheet that was exported

An environment that was read from an export is **priced**: no points in it are negative
(`Export.priced_of_environment`).  In a priced environment the exercises of every module that was
loaded are listed (`IsPriced.exercises_cases`), and each is a declaration of that module
(`IsPriced.exists_of_listed`); so none of those of the main module is left once the environment is
degraded (`Environment.lookup_degraded_eq_none`).
-/

namespace ProofGrading

variable {env : Environment} {d : Declaration}

/-- **Nothing of the main module is left in a degraded environment.** -/
theorem Environment.lookup_degraded_eq_none (h : d ∈ env.declarations)
    (home : d.home = some env.mainModule) : env.degraded.lookup d.name = none := by
  refine Option.eq_none_iff_forall_ne_some.2 fun e found => ?_
  obtain ⟨there, elsewhere⟩ := lookup_degraded_eq_some_iff.1 found
  obtain rfl : d = e := eq_of_name_eq h (mem_of_lookup there) (name_of_lookup there).symm
  exact elsewhere home

/-! ## The points of an exported sheet -/

/-- **An environment without negative points.** -/
def Environment.IsPriced (env : Environment) : Prop :=
  ∀ d ∈ env.declarations, ∀ p, d.points = some p → 0.0 ≤ p

theorem Field.exists_of_nullable {α : Type} {fields : List (String × Json)} {key : String}
    {read : Scalar → Except Misfit α} {a : α}
    (h : nullable fields key read = .valid (some a)) : ∃ v, read v = .ok a := by
  unfold nullable at h
  split at h
  · cases h
  · cases h
  · next v _ _ =>
    unfold placed at h
    split at h
    · next there =>
      cases h
      obtain ⟨b, read, ⟨⟩⟩ := exists_of_map_eq_ok there
      exact ⟨v.scalar, read⟩
    · cases h

/-- **The points of a declaration that was read are not negative.** -/
theorem Declaration.points_of_ofFields {fields : List (String × Json)} (h : ofFields fields = .ok d)
    {p : Float} (hp : d.points = some p) : 0.0 ≤ p := by
  unfold ofFields at h
  simp only [Checked.toExcept_eq_ok_iff, Checked.seq_eq_valid_iff, Checked.map_eq_valid_iff] at h
  -- the fields are nested from the last one inwards; only the points are looked at
  obtain ⟨_, _, ⟨_, _, ⟨_, _, ⟨_, _, ⟨_, _, ⟨_, _, ⟨_, _, ⟨name, -, rfl⟩, -, rfl⟩, -, rfl⟩, -, rfl⟩,
    -, rfl⟩, -, rfl⟩, points, rfl⟩, -, rfl⟩ := h
  obtain rfl : _ = some p := hp
  obtain ⟨v, read⟩ := Field.exists_of_nullable points
  exact Scalar.nonNegative_of_ok read

/-- **What was read is priced.** -/
theorem Export.priced_of_environment {data : Json} (h : environment data = .ok env) :
    env.IsPriced := by
  obtain ⟨_, _, _, ds, -, described, rfl⟩ := exists_of_environment h
  intro d hd p hp
  obtain ⟨entry, read⟩ := described.exists_entry (Declaration.mem_of_mem_index hd)
  cases entry with
  | obj fields => exact Declaration.points_of_ofFields (eq_ok_of_mapError read) hp
  | _ => cases read

/-! ## What is asked for -/

/-- **What a sheet asks for**: a declaration of the module that is worth points and that its author
wrote, which neither the exporter nor its name denies. -/
def Declaration.IsAsked (home : String) (d : Declaration) : Prop :=
  d.home = some home ∧ d.points.isSome ∧ d.internal = false ∧
    ∀ part ∈ Text.splitOn '.' d.name.toList, part.head? ≠ some '_'

instance (home : String) : DecidablePred (Declaration.IsAsked home) := fun _ =>
  inferInstanceAs (Decidable (_ ∧ _ ∧ _ ∧ ∀ _ ∈ _, _))

theorem Declaration.isAsked_iff {home : String} :
    d.IsAsked home ↔ d.home = some home ∧ d.points.isSome ∧ d.isInternal = false := by
  simp [IsAsked, isInternal, isInternalName, List.any_eq_false]

namespace Environment

variable {home : String}

/-- What a module asks for, in order. -/
def asked (env : Environment) (home : String) : List Declaration :=
  env.declarations.filter (·.IsAsked home)

theorem mem_asked_iff : d ∈ env.asked home ↔ d ∈ env.declarations ∧ d.IsAsked home := by
  simp [asked]

/-- What a module asks for stands in the order of the environment. -/
theorem names_asked_sublist (env : Environment) (home : String) :
    (Declaration.names (env.asked home)).Sublist (Declaration.names env.declarations) :=
  List.filter_sublist.map _

/-- **The table of points leads from a name to the points of its declaration.** -/
theorem field?_exportedPoints (h : d ∈ env.declarations) :
    Json.field? env.exportedPoints d.name = d.points.map .float := by
  cases found : Json.field? env.exportedPoints d.name with
  | some points =>
    obtain ⟨⟨name, p⟩, listed, entry⟩ := List.mem_map.1 (Json.mem_of_field? found)
    obtain ⟨e, he, worth⟩ := List.mem_filterMap.1 listed
    obtain ⟨p', priced, same⟩ := Option.map_eq_some_iff.1 worth
    obtain ⟨rfl, rfl⟩ := Prod.mk.inj same
    obtain ⟨called, rfl⟩ := Prod.mk.inj entry
    obtain rfl : e = d := eq_of_name_eq he h called
    rw [priced]
    rfl
  | none =>
    cases worth : d.points with
    | none => rfl
    | some p =>
      have listed : (d.name, Json.float p) ∈ env.exportedPoints :=
        List.mem_map.2 ⟨(d.name, p), List.mem_filterMap.2 ⟨d, h, by rw [worth]; rfl⟩, rfl⟩
      have missed := List.find?_eq_none.1 (Option.map_eq_none_iff.1 found) _ listed
      exact absurd (beq_self_eq_true _) missed

/-- A declaration of the module is annotated just when it is asked for. -/
theorem annotation_eq (h : d ∈ env.declarations) :
    (if d.home == some home then
        if d.isInternal then none
        else (Json.field? env.exportedPoints d.name).map (d.name, ·)
      else none) =
      if d.IsAsked home then some (d.name, .float (d.points.getD 0.0)) else none := by
  simp only [field?_exportedPoints h, Declaration.isAsked_iff, beq_iff_eq]
  by_cases at_home : d.home = some home <;> cases d.points <;> cases d.isInternal <;>
    simp [at_home]

/-- **With its own points a module is asked for what it asks for.** -/
theorem annotated_exportedPoints (env : Environment) (home : String) :
    env.annotated home env.exportedPoints =
      (env.asked home).map fun d => (d.name, .float (d.points.getD 0.0)) := by
  rw [annotated, declarationsOf, asked, List.filterMap_filter, ← List.filterMap_eq_map,
    List.filterMap_filter]
  refine List.filterMap_congr fun d hd => ?_
  simpa using annotation_eq hd

end Environment

/-! ## Its exercises -/

/-- Points that are not negative make an exercise. -/
theorem Exercise.ofPoints_float {p : Float} (h : 0.0 ≤ p) (name : String) :
    ofPoints name (.float p) = .ok ⟨name, p⟩ := by
  have read : (Json.float p).scalar.nonNegative = .ok p := if_pos h
  have points : Field.required [("name", .str name), ("points", .float p)] "points"
      Scalar.nonNegative = .valid p := by
    change Field.placed ["points"] (Json.float p).scalar.nonNegative = _
    rw [read]
    rfl
  rw [ofPoints, ofFields, points]
  rfl

namespace Environment

variable {home : String}

/-- Declarations with points that are not negative are read as exercises, one after the other. -/
theorem readExercises_floats {ds : List Declaration}
    (h : ∀ d ∈ ds, ∃ p, d.points = some p ∧ 0.0 ≤ p) :
    ∃ es, readExercises (ds.map fun d => (d.name, .float (d.points.getD 0.0))) = .ok es ∧
      List.Forall₂ (fun d e => d.name = e.name ∧ d.points = some e.points) ds es := by
  induction ds with
  | nil => exact ⟨[], rfl, .nil⟩
  | cons d rest ih =>
    obtain ⟨p, worth, positive⟩ := h _ (List.mem_cons_self ..)
    obtain ⟨es, read, each⟩ := ih fun d among => h d (List.mem_cons_of_mem _ among)
    refine ⟨⟨d.name, p⟩ :: es, ?_, .cons ⟨rfl, worth⟩ each⟩
    rw [List.map_cons, readExercises, worth, Option.getD_some, Exercise.ofPoints_float positive,
      read]
    rfl

/-- **The exercises of a module** of a priced environment are listed just when it was loaded: one
for each declaration that is asked for. -/
theorem IsPriced.exercises_cases (priced : env.IsPriced) (home : String) :
    (env.hasModule home = false ∧ env.exercises home none = .error (.unknownModule home)) ∨
      env.hasModule home = true ∧ ∃ es, env.exercises home none = .ok es ∧
        List.Forall₂ (fun d e => d.name = e.name ∧ d.points = some e.points)
          (env.asked home) es := by
  unfold exercises
  cases loaded : env.hasModule home with
  | false => exact .inl ⟨rfl, rfl⟩
  | true =>
    have worth : ∀ d ∈ env.asked home, ∃ p, d.points = some p ∧ 0.0 ≤ p := fun d among => by
      obtain ⟨declared, -, worth, -⟩ := mem_asked_iff.1 among
      obtain ⟨p, worth⟩ := Option.isSome_iff_exists.1 worth
      exact ⟨p, worth, priced d declared p worth⟩
    obtain ⟨es, read, each⟩ := readExercises_floats worth
    refine .inr ⟨rfl, es, ?_, each⟩
    rw [if_pos rfl, Option.getD_none, annotated_exportedPoints, read]

/-- **Exercises that are listed are those that the module asks for**, and it was loaded. -/
theorem IsPriced.asked_of_listed (priced : env.IsPriced) {es : List Exercise}
    (listed : env.exercises home none = .ok es) : env.hasModule home = true ∧
      List.Forall₂ (fun d e => d.name = e.name ∧ d.points = some e.points) (env.asked home) es := by
  obtain ⟨-, refused⟩ | ⟨loaded, es', listed', each⟩ := priced.exercises_cases home
  · cases listed.symm.trans refused
  · obtain rfl := Except.ok.inj (listed.symm.trans listed')
    exact ⟨loaded, each⟩

/-- **An exercise that is listed is declared in the module, with its points.** -/
theorem IsPriced.points_of_listed (priced : env.IsPriced) {es : List Exercise}
    (listed : env.exercises home none = .ok es) {e : Exercise} (he : e ∈ es) :
    ∃ d ∈ env.declarations, d.home = some home ∧ d.name = e.name ∧ d.points = some e.points := by
  obtain ⟨d, among, called, worth⟩ := exists_of_forall₂ (priced.asked_of_listed listed).2 he
  obtain ⟨declared, at_home, -⟩ := mem_asked_iff.1 among
  exact ⟨d, declared, at_home, called, worth⟩

/-- **An exercise that is listed is declared in the module.** -/
theorem IsPriced.exists_of_listed (priced : env.IsPriced) {es : List Exercise}
    (listed : env.exercises home none = .ok es) {e : Exercise} (he : e ∈ es) :
    ∃ d ∈ env.declarations, d.home = some home ∧ d.name = e.name := by
  obtain ⟨d, declared, at_home, called, -⟩ := priced.points_of_listed listed he
  exact ⟨d, declared, at_home, called⟩

end Environment

end ProofGrading
