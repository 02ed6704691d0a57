import ProofGrading.Declaration

/-!
# Environment — the declarations of a compiled sheet

An environment keeps its declarations in the order in which their names first occurred, and of two
declarations with one name the later one.  Main statements: names are distinct
(`Declaration.nodup_names_index`), a declaration that was put is found under its name and no other
name is touched (`Declaration.find?_put`, `Environment.lookup_replace`), and what is found has the
name that was asked for (`Environment.name_of_lookup`).
-/

namespace ProofGrading

namespace Declaration

/-- The names of some declarations. -/
def names (ds : List Declaration) : List String := ds.map (·.name)

/-- Puts a declaration at its name's place, or at the end if the name is new. -/
def put (ds : List Declaration) (d : Declaration) : List Declaration :=
  match ds with
  | [] => [d]
  | e :: rest => if e.name = d.name then d :: rest else e :: put rest d

/-- The declarations of a list, the last one of each name at the first one's place. -/
def index (ds : List Declaration) : List Declaration := ds.foldl put []

/-- The names after `put`: a new name comes last, a known one changes nothing. -/
theorem names_put (ds : List Declaration) (d : Declaration) :
    names (put ds d) = if d.name ∈ names ds then names ds else names ds ++ [d.name] := by
  induction ds with
  | nil => simp [put, names]
  | cons e rest ih =>
    by_cases h : e.name = d.name
    · simp [put, names, h]
    · simp only [put, h, if_false]
      simp only [names, List.map_cons] at ih ⊢
      rw [ih]
      by_cases hm : d.name ∈ rest.map (·.name)
      · simp [hm]
      · simp [hm, Ne.symm h]

/-- **Names stay distinct.** -/
theorem nodup_names_put {ds : List Declaration} (h : (names ds).Nodup) (d : Declaration) :
    (names (put ds d)).Nodup := by
  rw [names_put]
  split
  · exact h
  · next hn =>
    exact List.nodup_append.2 ⟨h, by simp, fun a ha b hb => by
      rintro rfl
      exact hn (by simpa using List.mem_singleton.1 hb ▸ ha)⟩

/-- Nothing is there after `put` but the declaration and what was there. -/
theorem mem_of_mem_put {ds : List Declaration} {d e : Declaration} (h : e ∈ put ds d) :
    e = d ∨ e ∈ ds := by
  induction ds with
  | nil => exact .inl (List.mem_singleton.1 h)
  | cons first rest ih =>
    rw [put] at h
    split at h
    · exact (List.mem_cons.1 h).imp_right (List.mem_cons_of_mem _)
    · rcases List.mem_cons.1 h with rfl | h
      · exact .inr (List.mem_cons_self ..)
      · exact (ih h).imp_right (List.mem_cons_of_mem _)

/-- The names of an indexed list are distinct. -/
theorem nodup_names_index (ds : List Declaration) : (names (index ds)).Nodup := by
  have go : ∀ (ds acc : List Declaration), (names acc).Nodup →
      (names (ds.foldl put acc)).Nodup := by
    intro ds
    induction ds with
    | nil => exact fun _ h => h
    | cons d rest ih => exact fun acc h => ih _ (nodup_names_put h d)
  exact go ds [] (by simp [names])

/-- An index holds nothing new. -/
theorem mem_of_mem_index {ds : List Declaration} {d : Declaration} (h : d ∈ index ds) : d ∈ ds := by
  have go : ∀ (ds acc : List Declaration), d ∈ ds.foldl put acc → d ∈ acc ∨ d ∈ ds := by
    intro ds
    induction ds with
    | nil => exact fun _ h => .inl h
    | cons first rest ih =>
      intro acc h
      rcases ih _ h with h | h
      · rcases mem_of_mem_put h with rfl | h
        · exact .inr (List.mem_cons_self ..)
        · exact .inl h
      · exact .inr (List.mem_cons_of_mem _ h)
  exact (go ds [] h).resolve_left List.not_mem_nil

/-- The declaration called `name`. -/
def find? (ds : List Declaration) (name : String) : Option Declaration :=
  ds.find? (·.name == name)

/-- What is found has the name that was asked for. -/
theorem name_of_find? {ds : List Declaration} {name : String} {d : Declaration}
    (h : find? ds name = some d) : d.name = name := by
  simpa using List.find?_some h

/-- What is found is there. -/
theorem mem_of_find? {ds : List Declaration} {name : String} {d : Declaration}
    (h : find? ds name = some d) : d ∈ ds := List.mem_of_find?_eq_some h

/-- **After `put` the name leads to the declaration, all others lead where they did.** -/
theorem find?_put (ds : List Declaration) (d : Declaration) (name : String) :
    find? (put ds d) name = if d.name = name then some d else find? ds name := by
  induction ds with
  | nil =>
    by_cases h : d.name = name <;> simp [put, find?, h]
  | cons e rest ih =>
    by_cases h : e.name = d.name
    · by_cases h' : d.name = name <;> simp [put, find?, h, h']
    · simp only [put, h, if_false]
      by_cases he : e.name = name
      · have hne : d.name ≠ name := fun hd => h (he.trans hd.symm)
        simp [find?, he, hne]
      · have := ih
        simp only [find?] at this ⊢
        simp [he, this]

/-- A new name comes last. -/
theorem put_of_notMem {ds : List Declaration} {d : Declaration} (h : d.name ∉ names ds) :
    put ds d = ds ++ [d] := by
  induction ds with
  | nil => rfl
  | cons e rest ih =>
    have hne : e.name ≠ d.name := fun he => h (he ▸ List.mem_cons_self ..)
    rw [put, if_neg hne, ih fun hm => h (List.mem_cons_of_mem _ hm), List.cons_append]

/-- **Declarations of distinct names are indexed as they stand.** -/
theorem index_of_nodup {ds : List Declaration} (h : (names ds).Nodup) : index ds = ds := by
  have go : ∀ (ds acc : List Declaration), (names (acc ++ ds)).Nodup →
      ds.foldl put acc = acc ++ ds := by
    intro ds
    induction ds with
    | nil => exact fun acc _ => (List.append_nil acc).symm
    | cons d rest ih =>
      intro acc hn
      have new : d.name ∉ names acc := by
        rw [names, List.map_append, List.map_cons] at hn
        exact fun hm => (List.nodup_append.1 hn).2.2 _ hm _ (List.mem_cons_self ..) rfl
      rw [List.append_cons] at hn
      rw [List.foldl_cons, put_of_notMem new, ih _ hn, List.append_assoc, List.singleton_append]
  exact go ds [] h

end Declaration

/-- Whether an environment came from a successful build. -/
inductive EnvironmentKind where
  | compiled
  | degraded
  deriving DecidableEq, Repr, Inhabited

/-- The name of a kind of environment. -/
def EnvironmentKind.label : EnvironmentKind → String
  | compiled => "compiled"
  | degraded => "degraded"

/-- The declarations visible from a main module, and the modules loaded for it.  No two declarations
share a name. -/
structure Environment where
  kind : EnvironmentKind := .compiled
  mainModule : String
  modules : List String := []
  declarations : List Declaration := []
  distinct : (Declaration.names declarations).Nodup

namespace Environment

/-- The environment of some declarations, in the order in which their names first occur. -/
def ofList (kind : EnvironmentKind) (mainModule : String) (modules : List String)
    (declarations : List Declaration) : Environment where
  kind := kind
  mainModule := mainModule
  modules := modules
  declarations := Declaration.index declarations
  distinct := Declaration.nodup_names_index declarations

/-- The homes of some declarations that are not yet among `seen`, each once, in order. -/
def homesAfter (seen : List String) : List Declaration → List String
  | [] => seen
  | d :: rest =>
    match d.home with
    | none => homesAfter seen rest
    | some h => if h.isEmpty || seen.contains h then homesAfter seen rest
      else homesAfter (seen ++ [h]) rest

/-- The main module and the homes of the declarations, each once, in order of first occurrence. -/
def seenModules (mainModule : String) (declarations : List Declaration) : List String :=
  homesAfter [mainModule] declarations

/-- Whether the environment stands in for a sheet that failed to build. -/
def isDegraded (env : Environment) : Bool := env.kind == .degraded

/-- The declaration called `name`. -/
def lookup (env : Environment) (name : String) : Option Declaration :=
  Declaration.find? env.declarations name

/-- Whether a module was loaded. -/
def hasModule (env : Environment) (name : String) : Bool := env.modules.contains name

/-- The declarations defined in a module, in order. -/
def declarationsOf (env : Environment) (home : String) : List Declaration :=
  env.declarations.filter (·.home == some home)

/-- The points that come with the declarations, by name. -/
def pointTable (env : Environment) : List (String × Float) :=
  env.declarations.filterMap fun d => d.points.map (d.name, ·)

/-- Dropping declarations keeps names distinct. -/
theorem nodup_names_filter {ds : List Declaration} (p : Declaration → Bool)
    (h : (Declaration.names ds).Nodup) : (Declaration.names (ds.filter p)).Nodup :=
  h.sublist ((List.filter_sublist (p := p)).map _)

/-- **What is left of an environment when its main module fails to build**: the other modules and
their declarations. -/
def degraded (env : Environment) : Environment where
  kind := .degraded
  mainModule := env.mainModule
  modules := env.modules.filter (· != env.mainModule)
  declarations := env.declarations.filter (·.home != some env.mainModule)
  distinct := nodup_names_filter _ env.distinct

/-- The environment with one declaration put at its name's place or at the end; without `modules`
they are gathered anew. -/
def replace (env : Environment) (d : Declaration) (modules : Option (List String)) : Environment :=
  let ds := Declaration.put env.declarations d
  ofList env.kind env.mainModule (modules.getD (seenModules env.mainModule ds)) ds

/-- The environment without the declaration called `name`. -/
def remove (env : Environment) (name : String) (modules : Option (List String)) : Environment :=
  let ds := env.declarations.filter (·.name != name)
  ofList env.kind env.mainModule (modules.getD (seenModules env.mainModule ds)) ds

/-- What is found has the name that was asked for. -/
theorem name_of_lookup {env : Environment} {name : String} {d : Declaration}
    (h : env.lookup name = some d) : d.name = name := Declaration.name_of_find? h

/-- What is found is declared. -/
theorem mem_of_lookup {env : Environment} {name : String} {d : Declaration}
    (h : env.lookup name = some d) : d ∈ env.declarations := Declaration.mem_of_find? h

/-- What is declared is found. -/
theorem lookup_isSome_of_mem {env : Environment} {d : Declaration} (h : d ∈ env.declarations) :
    (env.lookup d.name).isSome := List.find?_isSome.2 ⟨d, h, beq_self_eq_true _⟩

/-- **After `replace` the name leads to the declaration, all others lead where they did.** -/
theorem lookup_replace (env : Environment) (d : Declaration) (modules : Option (List String))
    (name : String) :
    (env.replace d modules).lookup name = if d.name = name then some d else env.lookup name := by
  change Declaration.find? (Declaration.index (Declaration.put env.declarations d)) name = _
  rw [Declaration.index_of_nodup (Declaration.nodup_names_put env.distinct d),
    Declaration.find?_put]
  rfl

/-- **After `remove` the name leads nowhere, all others lead where they did.** -/
theorem lookup_remove (env : Environment) (removed : String) (modules : Option (List String))
    (name : String) :
    (env.remove removed modules).lookup name =
      if removed = name then none else env.lookup name := by
  change Declaration.find?
    (Declaration.index (env.declarations.filter (·.name != removed))) name = _
  rw [Declaration.index_of_nodup (nodup_names_filter _ env.distinct), Declaration.find?,
    List.find?_filter]
  split
  · next h =>
    subst h
    simp
  · next h =>
    refine congrArg (fun p => env.declarations.find? p) (funext fun d => ?_)
    by_cases hd : d.name = name
    · simp [hd, Ne.symm h]
    · simp [hd]

end Environment

end ProofGrading
