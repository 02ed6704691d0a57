import Mathlib.Data.List.Nodup
import Mathlib.Data.List.Forall2
import ProofGrading.Export
import ProofGrading.Proofs.Endings

/-!
# Proofs/Indexing — what is kept of an export

An export may list one name several times.  Its environment keeps each name once, where it occurred
first (`Declaration.names_index`), and under the name the declaration that came last
(`Declaration.find?_index`); the modules that go with the declarations are gathered from all of
them, also from those that are replaced later (`Environment.homesAfter_eq`).

`Export.exists_of_environment` says what an export must hold to be read, and which environment it is
then; `Export.environment_isIndexed` puts the three together.
-/

namespace ProofGrading

variable {env : Environment} {d : Declaration}

/-! ## Each item once -/

section FirstOccurrences

variable {α : Type} [BEq α] [LawfulBEq α] {seen rest : List α} {a : α}

/-- An item that was seen is not kept again. -/
theorem eraseDups_append_cons_of_mem (h : a ∈ seen) :
    (seen ++ a :: rest).eraseDups = (seen ++ rest).eraseDups := by
  simp [List.eraseDups_append, List.removeAll, h]

/-- A new item is kept after those that were seen. -/
theorem eraseDups_append_singleton (h : a ∉ seen) :
    (seen ++ [a]).eraseDups = seen.eraseDups ++ [a] := by
  simp [List.eraseDups_append, List.removeAll, List.eraseDups_cons, h]

/-- What is kept of each item is kept once. -/
theorem nodup_eraseDups (l : List α) : l.eraseDups.Nodup := by
  -- by length: the tail is filtered before its items are kept once
  induction hn : l.length using Nat.strongRecOn generalizing l with
  | ind n ih =>
    cases l with
    | nil => exact List.nodup_nil
    | cons a rest =>
      have shorter : (rest.filter fun b => !b == a).length < n :=
        hn ▸ Nat.lt_succ_of_le (List.length_filter_le _ rest)
      rw [List.eraseDups_cons]
      refine List.nodup_cons.2 ⟨fun again => ?_, ih _ shorter _ rfl⟩
      simpa using (List.mem_filter.1 (List.mem_eraseDups.1 again)).2

end FirstOccurrences

/-- What stands in a list stands for something in a list that it goes with. -/
theorem exists_of_forall₂ {α β : Type} {R : α → β → Prop} {xs : List α} {ys : List β}
    (each : List.Forall₂ R xs ys) {y : β} (among : y ∈ ys) : ∃ x ∈ xs, R x y := by
  induction each with
  | nil => cases among
  | cons head _ ih =>
    obtain rfl | among := List.mem_cons.1 among
    · exact ⟨_, List.mem_cons_self, head⟩
    · obtain ⟨x, hx, related⟩ := ih among
      exact ⟨x, List.mem_cons_of_mem _ hx, related⟩

namespace Declaration

/-- Indexing one declaration after the other keeps the names in the order of first occurrence. -/
theorem names_foldl_put {acc : List Declaration} (once : (names acc).eraseDups = names acc)
    (ds : List Declaration) :
    names (ds.foldl put acc) = (names acc ++ names ds).eraseDups := by
  induction ds generalizing acc with
  | nil =>
    rw [List.foldl_nil, names, names, List.map_nil, List.append_nil]
    exact once.symm
  | cons d rest ih =>
    have put := names_put acc d
    rw [List.foldl_cons]
    split at put
    · next known =>
      rw [ih (put ▸ once), put]
      exact (eraseDups_append_cons_of_mem known).symm
    · next new =>
      rw [ih (by rw [put, eraseDups_append_singleton new, once]), put, List.append_assoc]
      rfl

/-- **An index holds each name once**, in the order of first occurrence. -/
theorem names_index (ds : List Declaration) : names (index ds) = (names ds).eraseDups :=
  have once : (names []).eraseDups = names [] := rfl
  names_foldl_put once ds

/-- Indexing one declaration after the other keeps the last one of each name. -/
theorem find?_foldl_put (ds acc : List Declaration) (name : String) :
    find? (ds.foldl put acc) name =
      (ds.filter (·.name == name)).getLast?.or (find? acc name) := by
  induction ds generalizing acc with
  | nil => rfl
  | cons d rest ih =>
    rw [List.foldl_cons, ih, find?_put]
    by_cases h : d.name = name
    · simp only [h, if_true, List.filter_cons, beq_self_eq_true, List.getLast?_cons]
      cases (rest.filter (·.name == name)).getLast? <;> rfl
    · simp [h]

/-- **A name leads to the last declaration called so.** -/
theorem find?_index (ds : List Declaration) (name : String) :
    find? (index ds) name = (ds.filter (·.name == name)).getLast? := by
  rw [index, find?_foldl_put]
  exact Option.or_none

/-- The homes that some declarations have, as often as they have them; an empty one is none. -/
def homes (ds : List Declaration) : List String :=
  (ds.filterMap (·.home)).filter fun home => !home.isEmpty

end Declaration

namespace Environment

/-- **The homes of the declarations are gathered in the order of first occurrence**, after those
that were seen. -/
theorem homesAfter_eq {seen : List String} (once : seen.eraseDups = seen)
    (ds : List Declaration) :
    homesAfter seen ds = (seen ++ Declaration.homes ds).eraseDups := by
  induction ds generalizing seen with
  | nil => rw [homesAfter, Declaration.homes, List.filterMap_nil, List.filter_nil,
      List.append_nil, once]
  | cons d rest ih =>
    rw [homesAfter]
    split
    · next homeless =>
      rw [ih once, Declaration.homes, Declaration.homes, List.filterMap_cons_none homeless]
    · next home at_home =>
      rw [Declaration.homes, List.filterMap_cons_some at_home, List.filter_cons]
      cases blank : home.isEmpty with
      | true => exact ih once
      | false =>
        rw [Bool.false_or, if_pos Bool.not_false]
        split
        · next known =>
          rw [ih once, eraseDups_append_cons_of_mem (List.contains_iff_mem.1 known)]
          rfl
        · next new =>
          have new : home ∉ seen := fun known => new (List.contains_iff_mem.2 known)
          rw [ih (by rw [eraseDups_append_singleton new, once]), List.append_assoc]
          rfl

/-- The modules that go with some declarations are the main module and their homes, each once. -/
theorem seenModules_eq (main : String) (ds : List Declaration) :
    seenModules main ds = (main :: Declaration.homes ds).eraseDups :=
  homesAfter_eq rfl ds

/-! ## Names and declarations -/

/-- **A name leads to one declaration only.** -/
theorem eq_of_name_eq {e : Declaration} (hd : d ∈ env.declarations) (he : e ∈ env.declarations)
    (h : d.name = e.name) : d = e :=
  List.inj_on_of_nodup_map env.distinct hd he h

/-- **Names lead to the declarations**: each name to one, and to the one that is called so. -/
structure IsIndexed (env : Environment) : Prop where
  nodup_names : (Declaration.names env.declarations).Nodup
  lookup_eq_some_iff : ∀ name d, env.lookup name = some d ↔ d ∈ env.declarations ∧ d.name = name

/-- In every environment names lead to the declarations. -/
theorem isIndexed (env : Environment) : env.IsIndexed where
  nodup_names := env.distinct
  lookup_eq_some_iff name d := by
    constructor
    · exact fun found => ⟨mem_of_lookup found, name_of_lookup found⟩
    · rintro ⟨declared, rfl⟩
      obtain ⟨e, found⟩ := Option.isSome_iff_exists.1 (lookup_isSome_of_mem declared)
      rw [found, eq_of_name_eq (mem_of_lookup found) declared (name_of_lookup found)]

/-- **Nothing of the main module is left in a degraded environment.** -/
theorem lookup_degraded_eq_some_iff {name : String} :
    env.degraded.lookup name = some d ↔
      env.lookup name = some d ∧ d.home ≠ some env.mainModule := by
  rw [env.isIndexed.lookup_eq_some_iff, env.degraded.isIndexed.lookup_eq_some_iff, degraded,
    List.mem_filter, bne_iff_ne]
  exact and_right_comm

/-- What is left of an environment is left of that too. -/
theorem degraded_degraded (env : Environment) : env.degraded.degraded = env.degraded := by
  simp [degraded, List.filter_filter]

end Environment

/-! ## What an export says -/

/-- A text that was read from an exported value was exported as it stands. -/
theorem Field.eq_str_of_placed {place : List String} {v : Json} {s : String}
    (h : placed place v.scalar.string = .valid s) : v = .str s := by
  cases v with
  | str t =>
    cases h
    rfl
  | _ => cases h

/-- Items that were read as texts are these texts. -/
theorem Field.eq_map_of_stringItems {key : String} {i : Nat} {items : List Json}
    {texts : List String} (h : stringItems key i items = .valid texts) :
    items = texts.map .str := by
  induction items generalizing i texts with
  | nil =>
    cases h
    rfl
  | cons v rest ih =>
    obtain ⟨_, others, first, rest_read, rfl⟩ := Checked.both_eq_valid_iff.1 h
    obtain ⟨s, there, rfl⟩ := Checked.map_eq_valid_iff.1 first
    rw [eq_str_of_placed there, ih rest_read, List.map_cons]

namespace Export

/-- **What the fields of an export say**: the main module, the modules if any are listed, and one
declaration for each entry. -/
structure Describes (fields : List (String × Json)) (main : String)
    (listed : Option (List String)) (ds : List Declaration) : Prop where
  entries : ∃ entries items, Json.field? fields "declarations" = some entries ∧
    items? entries = some items ∧ List.Forall₂ (fun entry d => declaration entry = .ok d) items ds
  main : Json.field? fields "module" = some (.str main)
  modules : match listed with
    | none => (Json.field? fields "modules").getD .null = .null
    | some modules => ∃ v, (Json.field? fields "modules").getD .null = v ∧ v ≠ .null ∧
        items? v = some (modules.map .str)

/-- What an export declares was read from some entry. -/
theorem Describes.exists_entry {fields : List (String × Json)} {main : String}
    {listed : Option (List String)} {ds : List Declaration}
    (h : Describes fields main listed ds) (hd : d ∈ ds) : ∃ entry, declaration entry = .ok d := by
  obtain ⟨_, items, -, -, read⟩ := h.entries
  obtain ⟨entry, -, read⟩ := exists_of_forall₂ read hd
  exact ⟨entry, read⟩

/-- What was read entry by entry is one declaration for each entry. -/
theorem forall₂_of_declarations {entries : List Json} {ds : List Declaration}
    (h : declarations entries = .ok ds) :
    List.Forall₂ (fun entry d => declaration entry = .ok d) entries ds := by
  induction entries generalizing ds with
  | nil =>
    cases h
    exact .nil
  | cons entry rest ih =>
    rw [declarations] at h
    split at h
    · cases h
    · next first read =>
      obtain ⟨others, rest_read, rfl⟩ := exists_of_map_eq_ok h
      exact .cons read (ih rest_read)

/-- A main module and modules that were read are the texts that stand there. -/
theorem eq_of_checked {main : Json} {modules : List Json} {ds : List Declaration}
    (h : (match (Checked.both
          ((Field.placed ["module"] main.scalar.string).map fun m ms => (m, ms))
          (Field.stringItems "modules" 0 modules)).toExcept "Environment" with
      | .error e => .error (MalformedExport.invalid e)
      | .ok (main, modules) => pure (.ofList .compiled main modules ds)) = Except.ok env) :
    ∃ name names, main = .str name ∧ modules = names.map .str ∧
      env = .ofList .compiled name names ds := by
  split at h
  · cases h
  · next name names read =>
    cases h
    obtain ⟨_, _, first, texts, same⟩ :=
      Checked.both_eq_valid_iff.1 (Checked.toExcept_eq_ok_iff.1 read)
    obtain ⟨_, there, rfl⟩ := Checked.map_eq_valid_iff.1 first
    obtain ⟨rfl, rfl⟩ := Prod.mk.inj same
    exact ⟨_, _, Field.eq_str_of_placed there, Field.eq_map_of_stringItems texts, rfl⟩

/-- The modules that are gathered are those that go with the declarations. -/
theorem gathered_str (main : String) (ds : List Declaration) :
    gathered (.str main) ds = (Environment.seenModules main ds).map .str := by
  have once : [main].eraseDups = [main] := rfl
  have seen := Environment.homesAfter_eq once ds
  rw [List.eraseDups_append] at seen
  rw [gathered, Environment.seenModules, seen]
  rfl

/-- **An environment that was read is what the export says**: compiled, with the modules that are
listed or else those that go with the declarations. -/
theorem exists_of_environment {data : Json} (h : environment data = .ok env) :
    ∃ fields main listed ds, data = .obj fields ∧ Describes fields main listed ds ∧
      env = .ofList .compiled main (listed.getD (Environment.seenModules main ds)) ds := by
  unfold environment at h
  split at h
  · next fields =>
    split at h
    · next entries there =>
      split at h
      · next items among =>
        obtain ⟨ds, read, h⟩ := exists_of_bind_eq_ok h
        have entries : ∃ entries items, Json.field? fields "declarations" = some entries ∧
            items? entries = some items ∧
            List.Forall₂ (fun entry d => declaration entry = .ok d) items ds :=
          ⟨entries, items, there, among, forall₂_of_declarations read⟩
        split at h
        · next main called =>
          split at h
          · next absent =>
            obtain ⟨name, names, rfl, there, rfl⟩ := eq_of_checked h
            rw [gathered_str] at there
            have inj : Function.Injective Json.str := fun _ _ => Json.str.inj
            rw [← inj.list_map there]
            exact ⟨fields, name, none, ds, rfl, ⟨entries, called, absent⟩, rfl⟩
          · next v present =>
            split at h
            · next items modules =>
              obtain ⟨name, names, rfl, rfl, rfl⟩ := eq_of_checked h
              exact ⟨fields, name, some names, ds, rfl,
                ⟨entries, called, _, rfl, present, modules⟩, rfl⟩
            · cases h
        · cases h
      · cases h
    · cases h
  · cases h

/-- **What was read is compiled.** -/
theorem kind_of_environment {data : Json} (h : environment data = .ok env) :
    env.kind = .compiled := by
  obtain ⟨_, _, _, _, -, -, rfl⟩ := exists_of_environment h
  rfl

/-- **The environment of an export.**  In what is read, and in what is left of it, names lead to the
declarations.  The names stand in the order in which the export first lists them, each leads to the
last entry of that name, and modules that the export does not list are the main module and then the
homes of all its entries.  Degrading it leaves what lies outside the main module, in its order, and
degrading it again changes nothing. -/
theorem environment_isIndexed {data : Json} (h : environment data = .ok env) :
    (env.IsIndexed ∧ env.degraded.IsIndexed) ∧
      (∃ fields listed ds, data = .obj fields ∧ Describes fields env.mainModule listed ds ∧
        Declaration.names env.declarations = (Declaration.names ds).eraseDups ∧
        (∀ name, env.lookup name = (ds.filter (·.name == name)).getLast?) ∧
        ((Json.field? fields "modules").getD .null = .null → env.modules.Nodup ∧
          env.modules = env.mainModule ::
            ((Declaration.homes ds).filter (· != env.mainModule)).eraseDups)) ∧
      (∀ name d, env.degraded.lookup name = some d ↔
        env.lookup name = some d ∧ d.home ≠ some env.mainModule) ∧
      env.degraded.declarations = env.declarations.filter (·.home != some env.mainModule) ∧
      env.degraded.modules = env.modules.filter (· != env.mainModule) ∧
      env.degraded.degraded = env.degraded := by
  refine ⟨⟨env.isIndexed, env.degraded.isIndexed⟩, ?_,
    fun _ _ => Environment.lookup_degraded_eq_some_iff, rfl, rfl, env.degraded_degraded⟩
  obtain ⟨fields, main, listed, ds, rfl, described, rfl⟩ := exists_of_environment h
  refine ⟨fields, listed, ds, rfl, described, Declaration.names_index ds,
    Declaration.find?_index ds, fun absent => ?_⟩
  have gathered : listed = none := by
    cases listed with
    | none => rfl
    | some modules =>
      obtain ⟨v, there, present, -⟩ := described.modules
      exact absurd (there.symm.trans absent) present
  rw [gathered]
  change (Environment.seenModules main ds).Nodup ∧ Environment.seenModules main ds = _
  rw [Environment.seenModules_eq]
  exact ⟨nodup_eraseDups _, List.eraseDups_cons⟩

/-- An export that lists a name of its main module again, in another module. -/
def twiceListed : Json :=
  let entry (name home : String) : Json :=
    .obj [("name", .str name), ("module", .str home), ("kind", .str "theorem")]
  .obj [("module", .str "Sheet"),
    ("declarations", .arr [entry "lemma" "Sheet", entry "easy" "Sheet", entry "lemma" "Basic"])]

/-- The name is kept at its first place, with its last home, and so it is left of the main
module. -/
theorem environment_twiceListed : ∃ env, environment twiceListed = .ok env ∧
    (env.IsIndexed ∧ env.degraded.IsIndexed) ∧
      Declaration.names env.declarations = ["lemma", "easy"] ∧
      env.modules = ["Sheet", "Basic"] ∧
      Declaration.names env.degraded.declarations = ["lemma"] := by
  have read : environment twiceListed = .ok _ := rfl
  obtain ⟨indexed, -⟩ := environment_isIndexed read
  exact ⟨_, read, indexed, rfl, rfl, rfl⟩

end Export

end ProofGrading
