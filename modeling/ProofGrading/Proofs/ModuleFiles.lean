import ProofGrading.Proofs.Footprint
import ProofGrading.Template

/-!
# Proofs/ModuleFiles — a file of its own for each module

A module name is split at its dots, so no component of it can be `.` or `..`; as long as none is
empty or holds a slash, each is a step down from the project (`Path.isStep_of_mem_sourceNames`), and
the source file is found by those steps alone (`Path.ofModule_eq`).  The components can be read off
the steps again (`Path.eq_of_sourceNames_eq`).  Main statement: the source files of modules lie
below the project, and modules with the same file are the same (`Path.ofModule_distinct`).
-/

namespace ProofGrading

namespace Path

/-- **A name that leads one step down**: it says something, does not lead up, and is one name and no
more. -/
def IsStep (name : String) : Prop := name ≠ "" ∧ name ≠ "." ∧ name ≠ ".." ∧ '/' ∉ name.toList

instance : DecidablePred IsStep := fun _ => inferInstanceAs (Decidable (_ ∧ _ ∧ _ ∧ _))

/-- **A path lies strictly below another one**: it goes on from there, and does not lead up. -/
def LiesBelow (p dir : Path) : Prop :=
  p.root = dir.root ∧ ∃ names, names ≠ [] ∧ ".." ∉ names ∧ p.names = dir.names ++ names

/-- **A module name**: of its components between dots none is empty, and none holds a slash. -/
def IsModuleName (home : String) : Prop :=
  ∀ part ∈ Text.pieces '.' home, part ≠ "" ∧ '/' ∉ part.toList

instance : DecidablePred IsModuleName := fun _ => inferInstanceAs (Decidable (∀ _ ∈ _, _ ∧ _))

/-- The names that lead from a project to the source file of a module. -/
def sourceNames (home : String) : List String :=
  (Text.pieces '.' home).dropLast ++ [(Text.pieces '.' home).getLast?.getD "" ++ leanSuffix]

/-! ## Steps down -/

theorem rootOf_of_not_mem {cs : List Char} (no_slash : '/' ∉ cs) : rootOf cs = .relative := by
  have other_start (rest : List Char) : cs ≠ '/' :: rest := fun begins =>
    no_slash (begins ▸ List.mem_cons_self)
  unfold rootOf
  split
  · exact absurd rfl (other_start _)
  · exact absurd rfl (other_start _)
  · exact absurd rfl (other_start _)
  · rfl

/-- A step is read as it is. -/
theorem ofString_of_isStep {name : String} (step : IsStep name) :
    ofString name = ⟨.relative, [name]⟩ := by
  obtain ⟨some, other, -, no_slash⟩ := step
  have whole : Text.pieces '/' name = [name] := by
    rw [Text.pieces, Text.splitOn_of_not_mem no_slash, List.map_singleton, String.ofList_toList]
  have kept : saysSomething name = true := by simp [saysSomething, some, other]
  rw [ofString, rootOf_of_not_mem no_slash, whole, List.filter_cons_of_pos kept, List.filter_nil]

/-- **Steps down are taken one after the other.** -/
theorem foldl_child (p : Path) {names : List String} (steps : ∀ name ∈ names, IsStep name) :
    names.foldl child p = ⟨p.root, p.names ++ names⟩ := by
  induction names generalizing p with
  | nil => rw [List.foldl_nil, List.append_nil]
  | cons name rest ih =>
    obtain ⟨step, steps⟩ := List.forall_mem_cons.1 steps
    rw [List.foldl_cons, child_of_plain (ofString_of_isStep step), ih _ steps, List.append_assoc,
      List.singleton_append]

/-! ## The names of a source file -/

variable {home other : String}

/-- All but the last name of a source file are components of the module's name, and the last one is
the last component with a suffix. -/
theorem exists_sourceNames (home : String) : ∃ front last,
    Text.pieces '.' home = front ++ [last] ∧ sourceNames home = front ++ [last ++ leanSuffix] := by
  have some := Text.pieces_ne_nil '.' home
  refine ⟨_, (Text.pieces '.' home).getLast some, (List.dropLast_append_getLast some).symm, ?_⟩
  rw [sourceNames, List.getLast?_eq_some_getLast some, Option.getD_some]

/-- **The names of the source file tell the module.** -/
theorem eq_of_sourceNames_eq (same : sourceNames home = sourceNames other) : home = other := by
  obtain ⟨front, last, parts, names⟩ := exists_sourceNames home
  obtain ⟨front', last', parts', names'⟩ := exists_sourceNames other
  rw [names, names'] at same
  obtain ⟨fronts, lasts⟩ := List.append_inj' same rfl
  have bare : last = last' := (String.append_left_inj leanSuffix).1 (List.cons.inj lasts).1
  exact Text.eq_of_pieces_eq (parts.trans (fronts ▸ bare ▸ parts'.symm))

/-- **A component of a module's name is a step down**: it holds no dot, and so is none of the names
that lead nowhere or up. -/
theorem isStep_of_mem_pieces (is_name : IsModuleName home) {part : String}
    (among : part ∈ Text.pieces '.' home) : IsStep part := by
  obtain ⟨some, no_slash⟩ := is_name part among
  obtain ⟨piece, split, rfl⟩ := List.mem_map.1 among
  have no_dot : '.' ∉ (String.ofList piece).toList :=
    String.toList_ofList ▸ Text.not_mem_of_mem_splitOn '.' _ piece split
  refine ⟨some, fun same => no_dot ?_, fun same => no_dot ?_, no_slash⟩
  · rw [same]
    decide
  · rw [same]
    decide

/-- With the suffix a text is too long for one of the names that lead nowhere or up. -/
theorem isStep_append_suffix {last : String} (no_slash : '/' ∉ last.toList) :
    IsStep (last ++ leanSuffix) := by
  have long : 5 ≤ (last ++ leanSuffix).length := by
    rw [String.length_append]
    exact Nat.le_add_left _ _
  refine ⟨fun same => ?_, fun same => ?_, fun same => ?_, fun slash => ?_⟩
  · exact absurd (same ▸ long) (by decide)
  · exact absurd (same ▸ long) (by decide)
  · exact absurd (same ▸ long) (by decide)
  · rw [String.toList_append, List.mem_append] at slash
    exact slash.elim no_slash (by decide)

/-- **The source file of a module is found by steps down.** -/
theorem isStep_of_mem_sourceNames (is_name : IsModuleName home) {name : String}
    (among : name ∈ sourceNames home) : IsStep name := by
  obtain ⟨front, last, parts, names⟩ := exists_sourceNames home
  rw [names] at among
  obtain inner | is_last := List.mem_append.1 among
  · exact isStep_of_mem_pieces is_name (parts ▸ List.mem_append_left _ inner)
  · obtain rfl := List.mem_singleton.1 is_last
    have part : last ∈ Text.pieces '.' home :=
      parts ▸ List.mem_append_right _ (List.mem_singleton_self last)
    exact isStep_append_suffix (is_name last part).2

theorem up_not_mem_sourceNames (is_name : IsModuleName home) : ".." ∉ sourceNames home := fun up =>
  (isStep_of_mem_sourceNames is_name up).2.2.1 rfl

/-! ## Source files -/

/-- **The source file of a module stands in the project**, where its names lead. -/
theorem ofModule_eq (project : Path) (is_name : IsModuleName home) :
    project.ofModule home = ⟨project.root, project.names ++ sourceNames home⟩ :=
  foldl_child project fun _ among => isStep_of_mem_sourceNames is_name among

theorem ofModule_inj (project : Path) (is_name : IsModuleName home)
    (is_other : IsModuleName other) :
    project.ofModule home = project.ofModule other ↔ home = other := by
  refine ⟨fun same => ?_, congrArg project.ofModule⟩
  rw [ofModule_eq project is_name, ofModule_eq project is_other] at same
  exact eq_of_sourceNames_eq (List.append_cancel_left (Path.mk.inj same).2)

theorem ofModule_submission (project : Path) :
    project.ofModule "Submission" = project.child "Submission.lean" := rfl

/-- **In a project without aliases** the source file is where its names say. -/
theorem place_ofModule {t : FileTree} {cwd l k : Location} {project : Path}
    (is_name : IsModuleName home) (at_project : t.IsPlace cwd project l) (plain : t.IsUnaliased l)
    (place : t.IsPlace cwd (project.ofModule home) k) : k = l ++ sourceNames home := by
  rw [ofModule_eq project is_name] at place
  rw [← place.resolveNames_eq, FileTree.resolveNames_append]
  change t.resolveNames
    (t.resolveNames (if project.isAbsolute then [] else cwd) project.names) _ = _
  rw [at_project.resolveNames_eq, plain.resolveNames_eq (up_not_mem_sourceNames is_name)]

/-- **Modules have files of their own, inside the project.**  The path of a module's source file
goes on from the project by the components of the module's name, the last one with a suffix, and
every one of these names is a step down; so it lies strictly below the project.  Modules with the
same path are the same, and the path of the upload belongs to the module that is called like it.
Whatever the files, as long as no alias is in the project, the source file stands in the directory
that the project leads to, and no other module's does at the same place. -/
theorem ofModule_distinct (project : Path) (is_name : IsModuleName home)
    (is_other : IsModuleName other) :
    (∃ front last, Text.pieces '.' home = front ++ [last] ∧
        project.ofModule home = ⟨project.root, project.names ++ (front ++ [last ++ ".lean"])⟩ ∧
        ∀ name ∈ front ++ [last ++ ".lean"], IsStep name) ∧
      (project.ofModule home).LiesBelow project ∧
      (project.ofModule home = project.ofModule other ↔ home = other) ∧
      (project.ofModule home = project.child "Submission.lean" ↔ home = "Submission") ∧
      ∀ (t : FileTree) (cwd l k : Location), t.IsPlace cwd project l → t.IsUnaliased l →
        t.IsPlace cwd (project.ofModule home) k →
          (l <+: k ∧ k ≠ l) ∧ (t.IsPlace cwd (project.ofModule other) k → home = other) := by
  obtain ⟨front, last, parts, names⟩ := exists_sourceNames home
  have path_eq := ofModule_eq project is_name
  have some_name : sourceNames home ≠ [] := by simp [sourceNames]
  refine ⟨⟨front, last, parts, ?_, ?_⟩, ?_, ofModule_inj project is_name is_other, ?_, ?_⟩
  · rw [path_eq, names]
    rfl
  · exact names ▸ fun _ among => isStep_of_mem_sourceNames is_name among
  · rw [path_eq]
    exact ⟨rfl, _, some_name, up_not_mem_sourceNames is_name, rfl⟩
  · rw [← ofModule_submission]
    exact ofModule_inj project is_name (by decide)
  · intro t cwd l k at_project plain place
    obtain rfl := place_ofModule is_name at_project plain place
    refine ⟨⟨List.prefix_append _ _, ?_⟩, fun shared => ?_⟩
    · simpa using some_name
    · exact eq_of_sourceNames_eq
        (List.append_cancel_left (place_ofModule is_other at_project plain shared))

/-- Two sheets of one course have files of their own, and neither is the upload. -/
theorem ofModule_distinct_homework :
    IsModuleName "Course.Hw1" ∧ IsModuleName "Course.Hw2" ∧
      (ofString "project").ofModule "Course.Hw1" =
        ⟨.relative, ["project", "Course", "Hw1.lean"]⟩ ∧
      ((ofString "project").ofModule "Course.Hw1").LiesBelow (ofString "project") ∧
      (ofString "project").ofModule "Course.Hw1" ≠ (ofString "project").ofModule "Course.Hw2" ∧
      (ofString "project").ofModule "Course.Hw1" ≠ (ofString "project").child "Submission.lean" ∧
      ¬FileTree.IsPlace {} ["work"] ((ofString "project").ofModule "Course.Hw2")
        ["work", "project", "Course", "Hw1.lean"] := by
  have is_first : IsModuleName "Course.Hw1" := by decide
  have is_second : IsModuleName "Course.Hw2" := by decide
  have other : "Course.Hw1" ≠ "Course.Hw2" := by decide
  obtain ⟨-, below, same_iff, upload_iff, places⟩ :=
    ofModule_distinct (ofString "project") is_first is_second
  have at_first : FileTree.IsPlace {} ["work"] ((ofString "project").ofModule "Course.Hw1")
      ["work", "project", "Course", "Hw1.lean"] := by
    unfold FileTree.IsPlace
    decide +kernel
  have at_project : FileTree.IsPlace {} ["work"] (ofString "project") ["work", "project"] := by
    unfold FileTree.IsPlace
    decide +kernel
  obtain ⟨-, alone⟩ := places {} ["work"] _ _ at_project nofun at_first
  exact ⟨is_first, is_second, by decide +kernel, below, mt same_iff.1 other,
    mt upload_iff.1 (by decide), mt alone other⟩

end Path

end ProofGrading
