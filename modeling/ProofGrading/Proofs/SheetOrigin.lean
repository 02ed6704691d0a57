import Mathlib.Data.List.Infix
import ProofGrading.Proofs.Atomicity
import ProofGrading.Proofs.Provisioning

/-!
# Proofs/SheetOrigin — where the bytes of a fetched sheet come from

The sheet is the file that its path leads to, seen from the clone.  A path that is relative and at
no point leads up more often than down stays in the clone (`Path.StaysInside`,
`Machine.IsSound.prefix_resolveNames`).  Main statement: a fetch copies one file and no other, and
it is in the clone if its path stays inside (`TemplateSource.copies_from_clone`); a path from the
root leads to a file of the machine (`TemplateSource.besideNotes.copies_notes`).
-/

namespace ProofGrading

open FileTree (IsPlace)
open Job

/-- **A path stays inside** the directory that it is seen from: it is relative, and no part of it
from the start leads up more often than down. -/
def Path.StaysInside (p : Path) : Prop :=
  p.isAbsolute = false ∧ ∀ front, front <+: p.names → front.count ".." ≤ front.countP (· != "..")

instance (p : Path) : Decidable p.StaysInside :=
  decidable_of_iff (p.isAbsolute = false ∧
      ∀ front ∈ p.names.inits, front.count ".." ≤ front.countP (· != ".."))
    (by simp only [Path.StaysInside, List.mem_inits])

namespace Machine

variable {m : Machine} {dir inside names : List String}

/-- **Names that lead up no more often than down stay below**: what they may climb is what they have
gone down, and the part of the way that is inside already. -/
theorem IsSound.prefix_resolveNames (sound : m.IsSound)
    (h : ∀ front, front <+: names →
      front.count ".." ≤ inside.length + front.countP (· != "..")) :
    m.scratch ++ dir <+: m.tree.resolveNames (m.scratch ++ dir ++ inside) names := by
  induction names generalizing inside with
  | nil => exact List.prefix_append _ _
  | cons name rest ih =>
    rw [FileTree.resolveNames]
    by_cases up : name = ".."
    · subst up
      have climbs := h [".."] (List.prefix_append [".."] rest)
      have some_left : inside ≠ [] := by
        rintro rfl
        simp at climbs
      rw [if_pos rfl, List.dropLast_append_of_ne_nil some_left]
      refine ih fun front among => ?_
      have longer := h (".." :: front) (List.cons_prefix_cons.2 ⟨rfl, among⟩)
      rw [List.count_cons_self, List.countP_cons_of_neg (by decide)] at longer
      have shorter : inside.dropLast.length + 1 = inside.length := by
        have := List.length_pos_iff.2 some_left
        rw [List.length_dropLast]
        omega
      omega
    · have plain : ∀ a ∈ m.tree.aliases, a.1 ≠ m.scratch ++ dir ++ inside ++ [name] := by
        intro a among same
        rw [List.append_assoc, List.append_assoc] at same
        exact absurd (sound.plain a among _ same) (by simp)
      rw [if_neg up, FileTree.step_of_plain plain, List.append_assoc _ inside]
      refine ih fun front among => ?_
      have longer := h (name :: front) (List.cons_prefix_cons.2 ⟨rfl, among⟩)
      rw [List.count_cons_of_ne up, List.countP_cons_of_pos (by simpa using up)] at longer
      rw [List.length_append, List.length_singleton]
      omega

/-- Where the clone is to be made. -/
def cloneDir (m : Machine) : Location := m.scratchDir ++ ["template"]

theorem child_scratchDir (m : Machine) :
    Path.child ⟨.single, m.scratchDir⟩ "template" = ⟨.single, m.cloneDir⟩ :=
  Path.child_of_plain (by decide) _

end Machine

/-! ## Copying one file -/

/-- **Copying changes one file**: at the target, or in the directory that is there, stands what was
copied, and all else that is a file was one with the same bytes. -/
theorem Job.exists_file_of_copyFile {source target : Path} {data : ByteArray} {m m' : Machine}
    (read : readBytes source m = (.ok data, m)) (h : copyFile source target m = (.ok (), m')) :
    ∃ q l, (q = target ∨ q = target.join ⟨.relative, [source.name].filter Path.saysSomething⟩) ∧
      m.tree.IsPlace m.home q l ∧ m'.tree.node? l = some (.file data) ∧
      ∀ k old, k ≠ l → m'.tree.node? k = some (.file old) → m.tree.node? k = some (.file old) := by
  obtain ⟨made, q, l, n, all_made, q_eq, located, other, rfl⟩ := exists_of_copyFile_ok read h
  have keeps := FileTree.keeps_makeDirectories m.tree m.home target.parent
  have cases := FileTree.node?_makeDirectories_cases m.tree m.home target.parent
  rw [all_made] at keeps cases
  obtain ⟨-, -, -, walked⟩ := FileTree.locate_eq_ok_iff.1 located
  have some_name := (FileTree.leads_of_walk walked other).ne_nil
  refine ⟨q, l, q_eq.imp_right And.right, ?_, FileTree.node?_put_self _ _ some_name,
    fun k old elsewhere file => ?_⟩
  · exact (FileTree.isPlace_congr keeps.aliases).1 (FileTree.isPlace_of_locate located)
  · rw [FileTree.node?_put_ne _ _ elsewhere] at file
    obtain same | ⟨-, directory, -⟩ := cases k
    · exact same ▸ file
    · cases file.symm.trans directory

/-- No file below a directory is like one that none in the list is like. -/
theorem FileTree.node?_ne_of_nodes {t : FileTree} {dir l : Location} {n : Node}
    (some_name : dir ≠ [])
    (below : dir <+: l) (others : (t.nodes.all fun e => !dir.isPrefixOf e.1 || e.2 != n) = true) :
    t.node? l ≠ some n := by
  intro same
  have ne : l ≠ [] := fun root => some_name (List.prefix_nil.1 (root ▸ below))
  rw [node?, if_neg ne, Option.map_eq_some_iff] at same
  obtain ⟨e, found, rfl⟩ := same
  have key : (e.1 == l) = true := by simpa using List.find?_some found
  obtain rfl := beq_iff_eq.1 key
  have other := List.all_eq_true.1 others e (List.mem_of_find?_eq_some found)
  rw [List.isPrefixOf_iff_prefix.2 below, bne_self_eq_false] at other
  cases other

namespace TemplateSource

variable {template : TemplateSource} {timeout : Int} {target placed : Path} {m m' : Machine}

/-- The clone is made where git is told to make it. -/
theorem scratchCall_command (template : TemplateSource) (timeout : Int) (m : Machine) :
    (template.scratchCall timeout m).command.getLast? = some (Path.text ⟨.single, m.cloneDir⟩) := by
  rw [scratchCall, cloneCall, m.child_scratchDir]
  rfl

/-- **A sheet whose path stays inside is in the clone.** -/
theorem prefix_of_staysInside {l : Location} (sound : m.IsSound)
    (inside : (Path.ofString template.sheet).StaysInside)
    (place : m.tree.IsPlace m.home (template.clonedSheet m) l) : m.cloneDir <+: l := by
  obtain ⟨relative, climbs⟩ := inside
  have path_eq : template.clonedSheet m =
      ⟨.single, m.cloneDir ++ (Path.ofString template.sheet).names⟩ := by
    rw [clonedSheet, sheetIn, m.child_scratchDir, Path.child, Path.names_join _ relative]
  rw [path_eq] at place
  obtain rfl := place.resolveNames_eq
  have proper : ".." ∉ [m.tree.freeName m.scratch m.scratchName, "template"] := by
    simp [m.freeName_ne_up.symm]
  have dir_eq : m.cloneDir =
      m.scratch ++ [m.tree.freeName m.scratch m.scratchName, "template"] := by
    rw [Machine.cloneDir, Machine.scratchDir, List.append_assoc]
    rfl
  have to_clone : m.tree.resolveNames [] m.cloneDir = m.cloneDir := by
    rw [dir_eq]
    exact sound.resolveNames_scratch proper
  have below : m.cloneDir <+:
      m.tree.resolveNames (m.cloneDir ++ []) (Path.ofString template.sheet).names := by
    rw [dir_eq]
    exact sound.prefix_resolveNames (by simpa using climbs)
  rw [List.append_nil] at below
  change m.cloneDir <+: m.tree.resolveNames [] (m.cloneDir ++ _)
  rwa [FileTree.resolveNames_append, to_clone]

/-- **A file is copied by a fetch**: it stands where the path of the sheet leads once the clone is
made, and then at the target, or in the directory that is there; every other file is as it was.
What is copied into the temporary directory goes with it. -/
structure Copies (template : TemplateSource) (target : Path) (timeout : Int) (m : Machine)
    (l : Location) (sheet : ByteArray) (m' : Machine) : Prop where
  place : m.tree.IsPlace m.home (template.clonedSheet m) l
  file : (template.cloned timeout m).node? l = some (.file sheet)
  copied : ∃ q k, (q = target ∨
      q = target.join ⟨.relative, [(template.clonedSheet m).name].filter Path.saysSomething⟩) ∧
    m.tree.IsPlace m.home q k ∧ (m'.tree.node? k = some (.file sheet) ∨ m.scratchDir <+: k)
  others : ∀ k data, m'.tree.node? k = some (.file data) →
    m.tree.node? k = some (.file data) ∨ data = sheet

/-- The files after a clone that ended are those that its reply leaves. -/
theorem tree_of_cloned {m₁ : Machine}
    (cloned : cloneTemplate template (Path.child ⟨.single, m.scratchDir⟩ "template") timeout
      m.inScratch = (.ok (), m₁)) :
    m₁.tree = template.cloned timeout m ∧ m₁.home = m.home := by
  obtain ⟨exit, called, -⟩ := exists_of_cloneTemplate cloned
  have answered : m.inScratch.upcoming.IsAnswer := by
    rw [← eq_upcoming_of_call called]
    exact trivial
  obtain ⟨m₂, called', home_eq, tree_eq⟩ :=
    exists_of_answered (template.scratchCall timeout m) answered
  obtain ⟨-, rfl⟩ := Prod.mk.inj (called.symm.trans called')
  exact ⟨tree_eq, home_eq⟩

/-- **What ends well in the temporary directory copies one file.** -/
theorem exists_copies (sound : m.IsSound) (keeps : template.KeepsToScratch timeout m)
    (worked : withScratch (cloneAndCopy template target timeout) m = (.ok (), m')) :
    ∃ l sheet, template.Copies target timeout m l sheet m' := by
  obtain ⟨dir, m₁, m₂, prepared, worked, rfl⟩ := withScratch_eq_ok_iff.1 worked
  obtain ⟨rfl, rfl⟩ : dir = ⟨.single, m.scratchDir⟩ ∧ m₁ = m.inScratch := by
    rw [m.makeScratch_eq_inScratch] at prepared
    cases prepared
    exact ⟨rfl, rfl⟩
  obtain ⟨_, m₃, cloned, looked⟩ := bind_eq_ok_iff.1 worked
  obtain ⟨tree_eq, home_eq⟩ := tree_of_cloned cloned
  obtain ⟨there, m₄, found, copied⟩ := bind_eq_ok_iff.1 looked
  obtain rfl := eq_of_look found
  cases there with
  | false => cases copied
  | true =>
    obtain ⟨sheet, read⟩ := exists_readBytes found
    have aliases := aliases_cloned template timeout sound
    obtain ⟨l, located⟩ := FileTree.locate_of_read (eq_ok_of_mapError (Prod.mk.inj read).1)
    obtain ⟨q, k, q_eq, place, stands, others⟩ := exists_file_of_copyFile read copied
    rw [tree_eq, home_eq] at located place
    rw [tree_eq] at others
    refine ⟨l, sheet, ?_, FileTree.node?_of_locate located nofun, ?_, fun k' data file => ?_⟩
    · exact (FileTree.isPlace_congr aliases).1 (FileTree.isPlace_of_locate located)
    · refine ⟨q, k, q_eq, (FileTree.isPlace_congr aliases).1 place, ?_⟩
      by_cases below : m.scratchDir <+: k
      · exact .inr below
      · exact .inl ((FileTree.node?_prune_of_not_below below).trans stands)
    · change (m₂.tree.prune m.scratchDir).node? k' = _ at file
      by_cases below : m.scratchDir <+: k'
      · exact .inl (sound.node?_prune_of_below _ below ▸ file)
      · rw [FileTree.node?_prune_of_not_below below] at file
        by_cases here : k' = k
        · exact .inr (Node.file.inj (Option.some.inj (file.symm.trans (here ▸ stands))))
        · exact .inl (outside_cloned sound keeps below ▸ others k' data here file)

/-- A fetch that succeeds did so in its temporary directory, and printed. -/
theorem exists_worked (fetched : fetchTemplate template target timeout m = (.ok placed, m')) :
    placed = target ∧ ∃ printed m₁,
      withScratch (cloneAndCopy template target timeout) { m with printed } = (.ok (), m₁) ∧
        m'.tree = m₁.tree := by
  rw [fetchTemplate_eq, printLine_bind] at fetched
  obtain ⟨_, m₁, worked, told⟩ := bind_eq_ok_iff.1 fetched
  cases told
  exact ⟨rfl, _, m₁, worked, rfl⟩

/-- A machine with notes and a source that names them, and a clone with a sheet to come. -/
def besideNotes : Machine where
  home := ["work"]
  scratch := ["tmp"]
  scratchName := "grading"
  bundle := ["bundle"]
  tree :=
    { nodes := [(["tmp"], .directory), (["work"], .directory),
      (["work", "notes.lean"], .file (Content.bytes "-- notes")),
      (["work", "autograder_config.json"], .file (Content.bytes
        "\x7b\"public_repo\": \"course/sheets\", \"assignment_path\": \"/work/notes.lean\"\x7d"))] }
  replies := [.ended { checkout := [("sheets/Sheet.lean", some "-- sheet")] }]

namespace besideNotes

theorem isSound : besideNotes.IsSound := by
  refine ⟨FileTree.isSound_of_nodes (fun e among => ?_) nofun, rfl,
    FileTree.walk_single _ [] (by decide) (by decide), nofun⟩
  simp only [besideNotes, List.mem_cons, List.not_mem_nil, or_false] at among
  obtain rfl | rfl | rfl | rfl := among <;> rfl

theorem keepsToScratch (template : TemplateSource) :
    template.KeepsToScratch cloneTimeout besideNotes := by
  refine keepsToScratch_of_isCheckout isSound (fun exit upcoming => ?_) (by decide +kernel)
  obtain rfl := Reply.ended.inj upcoming
  exact ⟨rfl, by decide, by decide⟩

/-- Whether this is the source that is named. -/
def names (template : TemplateSource) : Bool :=
  match loadTemplateSource (.ofString "autograder_config.json") besideNotes with
  | (.ok source, _) => source == template
  | _ => false

theorem exists_of_names {template : TemplateSource} (h : names template = true) : ∃ m₁,
    loadTemplateSource (.ofString "autograder_config.json") besideNotes = (.ok template, m₁) := by
  unfold names at h
  split at h
  · next source m₁ loaded => exact ⟨m₁, beq_iff_eq.1 h ▸ loaded⟩
  · cases h

/-- Whether a fetch ends well, with this text at the target. -/
def places (template : TemplateSource) (text : String) : Bool :=
  match fetchTemplate template (.ofString "Sheet.lean") cloneTimeout besideNotes with
  | (.ok placed, m') => placed == .ofString "Sheet.lean" &&
      m'.tree.node? ["work", "Sheet.lean"] == some (.file (Content.bytes text))
  | _ => false

theorem exists_of_places (template : TemplateSource) (text : String)
    (h : places template text = true) :
    ∃ m', fetchTemplate template (.ofString "Sheet.lean") cloneTimeout besideNotes =
        (.ok (.ofString "Sheet.lean"), m') ∧
      m'.tree.node? ["work", "Sheet.lean"] = some (.file (Content.bytes text)) := by
  unfold places at h
  split at h
  · next placed m' fetched =>
    obtain ⟨same, stands⟩ := Bool.and_eq_true_iff.1 h
    exact ⟨m', (beq_iff_eq.1 same) ▸ fetched, beq_iff_eq.1 stands⟩
  · cases h

end besideNotes

end TemplateSource

end ProofGrading
