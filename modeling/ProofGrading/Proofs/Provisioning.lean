import ProofGrading.Proofs.Outputs

/-!
# Proofs/Provisioning — the sheet and the upload side by side

What is copied to a place stands there (`Job.copied_of_copyFile`), and what comes after leaves it,
as long as it goes elsewhere: the copy of the upload, and the support library, which is only put
where nothing stands.
-/

namespace ProofGrading

open FileTree (Scope Grows IsPlace)
open Job

variable {m₀ m m' : Machine}

namespace Job

/-- **A copy that succeeds is one file that is put**, at the target or into the directory that is
there, once the directory of the target is made. -/
theorem exists_of_copyFile_ok {source target : Path} {data : ByteArray}
    (read : readBytes source m = (.ok data, m)) (h : copyFile source target m = (.ok (), m')) :
    ∃ made q l n, m.tree.makeDirectories m.home target.parent = (made, none) ∧
      (q = target ∨ (∃ dir, made.locate m.home target = .ok ⟨dir, some .directory⟩) ∧
        q = target.join ⟨.relative, [source.name].filter Path.saysSomething⟩) ∧
      made.locate m.home q = .ok ⟨l, n⟩ ∧ n ≠ some .directory ∧
      m' = { m with tree := made.put l (.file data) } := by
  obtain ⟨_, m₁, prepared, copied⟩ := bind_eq_ok_iff.1 h
  have keeps := FileTree.keeps_makeDirectories m.tree m.home target.parent
  unfold makeDirectories at prepared
  split at prepared
  · next made all_made =>
    cases prepared
    rw [all_made] at keeps
    unfold change at copied
    split at copied
    · next tree copied_tree =>
      cases copied
      obtain ⟨q, data', read', written, q_eq⟩ := FileTree.exists_of_copy copied_tree
      cases (keeps.read (eq_ok_of_mapError (Prod.mk.inj read).1)).symm.trans read'
      obtain ⟨l, n, located, other, rfl⟩ := FileTree.exists_of_write written
      exact ⟨made, q, l, n, all_made, q_eq, located, other, rfl⟩
    · cases copied
  · cases prepared

/-- **What was copied stands where its path leads**, or a directory is there. -/
theorem copied_of_copyFile {source target : Path} {data : ByteArray} (reaches : m₀.Reaches m)
    (read : readBytes source m = (.ok data, m)) (h : copyFile source target m = (.ok (), m')) :
    ∃ l, m₀.tree.IsPlace m₀.home target l ∧
      (m'.tree.node? l = some .directory ∨ m'.tree.node? l = some (.file data)) := by
  obtain ⟨made, q, l, n, all_made, q_eq, located, other, rfl⟩ := exists_of_copyFile_ok read h
  have prepared : makeDirectories target.parent m = (.ok (), { m with tree := made }) := by
    rw [makeDirectories, all_made]
  have reaches₁ : m₀.Reaches { m with tree := made } :=
    Within.reaches (within_makeDirectories _) reaches prepared
  have place {p : Path} {l : Location} {n : Option Node}
      (found : made.locate m.home p = .ok ⟨l, n⟩) : m₀.tree.IsPlace m₀.home p l :=
    (FileTree.isPlace_congr reaches₁.aliases).1 (reaches₁.home ▸ FileTree.isPlace_of_locate found)
  have room := reaches₁.sound.tree.hasRoom_of_locate reaches₁.sound.home located other
  obtain rfl | ⟨⟨dir, directory⟩, -⟩ := q_eq
  · exact ⟨l, place located, .inr (FileTree.node?_put_self _ _ room.ne_nil)⟩
  · have there := reaches₁.sound.tree.directory_of_locate reaches₁.sound.home directory
    have elsewhere : dir ≠ l := fun here =>
      other (by rw [← FileTree.node?_of_locate located other, ← here, there])
    exact ⟨dir, place directory, .inl ((FileTree.node?_put_ne _ _ elsewhere).trans there)⟩

end Job

/-- **A fetched sheet stands where its path leads**, or a directory is there, or the path leads into
the temporary directory that was used and removed. -/
theorem TemplateSource.FetchesSheet.node?_cases {template : TemplateSource} {target : Path}
    {timeout : Int} {sheet : ByteArray} (h : template.FetchesSheet target timeout m sheet m')
    (reaches : m₀.Reaches m) : ∃ l, m₀.tree.IsPlace m₀.home target l ∧
      (m'.tree.node? l = some .directory ∨ m'.tree.node? l = some (.file sheet) ∨
        ∃ x, m.scratch ++ [x] <+: l ∧ m.tree.node? (m.scratch ++ [x]) = none) := by
  obtain @⟨dir, exit, m₁, m₂, m₃, m₄, announced, prepared, cloned, -, read, copied, told⟩ := h
  have reaches₁ := Within.reaches (reads_printLine _).within reaches announced
  obtain ⟨tree, scratch⟩ : m₁.tree = m.tree ∧ m₁.scratch = m.scratch := by
    cases announced
    exact ⟨rfl, rfl⟩
  obtain ⟨-, -, x, -, -, free, room, makes_dir⟩ := exists_of_makeScratch reaches₁.sound
  cases makes_dir.symm.trans prepared
  have made : Grows .everywhere m₁.tree _ := .put_directory room free
  have reaches₂ := (Machine.Extends.of_grows made).reaches reaches₁
  have reaches₃ := Within.reaches (within_call fun _ _ _ _ _ => trivial) reaches₂ cloned
  obtain ⟨l, place, stands⟩ := copied_of_copyFile reaches₃ read copied
  refine ⟨l, place, ?_⟩
  rw [← tree, ← scratch]
  by_cases below : m₁.scratch ++ [x] <+: l
  · exact .inr (.inr ⟨x, below, free⟩)
  · cases told
    rw [FileTree.node?_prune_of_not_below below]
    exact stands.imp_right .inl

namespace GradingRun

variable {s : Settings}

/-- **Fetched sources stand where they go**: the upload at its place, and the sheet at its own if
that is another one. -/
theorem Fetches.stand {selection : Selection} {sheet upload : ByteArray}
    (h : Fetches s m selection sheet upload m') (sound : m.IsSound)
    (files : ∀ p, Copied s none p → ∀ l, m.tree.IsPlace m.home p l →
      m'.tree.node? l ≠ some .directory)
    (lasting : ∀ l, m.tree.IsPlace m.home s.sheetPath l → ∀ x, m.scratch ++ [x] <+: l →
      m.tree.node? (m.scratch ++ [x]) ≠ none) :
    ∃ l k, m.tree.IsPlace m.home s.sheetPath l ∧ m.tree.IsPlace m.home s.uploadPath k ∧
      m'.tree.node? k = some (.file upload) ∧ (l ≠ k → m'.tree.node? l = some (.file sheet)) := by
  obtain @⟨template, _, m₁, m₂, m₃, m₄, loaded, cloned, through, selected, read, told, copied⟩ := h
  have reaches₁ := Within.reaches (reads_loadTemplateSource _).within (.refl sound) loaded
  have reaches₂ := Within.reaches (within_fetchTemplate _ _ fun _ _ _ => trivial) reaches₁ cloned
  obtain ⟨rfl, -⟩ := isFile_of_selectSubmission selected
  have reaches₄ := Within.reaches (reads_printLine _).within reaches₂ told
  obtain ⟨tree₄, read₄⟩ : m₄.tree = m₃.tree ∧
      readBytes selection.path m₄ = (.ok upload, m₄) := by
    cases told
    exact ⟨rfl, congrArg (·, _) (Prod.mk.inj read).1⟩
  obtain ⟨l, at_sheet, sheet_stands⟩ := through.node?_cases reaches₁
  obtain ⟨k, at_upload, upload_stands⟩ := copied_of_copyFile reaches₄ read₄ copied
  -- the copy of the upload changes only what is at its place
  have grows : Grows (Scope.path m.tree m.home s.uploadPath) m₄.tree m'.tree :=
    ((within_copyFile fun _ _ => id).at_end copied reaches₄).grows_of_quiet
      ((quiet_copyFile _ _).at_end copied)
  refine ⟨l, k, at_sheet, at_upload,
    upload_stands.resolve_left (files _ (.upload id) k at_upload), fun apart => ?_⟩
  have sheet_there : m₄.tree.node? l = some (.file sheet) := by
    have printed : m.Prints m₁ := (reads_loadTemplateSource _).at_end loaded
    rw [Machine.Prints] at printed
    rw [← tree₄, printed] at sheet_stands
    obtain directory | there | ⟨x, below, free⟩ := sheet_stands
    · exact absurd (grows.directory l directory) (files _ (.sheet id) l at_sheet)
    · exact there
    · exact absurd free (lasting l at_sheet x below)
  refine grows.kept l sheet ?_ sheet_there
  rintro (at_place | ⟨dir, name, rfl, at_place⟩)
  · exact apart (at_place.unique at_upload)
  · have stands : m₄.tree.node? (dir ++ [name]) ≠ none := sheet_there ▸ Option.some_ne_none _
    exact files _ (.upload id) dir at_place
      (grows.directory dir (reaches₄.sound.tree.inDirectory dir name stands))

/-- **The upload does not replace the sheet.**  When the sources were fetched and the support
library is installed, the upload stands where it goes, and if the sheet goes elsewhere it stands
there too: with the bytes of the file that was chosen, and of the one in the clone.  No directory
may be in the way, and the path of the sheet may not lead into a temporary directory that is still
to be made. -/
theorem sheet_beside_upload {m₁ : Machine} {found : String × Path × List String} {library : Path}
    (sound : m.IsSound) (fetched : sources s none m = (.ok found, m₁))
    (installed : installSupportLibrary s.project m₁ = (.ok library, m'))
    (files : ∀ p, Copied s none p → ∀ l, m.tree.IsPlace m.home p l →
      m'.tree.node? l ≠ some .directory)
    (lasting : ∀ l, m.tree.IsPlace m.home s.sheetPath l → ∀ x, m.scratch ++ [x] <+: l →
      m.tree.node? (m.scratch ++ [x]) ≠ none) :
    ∃ selection sheet upload l k, Fetches s m selection sheet upload m₁ ∧
      m.tree.IsPlace m.home s.sheetPath l ∧ m.tree.IsPlace m.home s.uploadPath k ∧
      m'.tree.node? k = some (.file upload) ∧ (l ≠ k → m'.tree.node? l = some (.file sheet)) := by
  obtain ⟨selection, sheet, upload, fetches, -⟩ := fetches_of_ok fetched
  obtain ⟨d, project⟩ := fetches.directory (.refl sound)
  have reaches := Within.reaches (within_fetched fun _ _ _ _ _ => trivial) (.refl sound) fetched
  -- the support library is only put where nothing stands
  have library_new : m.Stays (fun _ n => n = none) m₁ (installSupportLibrary s.project m₁).2 :=
    stays_installSupportLibrary fun _ _ _ allowed =>
      allowed.resolve_right fun no_directory => no_directory ⟨d, project⟩
  rw [installed] at library_new
  have grows := (library_new reaches).grows_of_quiet
    ((quiet_installSupportLibrary _).at_end installed)
  obtain ⟨l, k, at_sheet, at_upload, upload_there, sheet_there⟩ := fetches.stand sound
    (fun p copied l place directory => files p copied l place (grows.directory l directory)) lasting
  exact ⟨selection, sheet, upload, l, k, fetches, at_sheet, at_upload,
    grows.kept k upload nofun upload_there,
    fun apart => grows.kept l sheet nofun (sheet_there apart)⟩

/-- A machine with a source for the sheet, whose clone holds it, and with an upload. -/
def classroom : Machine where
  home := ["work"]
  scratch := ["tmp"]
  scratchName := "grading"
  bundle := ["bundle"]
  tree :=
    { nodes := [(["tmp"], .directory), (["work"], .directory), (["bundle"], .directory),
        (["bundle", "AutograderLib.lean"], .file (Content.bytes "-- library")),
        (["work", "autograder_config.json"], .file (Content.bytes
          "\x7b\"public_repo\": \"course/sheets\", \"assignment_path\": \"Sheet.lean\"\x7d")),
        (["work", "upload"], .directory),
        (["work", "upload", "hw.lean"], .file (Content.bytes "-- upload"))] }
  replies := [.ended { checkout := [("Sheet.lean", some "-- sheet")] }]

namespace classroom

/-- The settings of a run on it. -/
def settings (reference : String) : Settings where
  project := .ofString "project"
  reference
  submissions := .ofString "upload"

/-- Its sources are fetched, and the support library is installed. -/
def provide (reference : String) : Job Unit := do
  let _ ← sources (settings reference) none
  let _ ← installSupportLibrary (settings reference).project

theorem isSound : classroom.IsSound := by
  refine ⟨FileTree.isSound_of_nodes (fun e among => ?_) nofun, rfl,
    FileTree.walk_single _ [] (by decide) (by decide), nofun⟩
  simp only [classroom, List.mem_cons, List.not_mem_nil, or_false] at among
  obtain rfl | rfl | rfl | rfl | rfl | rfl | rfl := among <;> rfl

/-- Whether that ended well, and left files as they are to be. -/
def leaves (reference : String) (check : FileTree → Bool) : Bool :=
  match provide reference classroom with
  | (.ok (), m') => check m'.tree
  | _ => false

theorem exists_of_leaves {reference : String} {check : FileTree → Bool}
    (h : leaves reference check = true) : ∃ found m₁ library m',
      sources (settings reference) none classroom = (.ok found, m₁) ∧
        installSupportLibrary (settings reference).project m₁ = (.ok library, m') ∧
        check m'.tree = true := by
  unfold leaves at h
  split at h
  · next m' provided =>
    obtain ⟨found, m₁, fetched, provided⟩ := bind_eq_ok_iff.1 provided
    obtain ⟨library, m₂, installed, provided⟩ := bind_eq_ok_iff.1 provided
    cases provided
    exact ⟨found, m₁, library, _, fetched, installed, h⟩
  · cases h

end classroom

/-- A sheet and an upload, each with the bytes that were read. -/
theorem sheet_beside_upload_in_classroom :
    ∃ (selection : Selection) (sheet upload : ByteArray) (m₁ m' : Machine),
    Fetches (classroom.settings "Assignment") classroom selection sheet upload m₁ ∧
      m'.tree.node? ["work", "project", "Submission.lean"] = some (.file upload) ∧
      m'.tree.node? ["work", "project", "Assignment.lean"] = some (.file sheet) := by
  have sheet_place : classroom.tree.IsPlace ["work"] (classroom.settings "Assignment").sheetPath
      ["work", "project", "Assignment.lean"] := by
    unfold FileTree.IsPlace
    decide +kernel
  have upload_place : classroom.tree.IsPlace ["work"] (classroom.settings "Assignment").uploadPath
      ["work", "project", "Submission.lean"] := by
    unfold FileTree.IsPlace
    decide +kernel
  obtain ⟨found, m₁, library, m', fetched, installed, files⟩ := classroom.exists_of_leaves
    (show classroom.leaves "Assignment" (fun t =>
      t.node? ["work", "project", "Assignment.lean"] != some .directory &&
        t.node? ["work", "project", "Submission.lean"] != some .directory) = true by decide +kernel)
  obtain ⟨sheet_file, upload_file⟩ := Bool.and_eq_true_iff.1 files
  obtain ⟨selection, sheet, upload, l, k, fetches, at_sheet, at_upload, upload_there,
      sheet_there⟩ :=
    sheet_beside_upload classroom.isSound fetched installed
      (fun p copied l place => by
        cases copied with
        | sheet => exact sheet_place.unique place ▸ bne_iff_ne.1 sheet_file
        | upload => exact upload_place.unique place ▸ bne_iff_ne.1 upload_file)
      (fun l place x below => by
        obtain rfl := sheet_place.unique place
        obtain ⟨rest, same⟩ := below
        exact absurd (List.cons.inj same).1 (by decide))
  obtain rfl := sheet_place.unique at_sheet
  obtain rfl := upload_place.unique at_upload
  exact ⟨selection, sheet, upload, m₁, m', fetches, upload_there, sheet_there (by decide)⟩

/-- **The upload replaces the sheet** of a module that is called like the upload. -/
theorem upload_replaces_sheet : ∃ found m₁ library m',
    sources (classroom.settings "Submission") none classroom = (.ok found, m₁) ∧
      installSupportLibrary (classroom.settings "Submission").project m₁ = (.ok library, m') ∧
      classroom.tree.IsPlace classroom.home (classroom.settings "Submission").sheetPath
        ["work", "project", "Submission.lean"] ∧
      m'.tree.node? ["work", "project", "Submission.lean"] =
        some (.file (Content.bytes "-- upload")) := by
  obtain ⟨found, m₁, library, m', fetched, installed, there⟩ := classroom.exists_of_leaves
    (show classroom.leaves "Submission" (fun t =>
      t.node? ["work", "project", "Submission.lean"] ==
        some (.file (Content.bytes "-- upload"))) = true by decide +kernel)
  refine ⟨found, m₁, library, m', fetched, installed, ?_, beq_iff_eq.1 there⟩
  unfold FileTree.IsPlace
  decide +kernel

end GradingRun

end ProofGrading
