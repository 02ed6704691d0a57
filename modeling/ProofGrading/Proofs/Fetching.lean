import ProofGrading.Proofs.Calls
import ProofGrading.Proofs.FileWriting

/-!
# Proofs/Fetching — where the sheet and the upload come from

A sheet is fetched when the clone ends well and the sheet is in it (`TemplateSource.FetchesSheet`);
a run without a module fetches the sheet and then chooses and copies an upload
(`GradingRun.Fetches`).  Main statement: with its sources at hand a run has made the clone, if it
fetched them, and nothing else (`GradingRun.calls_sources`).
-/

namespace ProofGrading

open Job Machine

/-! ## Files that are there -/

namespace Job

variable {m m' : Machine} {p dir : Path}

theorem exists_readBytes (h : isFile p m = (.ok true, m')) :
    ∃ data, readBytes p m = (.ok data, m) := by
  obtain ⟨data, read⟩ :=
    FileTree.exists_read_of_isFile (eq_ok_of_mapError (Prod.mk.inj h).1)
  refine ⟨data, ?_⟩
  rw [readBytes, look, read]
  rfl

theorem eq_of_filesAmong {candidates : List (List String)}
    {r : Except Failure (List (List String))} (h : filesAmong dir candidates m = (r, m')) :
    m' = m := by
  induction candidates generalizing r m m' with
  | nil =>
    cases h
    rfl
  | cons names rest ih =>
    obtain ⟨e, failed, -⟩ | ⟨here, m₁, looked, searched⟩ := bind_cases h
    · exact eq_of_look failed
    · rw [eq_of_look looked] at searched
      obtain ⟨e, failed, -⟩ | ⟨others, m₂, searched, ended⟩ := bind_cases searched
      · exact ih failed
      · cases ended
        exact ih searched

/-- What is found among the files is a file. -/
theorem isFile_of_filesAmong {candidates found : List (List String)} {names : List String}
    (h : filesAmong dir candidates m = (.ok found, m')) (among : names ∈ found) :
    isFile (dir.join ⟨.relative, names⟩) m = (.ok true, m) := by
  induction candidates generalizing found m m' with
  | nil =>
    cases h
    cases among
  | cons first rest ih =>
    obtain ⟨here, m₁, looked, h⟩ := bind_eq_ok_iff.1 h
    obtain ⟨others, m₂, searched, h⟩ := bind_eq_ok_iff.1 h
    cases h
    obtain rfl := eq_of_look looked
    cases here with
    | false => exact ih searched among
    | true =>
      obtain rfl | among := List.mem_cons.1 among
      · exact looked
      · exact ih searched among

/-- **The upload that is chosen is a file.** -/
theorem isFile_of_selectSubmission {selection : Selection}
    (h : selectSubmission dir m = (.ok selection, m')) :
    m' = m ∧ isFile selection.path m = (.ok true, m) := by
  obtain ⟨isDir, m₁, looked, listed⟩ := bind_eq_ok_iff.1 h
  obtain rfl := eq_of_look looked
  split at listed
  · cases listed
  obtain ⟨names, m₂, below, filtered⟩ := bind_eq_ok_iff.1 listed
  obtain rfl : m₂ = m₁ := by
    unfold namesBelow at below
    split at below <;> cases below
    rfl
  obtain ⟨candidates, m₃, searched, chosen⟩ := bind_eq_ok_iff.1 filtered
  obtain rfl := eq_of_filesAmong searched
  cases first : firstPath? candidates with
  | none =>
    rw [first] at chosen
    cases chosen
  | some names =>
    rw [first] at chosen
    cases chosen
    exact ⟨rfl, isFile_of_filesAmong searched (mem_of_firstPath? first)⟩

end Job

namespace TemplateSource

/-- The call that clones the repository for a temporary directory. -/
def cloneCall (s : TemplateSource) (dir : Path) (timeout : Int) : Call :=
  ⟨["git", "clone", "--depth", "1", s.url, (dir.child "template").text], timeout, none, none⟩

/-- A clone of a repository. -/
def IsClone (c : Call) : Prop :=
  ∃ (s : TemplateSource) (dir : Path) (timeout : Int), c = s.cloneCall dir timeout

/-- The sheet in a clone. -/
def sheetIn (s : TemplateSource) (dir : Path) : Path := (dir.child "template").child s.sheet

variable {template : TemplateSource} {target : Path} {timeout : Int} {m m' : Machine}

/-- **A sheet is fetched**: the repository is cloned into a temporary directory, which ends well,
the sheet is read there, and it is copied. -/
inductive FetchesSheet (template : TemplateSource) (target : Path) (timeout : Int) (m : Machine)
    (sheet : ByteArray) (m' : Machine) : Prop
  | intro {dir : Path} {exit : Exit} {m₁ m₂ m₃ m₄ : Machine}
      (announced : printLine s!"Fetching reference sheet from {template.url}..." m = (.ok (), m₁))
      (prepared : makeScratch m₁ = (.ok dir, m₂))
      (cloned : call (template.cloneCall dir timeout) m₂ = (.ok (.ended exit), m₃))
      (code : exit.code = 0)
      (read : readBytes (template.sheetIn dir) m₃ = (.ok sheet, m₃))
      (copied : copyFile (template.sheetIn dir) target m₃ = (.ok (), m₄))
      (told : printLine s!"  Reference sheet placed at {target.text}"
        { m₄ with tree := m₄.tree.prune dir.names } = (.ok (), m'))

theorem exists_of_cloneTemplate {dir : Path}
    (h : cloneTemplate template (dir.child "template") timeout m = (.ok (), m')) :
    ∃ exit, call (template.cloneCall dir timeout) m = (.ok (.ended exit), m') ∧ exit.code = 0 := by
  obtain ⟨reply, m₁, called, h⟩ := bind_eq_ok_iff.1 h
  cases reply with
  | ended exit =>
    dsimp only at h
    split at h
    · next code =>
      cases h
      exact ⟨exit, called, code⟩
    · cases h
  | _ => cases h

/-- A fetch that ended went through all of its steps. -/
theorem fetchesSheet_of_ok {placed : Path}
    (h : fetchTemplate template target timeout m = (.ok placed, m')) :
    ∃ sheet, template.FetchesSheet target timeout m sheet m' := by
  obtain ⟨_, m₁, announced, h⟩ := bind_eq_ok_iff.1 h
  obtain ⟨_, m₂, fetched, h⟩ := bind_eq_ok_iff.1 h
  obtain ⟨_, m₃, told, h⟩ := bind_eq_ok_iff.1 h
  cases h
  obtain ⟨dir, m₄, m₅, prepared, worked, rfl⟩ := withScratch_eq_ok_iff.1 fetched
  obtain ⟨_, m₆, cloned, checked⟩ := bind_eq_ok_iff.1 worked
  obtain ⟨there, m₇, looked, copied⟩ := bind_eq_ok_iff.1 checked
  obtain rfl := eq_of_look looked
  split at copied
  · cases copied
  · next found =>
    obtain rfl : there = true := by simpa using found
    obtain ⟨sheet, read⟩ := exists_readBytes looked
    obtain ⟨exit, cloned, code⟩ := exists_of_cloneTemplate cloned
    exact ⟨sheet, .intro announced prepared cloned code read copied told⟩

theorem makesOne_cloneTemplate (template : TemplateSource) (dir : Path) (timeout : Int) :
    MakesOne IsClone (cloneTemplate template (dir.child "template") timeout) := by
  refine .bind_quiet (makesOne_call ⟨template, dir, timeout, rfl⟩) fun reply => ?_
  cases reply with
  | ended exit => exact .ite (fun _ => .done lasting_quiet _) fun _ => .fail lasting_quiet _
  | _ => exact .fail lasting_quiet _

/-- **A fetch is one call.** -/
theorem makesOne_fetchTemplate (template : TemplateSource) (target : Path) (timeout : Int) :
    MakesOne IsClone (fetchTemplate template target timeout) := by
  refine .quiet_bind (reads_printLine _).quiet fun _ _ => .bind_quiet (.withScratch fun dir => ?_)
    fun _ => (reads_printLine _).quiet.bind lasting_quiet fun _ => .done lasting_quiet _
  exact (makesOne_cloneTemplate template dir timeout).bind_quiet fun _ =>
    .bind lasting_quiet (.look lasting_quiet _) fun there =>
      .ite (fun _ => .fail lasting_quiet _) fun _ => quiet_copyFile _ _

end TemplateSource

namespace Settings

/-- Where the sheet goes. -/
def sheetPath (s : Settings) : Path := s.project.ofModule s.reference

/-- Where the upload goes. -/
def uploadPath (s : Settings) : Path := s.project.child (submissionModule ++ leanSuffix)

/-- Where the support library goes. -/
def libraryPath (s : Settings) : Path := s.project.child supportLibrary

end Settings

namespace GradingRun

open TemplateSource (IsClone)

variable {s : Settings} {given : Option (String × String)} {m m' : Machine}

/-- **The sources are given**: a module is named, and a file; an empty name is none. -/
def AreGiven : Option (String × String) → Prop
  | some (home, _) => home ≠ ""
  | none => False

/-- **The sources are fetched**: the sheet, and then the upload, which is chosen, read and
copied. -/
inductive Fetches (s : Settings) (m : Machine) (selection : Selection) (sheet upload : ByteArray)
    (m' : Machine) : Prop
  | intro {template : TemplateSource} {placed : Path} {m₁ m₂ m₃ m₄ : Machine}
      (loaded : loadTemplateSource s.provisioning m = (.ok template, m₁))
      (fetched : fetchTemplate template s.sheetPath TemplateSource.cloneTimeout m₁ =
        (.ok placed, m₂))
      (through : template.FetchesSheet s.sheetPath TemplateSource.cloneTimeout m₁ sheet m₂)
      (selected : selectSubmission s.submissions m₂ = (.ok selection, m₃))
      (read : readBytes selection.path m₃ = (.ok upload, m₃))
      (told : printLine s!"Selected submission {selection.path.text}" m₃ = (.ok (), m₄))
      (copied : copyFile selection.path s.uploadPath m₄ = (.ok (), m'))

/-- Unless the sources are given they are fetched. -/
theorem sources_of_not_areGiven (s : Settings) (h : ¬AreGiven given) :
    sources s given = sources s none := by
  match given, h with
  | none, _ => rfl
  | some (home, file), h =>
    obtain rfl : home = "" := Decidable.not_not.1 h
    rfl

/-- **Sources that were fetched** are the sheet's module and the copy of the upload. -/
theorem fetches_of_ok {found : String × Path × List String}
    (h : sources s none m = (.ok found, m')) : ∃ selection sheet upload,
      Fetches s m selection sheet upload m' ∧
        found = (s.reference, s.uploadPath, [selection.warning]) := by
  obtain ⟨template, m₁, loaded, h⟩ := bind_eq_ok_iff.1 h
  obtain ⟨_, m₂, fetched, h⟩ := bind_eq_ok_iff.1 h
  obtain ⟨selection, m₃, selected, h⟩ := bind_eq_ok_iff.1 h
  obtain ⟨_, m₄, told, h⟩ := bind_eq_ok_iff.1 h
  obtain ⟨placed, m₅, copied, h⟩ := bind_eq_ok_iff.1 h
  cases h
  obtain ⟨_, m₆, copied, h⟩ := bind_eq_ok_iff.1 copied
  cases h
  obtain ⟨sheet, through⟩ := TemplateSource.fetchesSheet_of_ok fetched
  obtain ⟨rfl, isFile⟩ := isFile_of_selectSubmission selected
  obtain ⟨upload, read⟩ := exists_readBytes isFile
  exact ⟨selection, sheet, upload, .intro loaded fetched through selected read told copied, rfl⟩

/-- **The sources are at hand**: given, and the file is there; or fetched, with a clone. -/
inductive Ready (s : Settings) (m : Machine) :
    Option (String × String) → String → Path → List Call → Machine → Prop
  | given {home file : String} (named : AreGiven (some (home, file)))
      (there : isFile (.ofString file) m = (.ok true, m)) :
      Ready s m (some (home, file)) home (.ofString file) [] m
  | fetched {given : Option (String × String)} {selection : Selection} {sheet upload : ByteArray}
      {c : Call} {m' : Machine} (unnamed : ¬AreGiven given) (clone : IsClone c)
      (fetches : Fetches s m selection sheet upload m') :
      Ready s m given s.reference s.uploadPath [c] m'

theorem makesOne_sources (s : Settings) : MakesOne IsClone (sources s none) :=
  .quiet_bind (reads_loadTemplateSource _).quiet fun template _ =>
    (TemplateSource.makesOne_fetchTemplate template _ _).bind_quiet fun _ =>
      (reads_selectSubmission _).quiet.bind lasting_quiet fun _ =>
        (reads_printLine _).quiet.bind lasting_quiet fun _ =>
          (quiet_placeSubmission _ _).bind lasting_quiet fun _ => .done lasting_quiet _

/-- **The calls that the sources take**: a clone if they are fetched, and no other. -/
theorem calls_sources {r : Except Failure (String × Path × List String)}
    (h : sources s given m = (r, m')) :
    (∃ f, r = .error f) ∧ (m.Quiet m' ∨ ¬AreGiven given ∧ ∃ c, IsClone c ∧ m.Makes [c] m') ∨
      ∃ home source notes before, r = .ok (home, source, notes) ∧
        Ready s m given home source before m' ∧ m.Makes before m' := by
  by_cases named : AreGiven given
  · obtain ⟨home, file, rfl⟩ : ∃ home file, given = some (home, file) := by
      cases given with
      | none => cases named
      | some given => exact ⟨given.1, given.2, rfl⟩
    have some_name : ¬home.isEmpty = true := fun h => named (String.isEmpty_iff.1 h)
    unfold sources at h
    dsimp only at h
    rw [if_neg some_name] at h
    obtain ⟨f, failed, rfl⟩ | ⟨there, m₁, looked, ended⟩ := bind_cases h
    · obtain rfl := eq_of_look failed
      exact .inl ⟨⟨f, rfl⟩, .inl (.refl _)⟩
    · obtain rfl := eq_of_look looked
      split at ended
      · cases ended
        exact .inl ⟨⟨_, rfl⟩, .inl (.refl _)⟩
      · next found =>
        cases ended
        have isThere : there = true := by simpa using found
        exact .inr ⟨home, .ofString file, [], [], rfl, .given named (isThere ▸ looked), .refl _⟩
  · rw [sources_of_not_areGiven s named] at h
    cases r with
    | error f =>
      exact .inl ⟨⟨f, rfl⟩, ((makesOne_sources s).cases h).imp_right fun made => ⟨named, made⟩⟩
    | ok found =>
      obtain ⟨selection, sheet, upload, fetches, rfl⟩ := fetches_of_ok h
      obtain ⟨c, hc, made⟩ := (makesOne_sources s).exists_of_ok h
      exact .inr ⟨_, _, _, [c], rfl, .fetched named hc fetches, made⟩

end GradingRun

end ProofGrading
