import ProofGrading.Proofs.Containment
import ProofGrading.Proofs.Fetching
import ProofGrading.Proofs.ResultsDocument

/-!
# Proofs/SourceFile — reading the provisioning file

The file names a repository, as an owner and a name with a slash between them, and the path of a
sheet.  Which objects are read is told by their fields (`TemplateSource.ofFields_eq_ok_iff`).  Main
statement: a provisioning file is read or reported as a configuration error just when nothing is
there or it can be read as a text (`Job.source_read_or_reported_iff`); bytes that
are no text are not (`Job.loadTemplateSource_badText`).
-/

namespace ProofGrading

/-! ## Fields -/

/-- What is read as a text from an object was written as that text. -/
theorem Json.string_scalar_eq_ok_iff {v : Json} {s : String} :
    v.scalar.string = .ok s ↔ v = .str s := by
  cases v <;> simp [Json.scalar, Scalar.string]

namespace TemplateSource

variable {fields : List (String × Json)} {source : TemplateSource} {s : String}

/-- A name of an owner or of a repository: some letters, digits, dots, hyphens. -/
def IsName (s : String) : Prop := s ≠ "" ∧ ∀ c ∈ s.toList, isNameChar c = true

/-- **A source is well formed**: its repository is an owner and a name with a slash between them,
and its sheet has a path that can be written. -/
structure IsWellFormed (source : TemplateSource) : Prop where
  repository : ∃ owner name, IsName owner ∧ IsName name ∧ source.repository = owner ++ "/" ++ name
  sheet : source.sheet ≠ ""
  whole : Text.holdsHalf source.sheet = false

theorem IsName.not_mem (h : IsName s) {c : Char} (other : isNameChar c = false) : c ∉ s.toList :=
  fun among => Bool.false_ne_true (other.symm.trans (h.2 c among))

theorem isName_iff {cs : List Char} :
    IsName (String.ofList cs) ↔ cs.isEmpty = false ∧ cs.all isNameChar = true := by
  simp [IsName, ← String.toList_inj]

/-- Neither the slash nor the mark of a half is in a name. -/
theorem isNameChar_slash_mark : isNameChar '/' = false ∧ isNameChar Text.mark = false := by
  decide +kernel

/-- **An owner and a name with a slash between them**, and nothing else, is a repository. -/
theorem isRepository_iff : isRepository s = true ↔
    ∃ owner name, IsName owner ∧ IsName name ∧ s = owner ++ "/" ++ name := by
  constructor
  · intro h
    unfold isRepository at h
    split at h
    · next owner name split =>
      simp only [Bool.and_eq_true, Bool.not_eq_true'] at h
      obtain ⟨⟨⟨some_owner, some_name⟩, owner_chars⟩, name_chars⟩ := h
      refine ⟨.ofList owner, .ofList name, isName_iff.2 ⟨some_owner, owner_chars⟩,
        isName_iff.2 ⟨some_name, name_chars⟩, ?_⟩
      have joined := Text.join_splitOn '/' s.toList
      rw [split] at joined
      rw [← String.toList_inj, ← joined]
      simp [Text.joinWith]
    · cases h
  · rintro ⟨owner, name, is_owner, is_name, rfl⟩
    have slash := isNameChar_slash_mark.1
    have split : Text.splitOn '/' (owner ++ "/" ++ name).toList = [owner.toList, name.toList] := by
      rw [String.toList_append, String.toList_append, List.append_assoc]
      exact (Text.splitOn_append_cons (is_owner.not_mem slash) _).trans
        (congrArg _ (Text.splitOn_of_not_mem (is_name.not_mem slash)))
    rw [← String.ofList_toList (s := owner), isName_iff] at is_owner
    rw [← String.ofList_toList (s := name), isName_iff] at is_name
    unfold isRepository
    rw [split]
    simp [is_owner, is_name]

theorem IsWellFormed.holdsHalf_repository (h : source.IsWellFormed) :
    Text.holdsHalf source.repository = false := by
  obtain ⟨owner, name, is_owner, is_name, joined⟩ := h.repository
  have mark := isNameChar_slash_mark.2
  have no_slash : Text.mark ≠ '/' := by decide
  refine Text.holdsHalf_of_unmarked ?_
  rw [joined]
  simp [is_owner.not_mem mark, is_name.not_mem mark, no_slash]

theorem repositoryName_eq_ok_iff {v : Json} : repositoryName v.scalar = .ok s ↔
    v = .str s ∧ Text.holdsHalf s = false ∧ isRepository s = true := by
  unfold repositoryName
  rw [← Json.string_scalar_eq_ok_iff]
  cases v.scalar.string with
  | error e => simp [bind, Except.bind]
  | ok t =>
    simp only [bind, Except.bind, Scalar.wholeText]
    grind

theorem nonEmptyText_eq_ok_iff {v : Json} : nonEmptyText v.scalar = .ok s ↔
    v = .str s ∧ Text.holdsHalf s = false ∧ s ≠ "" := by
  unfold nonEmptyText
  rw [← Json.string_scalar_eq_ok_iff]
  cases v.scalar.string with
  | error e => simp [bind, Except.bind]
  | ok t =>
    simp only [bind, Except.bind, Scalar.wholeText]
    grind [String.isEmpty_iff]

/-- **What an object has to say to be read as a source.** -/
theorem ofFields_eq_ok_iff : ofFields fields = .ok source ↔
    Json.field? fields "public_repo" = some (.str source.repository) ∧
      Json.field? fields "assignment_path" = some (.str source.sheet) ∧ source.IsWellFormed := by
  unfold ofFields
  simp only [Checked.toExcept_eq_ok_iff, Checked.seq_eq_valid_iff, Checked.map_eq_valid_iff,
    Field.required_eq_valid_iff, repositoryName_eq_ok_iff, nonEmptyText_eq_ok_iff]
  constructor
  · rintro ⟨_, sheet, ⟨repository, ⟨_, named, rfl, -, valid⟩, rfl⟩, ⟨_, placed, rfl, whole, some⟩,
      rfl⟩
    exact ⟨named, placed, isRepository_iff.1 valid, some, whole⟩
  · rintro ⟨named, placed, formed⟩
    exact ⟨_, source.sheet, ⟨source.repository,
      ⟨_, named, rfl, formed.holdsHalf_repository, isRepository_iff.2 formed.repository⟩, rfl⟩,
      ⟨_, placed, rfl, formed.whole, formed.sheet⟩, rfl⟩

end TemplateSource

/-! ## The file -/

namespace Job

variable {p : Path} {m m' : Machine} {text : List Char} {source : TemplateSource} {reason : String}

/-- **A path offers a text, or nothing at all**: where something is there, it is a file that can be
read as a text, and reading this stops at no integer with too many digits and at no brackets nested
too deeply. -/
def OffersText (p : Path) (m : Machine) : Prop :=
  m.tree.isThere m.home p = .ok false ∨
    ∃ text, readText p m = (.ok text, m) ∧
      Json.decodeChars Json.nestingLimit text ≠ .error .hugeInteger ∧
      Json.decodeChars Json.nestingLimit text ≠ .error .tooDeep

/-- **A source is read from a file**: it is well formed, and it is what the fields of the object in
the file say. -/
structure IsRead (p : Path) (m : Machine) (source : TemplateSource) : Prop where
  loaded : loadTemplateSource p m = (.ok source, m)
  formed : source.IsWellFormed
  said : ∃ text fields, readText p m = (.ok text, m) ∧
    Json.decodeChars Json.nestingLimit text = .ok (.obj fields) ∧
    Json.field? fields "public_repo" = some (.str source.repository) ∧
    Json.field? fields "assignment_path" = some (.str source.sheet)

/-- A reason that is a provisioning file's own: it names the file and what is wrong with it. -/
inductive NamesFile (file : String) : String → Prop
  | absent : NamesFile file ("Provisioning config not found: " ++ file)
  | noJson (flaw : String) :
      NamesFile file s!"Provisioning config {file} is not valid JSON: {flaw}"
  | misfit (details : String) :
      NamesFile file s!"Provisioning config {file} is invalid: {details}"

/-- **A file is reported**: reading it ends with a configuration error of its own that names it, and
with that a run ends that is to fetch its sheet. -/
structure IsReported (p : Path) (m : Machine) (reason : String) : Prop where
  failed : loadTemplateSource p m = (.error (.configuration reason), m)
  named : NamesFile p.text reason
  told : ∀ s inv m₀, Settings.find (.ofString inv.settings) m₀ = (.ok s, m) →
    s.provisioning = p → ¬GradingRun.AreGiven inv.given →
      GradingRun.Concludes inv m₀ (.failed s (.configuration reason)) m

/-- What keeps the sources from being fetched is what the run ends with. -/
theorem IsReported.of_failed
    (failed : loadTemplateSource p m = (.error (.configuration reason), m))
    (named : NamesFile p.text reason) : IsReported p m reason where
  failed := failed
  named := named
  told s inv m₀ found same unnamed := by
    subst same
    refine .failed found ?_
    have unfetched : GradingRun.sources s inv.given m = (.error (.configuration reason), m) := by
      rw [GradingRun.sources_of_not_areGiven s unnamed]
      exact bind_error failed _
    exact bind_error unfetched _

theorem isThere_of_readText (read : readText p m = (.ok text, m')) :
    m.tree.isThere m.home p = .ok true := by
  obtain ⟨data, m₁, read, -⟩ := bind_eq_ok_iff.1 read
  exact FileTree.isThere_of_read (eq_ok_of_mapError (Prod.mk.inj read).1)

/-- What is read from a text that is JSON, or not. -/
def sourceOf (file : String) : Except Json.DecodeError Json → Except Failure TemplateSource
  | .error e =>
    .error (e.failure fun flaw =>
      .configuration s!"Provisioning config {file} is not valid JSON: {flaw}")
  | .ok (.obj fields) =>
    (TemplateSource.ofFields fields).mapError fun e =>
      .configuration s!"Provisioning config {file} is invalid: {e.message}"
  | .ok _ =>
    .error (.configuration
      s!"Provisioning config {file} is invalid: {Failure.wrongType.message}")

theorem loadTemplateSource_of_readText (read : readText p m = (.ok text, m)) :
    loadTemplateSource p m = (sourceOf p.text (Json.decodeChars Json.nestingLimit text), m) := by
  have there : isThere p m = (.ok true, m) := by
    rw [isThere, look, isThere_of_readText read]
    rfl
  unfold loadTemplateSource
  refine (bind_ok there _).trans ((bind_ok read _).trans ?_)
  generalize Json.decodeChars Json.nestingLimit text = decoded
  cases decoded with
  | error e => rfl
  | ok v =>
    cases v with
    | obj fields =>
      dsimp only [sourceOf]
      cases TemplateSource.ofFields fields <;> rfl
    | _ => rfl

/-- **Where nothing is there, the file is reported.** -/
theorem isReported_of_absent (absent : m.tree.isThere m.home p = .ok false) :
    IsReported p m ("Provisioning config not found: " ++ p.text) := by
  refine .of_failed ?_ .absent
  have looked : isThere p m = (.ok false, m) := by
    rw [isThere, look, absent]
    rfl
  exact bind_ok looked _

/-- **A text is read as a source or reported.** -/
theorem source_read_or_reported (read : readText p m = (.ok text, m))
    (small : Json.decodeChars Json.nestingLimit text ≠ .error .hugeInteger)
    (shallow : Json.decodeChars Json.nestingLimit text ≠ .error .tooDeep) :
    (∃ source, IsRead p m source) ∨ ∃ reason, IsReported p m reason := by
  have loaded := loadTemplateSource_of_readText read
  cases decoded : Json.decodeChars Json.nestingLimit text with
  | error e =>
    rw [decoded] at loaded
    cases e with
    | invalid flaw => exact .inr ⟨_, .of_failed loaded (.noJson flaw.message)⟩
    | hugeInteger => exact absurd decoded small
    | tooDeep => exact absurd decoded shallow
  | ok v =>
    rw [decoded] at loaded
    cases v with
    | obj fields =>
      rw [sourceOf] at loaded
      cases checked : TemplateSource.ofFields fields with
      | ok source =>
        rw [checked] at loaded
        obtain ⟨repository, sheet, formed⟩ := TemplateSource.ofFields_eq_ok_iff.1 checked
        exact .inl ⟨source, loaded, formed, text, fields, read, decoded, repository, sheet⟩
      | error e =>
        rw [checked] at loaded
        exact .inr ⟨_, .of_failed loaded (.misfit e.message)⟩
    | _ => exact .inr ⟨_, .of_failed loaded (.misfit Failure.wrongType.message)⟩

theorem readText_cases (p : Path) (m : Machine) : (∃ text, readText p m = (.ok text, m)) ∨
    ∃ e, readText p m = (.error e, m) ∧ e.exitCode? = none := by
  have looked : readBytes p m = ((m.tree.read m.home p).mapError .files, m) := rfl
  cases read : m.tree.read m.home p with
  | error fault =>
    rw [read] at looked
    exact .inr ⟨.files fault, bind_error looked _, rfl⟩
  | ok data =>
    rw [read] at looked
    rw [readText, bind_ok looked]
    cases String.fromUTF8? data with
    | some text => exact .inl ⟨_, rfl⟩
    | none => exact .inr ⟨.badText, rfl, rfl⟩

/-- **What offers no text ends reading** for a reason that does not explain itself. -/
theorem exists_of_not_offersText (h : ¬OffersText p m) :
    ∃ e, loadTemplateSource p m = (.error e, m) ∧ e.exitCode? = none := by
  obtain ⟨not_absent, unread⟩ := not_or.1 h
  have looked : isThere p m = ((m.tree.isThere m.home p).mapError .files, m) := rfl
  obtain ⟨text, read⟩ | ⟨e, failed, foreign⟩ := readText_cases p m
  · -- it is a text, so reading stops inside of it
    have stops : Json.decodeChars Json.nestingLimit text = .error .hugeInteger ∨
        Json.decodeChars Json.nestingLimit text = .error .tooDeep := by
      by_contra goes_on
      exact unread ⟨text, read, not_or.1 goes_on⟩
    have loaded := loadTemplateSource_of_readText read
    obtain huge | deep := stops
    · rw [huge] at loaded
      exact ⟨_, loaded, rfl⟩
    · rw [deep] at loaded
      exact ⟨_, loaded, rfl⟩
  · cases there : m.tree.isThere m.home p with
    | error fault =>
      rw [there] at looked
      exact ⟨.files fault, bind_error looked _, rfl⟩
    | ok found =>
      cases found with
      | false => exact absurd there not_absent
      | true =>
        rw [there] at looked
        exact ⟨e, (bind_ok looked _).trans (bind_error failed _), foreign⟩

/-- **A provisioning file is read or reported** just when it offers a text or is not there: what is
read is well formed and what the file says, what is reported is told as a configuration error of its
own, also at the end of the run.  All other files end reading for a reason that is not theirs. -/
theorem source_read_or_reported_iff (p : Path) (m : Machine) :
    ((∃ source, IsRead p m source) ∨ ∃ reason, IsReported p m reason) ↔ OffersText p m := by
  constructor
  · intro expected
    by_contra none_offered
    obtain ⟨e, failed, foreign⟩ := exists_of_not_offersText none_offered
    obtain ⟨source, read⟩ | ⟨reason, reported⟩ := expected
    · cases failed.symm.trans read.loaded
    · cases failed.symm.trans reported.failed
      cases foreign
  · rintro (absent | ⟨text, read, small, shallow⟩)
    · exact .inr ⟨_, isReported_of_absent absent⟩
    · exact source_read_or_reported read small shallow

/-- A machine whose provisioning file is one byte that starts no character. -/
def garbledSource : Machine where
  home := ["work"]
  scratch := ["tmp"]
  scratchName := "grading"
  bundle := ["bundle"]
  tree :=
    { nodes := [(["work"], .directory),
        (["work", "autograder_config.json"], .file ⟨#[0xFF]⟩)] }

/-- **Bytes that are no text are not reported** as a configuration error. -/
theorem loadTemplateSource_badText : ∃ m',
    loadTemplateSource (.ofString "autograder_config.json") garbledSource =
      (.error .badText, m') := by
  have failed : (match loadTemplateSource (.ofString "autograder_config.json") garbledSource with
    | (.error e, _) => e == .badText
    | _ => false) = true := by
    decide +kernel
  split at failed
  · next e m' ended => exact ⟨m', beq_iff_eq.1 failed ▸ ended⟩
  · cases failed

end Job

end ProofGrading
