import ProofGrading.Proofs.Endings
import ProofGrading.Proofs.Failures
import ProofGrading.Proofs.WrittenText

/-!
# Proofs/ToldSettings — what is told of settings that cannot be read

A failure to read settings is told with the path of the file, with a quoted word, or in words of the
reader's own.  Quotes escape the mark of a half (`Text.unmarked_quoted`), and the words of the
reader are fixed, but for texts that no setting has (`Misfit.IsFixed`).  Main statement: what is
told can be written, unless the path holds half of a surrogate pair
(`Settings.holdsHalf_message_of_find`).
-/

namespace ProofGrading

/-! ## Texts without a mark -/

namespace Text

/-- A text does not hold the mark that stands before the sign of a half. -/
def Unmarked (s : String) : Prop := mark ∉ s.toList

instance (s : String) : Decidable (Unmarked s) := inferInstanceAs (Decidable (mark ∉ s.toList))

/-- The characters of a long text are gone through without reading the text. -/
theorem unmarked_ofList {cs : List Char} (h : mark ∉ cs) : Unmarked (String.ofList cs) := by
  unfold Unmarked
  rwa [String.toList_ofList]

theorem Unmarked.append {s t : String} (hs : Unmarked s) (ht : Unmarked t) : Unmarked (s ++ t) := by
  unfold Unmarked at *
  rw [String.toList_append, List.mem_append]
  exact not_or.2 ⟨hs, ht⟩

theorem Unmarked.intercalate {sep : String} {texts : List String} (hsep : Unmarked sep)
    (h : ∀ s ∈ texts, Unmarked s) : Unmarked (sep.intercalate texts) := by
  induction texts with
  | nil =>
    rw [String.intercalate_nil]
    exact List.not_mem_nil
  | cons s rest ih =>
    obtain ⟨first, others⟩ := List.forall_mem_cons.1 h
    cases rest with
    | nil => rwa [String.intercalate_singleton]
    | cons t rest =>
      rw [String.intercalate_cons_cons]
      exact (first.append hsep).append (ih others)

theorem plain_escapedCodePoint (n : Nat) : ∀ c ∈ escapedCodePoint n, IsPlain c := by
  have coded (letter : Char) (plain : IsPlain letter) (width : Nat) :
      ∀ c ∈ '\\' :: letter :: hexDigits width n, IsPlain c :=
    List.forall_mem_cons.2
      ⟨by decide, List.forall_mem_cons.2 ⟨plain, Json.plain_hexDigits width n⟩⟩
  unfold escapedCodePoint
  split_ifs
  · exact plain_of_all (by decide)
  · exact plain_of_all (by decide)
  · exact plain_of_all (by decide)
  · exact coded 'x' (by decide) 2
  · exact coded 'u' (by decide) 4
  · exact coded 'U' (by decide) 8

/-- Plain words at the start do not matter for whether a text holds a half. -/
theorem holdsHalf_ofList_append {cs : List Char} (plain : ∀ c ∈ cs, IsPlain c) (s : String) :
    holdsHalf (String.ofList cs ++ s) = holdsHalf s := by
  rw [holdsHalf_eq, holdsHalf_eq, String.toList_append, String.toList_ofList,
    namesHalf_append_of_plain plain]

/-- **Quotes escape the mark**, which does not show. -/
theorem unmarked_quoted (s : String) : Unmarked (quoted s) := by
  have hidden : isPrintable mark = false := by decide +kernel
  have quotes : mark ≠ quoteFor s.toList := by
    unfold quoteFor
    split <;> decide
  have inside (n : Nat) : mark ∉ quotedCodePoint (quoteFor s.toList) n := by
    unfold quotedCodePoint
    dsimp only
    split
    · exact mark_not_mem_of_plain (plain_escapedCodePoint n)
    · next shows =>
      have other : mark ≠ Char.ofNat n := by
        intro same
        rw [← same, hidden] at shows
        simp at shows
      have slash : mark ≠ '\\' := by decide
      split <;> simp [other, slash]
  unfold Unmarked quoted
  simp [quotes, inside]

end Text

/-! ## The words of the reader -/

/-- What is wrong is told in fixed words: no texts that would have been right are listed. -/
def Misfit.IsFixed : Misfit → Prop
  | notAmong _ => False
  | _ => True

theorem Misfit.unmarked_wording {e : Misfit} (h : e.IsFixed) :
    Text.Unmarked e.wording.1 ∧ Text.Unmarked e.wording.2 := by
  cases e with
  | notAmong _ => cases h
  | _ => exact ⟨Text.unmarked_ofList (by decide), Text.unmarked_ofList (by decide)⟩

namespace Scalar

variable {v : Scalar} {s : String} {e : Misfit}

theorem fixed_of_wholeText (h : wholeText s = .error e) : e.IsFixed := by
  unfold wholeText at h
  grind [Misfit.IsFixed]

theorem fixed_of_string (h : v.string = .error e) : e.IsFixed := by
  unfold string at h
  grind [Misfit.IsFixed]

theorem fixed_of_integerOfText (h : integerOfText s = .error e) : e.IsFixed := by
  unfold integerOfText at h
  grind [Misfit.IsFixed]

theorem fixed_of_integer (h : v.integer = .error e) : e.IsFixed := by
  cases v with
  | text s =>
    cases whole : wholeText s with
    | error e' =>
      rw [integer, whole] at h
      cases h
      exact fixed_of_wholeText whole
    | ok t =>
      rw [integer, whole] at h
      exact fixed_of_integerOfText h
  | bytes data =>
    rw [integer] at h
    split at h
    · exact fixed_of_integerOfText h
    · cases h
      trivial
  | _ =>
    unfold integer at h
    grind [Misfit.IsFixed]

theorem fixed_of_positive (h : v.positive = .error e) : e.IsFixed := by
  unfold positive at h
  grind [Misfit.IsFixed, fixed_of_integer]

theorem fixed_of_boolean (h : v.boolean = .error e) : e.IsFixed := by
  cases v with
  | text s =>
    cases whole : wholeText s with
    | error e' =>
      rw [boolean, whole] at h
      cases h
      exact fixed_of_wholeText whole
    | ok t =>
      rw [boolean, whole] at h
      change boolOfText t = .error e at h
      grind [Misfit.IsFixed, boolOfText]
  | _ =>
    unfold boolean at h
    grind [Misfit.IsFixed, boolOfText, boolOfInt]

end Scalar

/-- All that is wrong with a value satisfies a condition. -/
def Checked.Flags {α : Type} (P : Problem → Prop) (c : Checked α) : Prop :=
  ∀ ps, c = .invalid ps → ∀ q ∈ ps, P q

namespace Checked.Flags

variable {α β : Type} {P : Problem → Prop} {a : Checked α}

theorem map {f : α → β} (h : Flags P a) : Flags P (f <$> a) := by
  cases a with
  | valid a => exact fun _ he => nomatch he
  | invalid ps =>
    intro qs he
    cases he
    exact h ps rfl

theorem seq {f : Checked (α → β)} (hf : Flags P f) (ha : Flags P a) : Flags P (f <*> a) := by
  cases f with
  | valid f =>
    cases a with
    | valid a => exact fun _ he => nomatch he
    | invalid ps =>
      intro qs he
      cases he
      exact ha ps rfl
  | invalid ps =>
    cases a with
    | valid a =>
      intro qs he
      cases he
      exact hf ps rfl
    | invalid ps' =>
      intro qs he
      cases he
      exact fun q hq => (List.mem_append.1 hq).elim (hf ps rfl q) (ha ps' rfl q)

end Checked.Flags

namespace Failure

theorem unmarked_label (f : Failure) : Text.Unmarked f.label := by
  cases f with
  | files fault => cases fault <;> exact Text.unmarked_ofList (by decide)
  | _ => exact Text.unmarked_ofList (by decide)

/-- A failure that is only named has no mark. -/
theorem unmarked_named (f : Failure) : Text.Unmarked ("<" ++ f.label ++ ">") :=
  ((Text.unmarked_ofList (by decide)).append f.unmarked_label).append
    (Text.unmarked_ofList (by decide))

end Failure

/-- A problem at a field that is told in fixed words has no mark, unless the name of the field
has. -/
theorem Problem.unmarked_message {key : String} {e : Misfit} (plain : Text.Unmarked key)
    (fixed : e.IsFixed) : Text.Unmarked (Problem.message ⟨[key], e⟩) := by
  obtain ⟨text, tag⟩ := e.unmarked_wording fixed
  unfold message
  refine .append (.intercalate (by decide) (by simpa using plain)) ?_
  exact ((((Text.Unmarked.append (by decide) text).append (by decide)).append tag).append
    (by decide))

theorem Invalid.unmarked_message {e : Invalid} (shape : Text.Unmarked e.shape)
    (h : ∀ q ∈ e.problems, Text.Unmarked q.message) : Text.Unmarked e.message := by
  have digits : (toString e.problems.length).toList = Decimal.natText e.problems.length :=
    Nat.toList_repr
  have count : Text.Unmarked (toString e.problems.length) :=
    Text.mark_not_mem_of_plain (digits ▸ Decimal.plain_natText _)
  have noun : Text.Unmarked (if e.problems.length = 1 then "error" else "errors") := by
    split <;> decide
  unfold message
  refine .intercalate (by decide) (List.forall_mem_cons.2 ⟨?_, ?_⟩)
  · exact ((count.append (by decide)).append noun).append (by decide) |>.append shape
  · intro s among
    obtain ⟨q, hq, rfl⟩ := List.mem_map.1 among
    exact h q hq

/-- **What is told of a record that does not fit** has no mark where nothing of its problems has. -/
theorem Checked.Flags.unmarked_message {α : Type} {shape : String} {c : Checked α} {e : Invalid}
    (plain : Text.Unmarked shape) (h : c.Flags (Text.Unmarked ·.message))
    (refused : c.toExcept shape = .error e) : Text.Unmarked e.message := by
  cases c with
  | valid a => cases refused
  | invalid ps =>
    cases refused
    exact Invalid.unmarked_message plain (h ps rfl)

namespace Settings

variable {dir : Path} {es : Entries} {key : String} {e : Failure}

theorem flags_placed {α : Type} {e : Misfit} (plain : Text.Unmarked key) (fixed : e.IsFixed) :
    (Field.placed [key] (.error e) : Checked α).Flags (Text.Unmarked ·.message) := by
  intro ps he q hq
  cases he
  obtain rfl := List.mem_singleton.1 hq
  exact Problem.unmarked_message plain fixed

theorem flags_readPath {default : Path} {field : PathField} (plain : Text.Unmarked key)
    (h : pathField es dir key = .ok field) :
    (readPath key default field).Flags (Text.Unmarked ·.message) := by
  unfold pathField at h
  split at h
  · cases h
    exact fun _ he => nomatch he
  · obtain ⟨r, at_dir, rfl⟩ := exists_of_map_eq_ok h
    cases r with
    | ok q => exact fun _ he => nomatch he
    | error e =>
      -- of what is no text only what is nothing, zero or empty comes this far
      obtain rfl : e = .notPath := by
        unfold pathAt at at_dir
        grind
      exact flags_placed plain trivial

theorem flags_readSingle {α : Type} {default : α} {read : Scalar → Except Misfit α}
    (plain : Text.Unmarked key) (fixed : ∀ v e, read v = .error e → e.IsFixed) :
    (readSingle es key default read).Flags (Text.Unmarked ·.message) := by
  unfold readSingle
  split
  · exact fun _ he => nomatch he
  · next v _ =>
    cases read_value : read v.scalar with
    | ok a => exact fun _ he => nomatch he
    | error e => exact flags_placed plain (fixed _ _ read_value)

/-- What is told of entries that are not accepted has no mark. -/
theorem unmarked_of_ofEntries (h : ofEntries dir es = .error e) : Text.Unmarked e.message := by
  have wrongType : Text.Unmarked Failure.wrongType.message := Failure.unmarked_named _
  have field : ∀ key e, pathField es dir key = .error e → Text.Unmarked e.message :=
    fun _ _ failed => eq_wrongType_of_pathField failed ▸ wrongType
  refine error_of_bind (field _) (fun project _ at_project h => ?_) h
  refine error_of_bind (field _) (fun submissions _ at_submissions h => ?_) h
  refine error_of_bind (field _) (fun provisioning _ at_provisioning h => ?_) h
  refine error_of_bind (field _) (fun results _ at_results h => ?_) h
  obtain ⟨invalid, refused, rfl⟩ := exists_of_mapError h
  refine Checked.Flags.unmarked_message (by decide) ?_ refused
  exact ((flags_readPath (by decide) at_project).map
    |>.seq (flags_readSingle (by decide) fun _ _ => Scalar.fixed_of_string)
    |>.seq (flags_readPath (by decide) at_submissions)
    |>.seq (flags_readPath (by decide) at_provisioning)
    |>.seq (flags_readPath (by decide) at_results)
    |>.seq (flags_readSingle (by decide) fun _ _ => Scalar.fixed_of_string)
    |>.seq (flags_readSingle (by decide) fun _ _ => Scalar.fixed_of_positive)
    |>.seq (flags_readSingle (by decide) fun _ _ => Scalar.fixed_of_boolean))

theorem unmarked_of_ofValue {v : Yaml.Value} (h : ofValue dir v = .error e) :
    Text.Unmarked e.message := by
  have wrongType : Text.Unmarked Failure.wrongType.message := Failure.unmarked_named _
  unfold ofValue at h
  split at h
  · cases h
  · split at h
    · exact error_of_bind (fun _ failed => eq_wrongType_of_entriesOf failed ▸ wrongType)
        (fun _ _ _ => unmarked_of_ofEntries) h
    · cases h
      exact wrongType

end Settings

theorem Yaml.Flaw.unmarked_failure (flaw : Yaml.Flaw) : Text.Unmarked flaw.failure.message := by
  cases flaw with
  | noTruthWord word => exact Text.unmarked_quoted word
  | emptyNumber => exact Text.unmarked_ofList (by decide)
  | _ => exact Failure.unmarked_named _

namespace Path

open Text (namesHalf)

/-- Pieces with slashes between them hold a half just where one of them does. -/
theorem namesHalf_joinWith (pieces : List (List Char)) :
    namesHalf (Text.joinWith '/' pieces) = pieces.any namesHalf := by
  induction pieces with
  | nil => rfl
  | cons piece rest ih =>
    cases rest with
    | nil => rw [Text.joinWith, List.any_cons, List.any_nil, Bool.or_false]
    | cons next rest =>
      rw [Text.joinWith, Text.namesHalf_append_cons (by decide), ih,
        List.any_cons (l := next :: rest)]
      exact List.cons_ne_nil _ _

theorem toList_intercalate_slash (names : List String) :
    ("/".intercalate names).toList = Text.joinWith '/' (names.map String.toList) := by
  induction names with
  | nil => rfl
  | cons name rest ih =>
    cases rest with
    | nil => rw [String.intercalate_singleton]; rfl
    | cons next rest =>
      rw [String.intercalate_cons_cons, String.toList_append, String.toList_append,
        List.append_assoc, ih]
      rfl

/-- **The text of a path holds no half** that is not in the text that it was read from. -/
theorem holdsHalf_text_ofString {s : String} (whole : Text.holdsHalf s = false) :
    Text.holdsHalf (ofString s).text = false := by
  rw [Text.holdsHalf_eq, ← Text.join_splitOn '/' s.toList, namesHalf_joinWith,
    List.any_eq_false] at whole
  have names : ((ofString s).names.map String.toList).any namesHalf = false := by
    rw [List.any_eq_false]
    intro chars among
    obtain ⟨name, hname, rfl⟩ := List.mem_map.1 among
    obtain ⟨piece, hpiece, rfl⟩ := List.mem_map.1 (List.mem_filter.1 hname).1
    rw [String.toList_ofList]
    exact whole piece hpiece
  unfold text
  split
  · decide +kernel
  · have root : ∀ c ∈ (rootText (ofString s).root).toList, Text.IsPlain c := by
      cases (ofString s).root <;> exact Text.plain_of_all (by decide)
    rw [Text.holdsHalf_eq, String.toList_append, Text.namesHalf_append_of_plain root,
      toList_intercalate_slash, namesHalf_joinWith, names]

end Path

namespace Settings

/-- A failure is told without a half: without a mark, or with no more than the path of the file. -/
theorem raises_told {p : Path} (whole : Text.holdsHalf p.text = false) :
    Job.Raises (fun e => Text.holdsHalf e.message = false) (find p) := by
  have files (fault : FileFault) : Text.holdsHalf (Failure.files fault).message = false :=
    Text.holdsHalf_of_unmarked (Failure.unmarked_named (.files fault))
  have missing : Text.holdsHalf ("Configuration file not found: " ++ p.text) = false :=
    (Text.holdsHalf_ofList_append (Text.plain_of_all (by decide)) _).trans whole
  have loads : Job.Raises (fun e => Text.holdsHalf e.message = false) (load p) := by
    refine (Job.Raises.look files _).bind fun there =>
      .ite (fun _ => .fail missing) fun _ => (Job.Raises.look files _).bind fun data => ?_
    split
    · exact .ofExcept fun e failed => Text.holdsHalf_of_unmarked (unmarked_of_ofValue failed)
    · exact .fail (Text.holdsHalf_of_unmarked (Yaml.Flaw.unmarked_failure _))
  refine .ite (fun _ => ?_) fun _ => loads
  exact (Job.Raises.look files _).bind fun there => .ite (fun _ => loads) fun _ => .done _

/-- **What is told of settings that cannot be read can be written**, unless the path of the file
holds half of a surrogate pair. -/
theorem holdsHalf_message_of_find {file : String} {m m' : Machine} {e : Failure}
    (whole : Text.holdsHalf file = false) (failed : find (.ofString file) m = (.error e, m')) :
    Text.holdsHalf e.message = false :=
  raises_told (Path.holdsHalf_text_ofString whole) m e m' failed

end Settings

end ProofGrading
