import Mathlib.Data.List.Forall2
import ProofGrading.Proofs.ResultsDocument
import ProofGrading.Proofs.RoundTrip

/-!
# Proofs/Documents — what a written document says when it is read

A file that a document was written to holds UTF-8 text, and this text is read as the value that the
document was made from (`FileTree.HoldsJson`, `FileTree.holdsJson_of_read`).  Main statement: from
the file of a report the results are read in their order, each with its name, its output and
whether it was passed, and from the file of a fatal document its message
(`documents_read_back`).
-/

namespace ProofGrading

/-- The file at a path holds a text that is read as a JSON value. -/
def FileTree.HoldsJson (t : FileTree) (home : Location) (p : Path) (j : Json) : Prop :=
  ∃ data text, t.read home p = .ok data ∧ String.fromUTF8? data = some text ∧
    Json.decode text = .ok j

/-- **The file with the bytes of a document is read as its value.** -/
theorem FileTree.holdsJson_of_read {t : FileTree} {home : Location} {p : Path} {j : Json}
    {data : ByteArray} (readable : j.IsReadable Json.nestingLimit)
    (bytes : Text.bytes? j.document = some data) (read : t.read home p = .ok data) :
    t.HoldsJson home p j.reread := by
  have whole : Text.holdsHalf j.document = false := by
    rw [← Bool.not_eq_true, ← Text.bytes?_eq_none_iff, bytes]
    exact Option.some_ne_none data
  obtain rfl := Option.some.inj ((Text.bytes?_eq_written whole).symm.trans bytes)
  exact ⟨_, _, read, dif_pos (String.isValidUTF8 _), Json.decode_written_document readable⟩

namespace Report

/-- The texts of a report that come from outside: the summary, and the names and outputs of the
results. -/
def words (r : Report) : List String :=
  r.summary :: r.results.flatMap fun e => [e.name, e.output]

/-- What the entry of a result is read back as. -/
def entryRead (e : ExerciseResult) : Json :=
  .obj [("score", Json.readBack e.score), ("output", .str e.output), ("name", .str e.name),
    ("status", .str (if e.status.isPassed then "passed" else "failed"))]

theorem reread_document (r : Report) : r.document.reread =
    .obj [("tests", .arr (r.results.map entryRead)), ("output", .str r.summary),
      ("output_format", .str outputFormat)] := by
  have items (es : List ExerciseResult) :
      Json.rereadItems (es.map entry) = es.map entryRead := by
    induction es with
    | nil => rfl
    | cons e rest ih =>
      rw [List.map_cons, Json.rereadItems, ih]
      rfl
  simp [document, Json.reread, Json.rereadFields, items]

/-- The words of the documents themselves hold no halves. -/
theorem holdsHalf_keys : ∀ s ∈ ["tests", "output", "output_format", "score", "name", "status",
    "text", "passed", "failed"], Text.holdsHalf s = false := by
  decide +kernel

theorem holdsHalf_status (b : Bool) :
    Text.holdsHalf (if b then "passed" else "failed") = false := by
  cases b <;> decide +kernel

/-- **Half of a pair in a document is in a text of the report.** -/
theorem holdsHalf_text_iff (r : Report) :
    Text.holdsHalf r.text = true ↔ ∃ s ∈ r.words, Text.holdsHalf s = true := by
  have keys := holdsHalf_keys
  simp only [List.forall_mem_cons] at keys
  have items (es : List ExerciseResult) :
      (∃ s ∈ Json.textsOfItems (es.map entry), Text.holdsHalf s = true) ↔
        ∃ s ∈ es.flatMap (fun e => [e.name, e.output]), Text.holdsHalf s = true := by
    induction es with
    | nil => simp [Json.textsOfItems]
    | cons e rest ih =>
      simp only [List.map_cons, Json.textsOfItems, entry, Json.texts, Json.textsOfFields,
        List.flatMap_cons, List.mem_append, or_and_right, exists_or, ih]
      refine or_congr_left ?_
      simp [keys, holdsHalf_status, or_comm]
  rw [← Text.bytes?_eq_none_iff, text, Json.bytes?_document_eq_none_iff]
  simp only [document, Json.texts, Json.textsOfFields, List.mem_cons, List.mem_append,
    or_and_right, exists_or, items, words]
  simp [keys, outputFormat, or_comm]

theorem isReadable_entries {depth : Nat} {es : List ExerciseResult}
    (whole : ∀ s ∈ es.flatMap (fun e => [e.name, e.output]), Text.holdsHalf s = false) :
    Json.AreReadable (depth + 1) (es.map entry) := by
  have keys := holdsHalf_keys
  simp only [List.forall_mem_cons] at keys
  induction es with
  | nil => simp [Json.AreReadable]
  | cons e rest ih =>
    rw [List.flatMap_cons, List.forall_mem_append] at whole
    simp only [List.forall_mem_cons] at whole
    rw [List.map_cons, Json.AreReadable]
    refine ⟨?_, ih whole.2⟩
    simp [entry, Json.IsReadable, Json.HaveReadable, keys, whole.1, holdsHalf_status]

/-- **The document of a report without halves is read.** -/
theorem isReadable_document {r : Report} (whole : ∀ s ∈ r.words, Text.holdsHalf s = false) :
    r.document.IsReadable Json.nestingLimit := by
  have keys := holdsHalf_keys
  simp only [List.forall_mem_cons] at keys
  obtain ⟨summary, others⟩ := List.forall_mem_cons.1 whole
  have entries : Json.AreReadable 978 (r.results.map entry) := isReadable_entries others
  simp [document, Json.nestingLimit, Json.IsReadable, Json.HaveReadable, keys, entries, summary,
    outputFormat]

end Report

namespace Report

variable {r : Report}

theorem words_whole (whole : Text.holdsHalf r.text = false) :
    ∀ s ∈ r.words, Text.holdsHalf s = false := by
  intro s among
  by_contra holds
  have half := r.holdsHalf_text_iff.2 ⟨s, among, by simpa using holds⟩
  rw [whole] at half
  cases half

/-- The file with the bytes of a report is read as its results and its summary. -/
theorem holdsJson_of_read {t : FileTree} {home : Location} {p : Path} {data : ByteArray}
    (bytes : Text.bytes? r.text = some data) (read : t.read home p = .ok data) :
    t.HoldsJson home p (.obj [("tests", .arr (r.results.map entryRead)), ("output", .str r.summary),
      ("output_format", .str outputFormat)]) := by
  have whole : Text.holdsHalf r.text = false := by
    rw [← Bool.not_eq_true, ← Text.bytes?_eq_none_iff, bytes]
    exact Option.some_ne_none data
  rw [← r.reread_document]
  exact FileTree.holdsJson_of_read (isReadable_document (words_whole whole)) bytes read

end Report

theorem isReadable_fatalDocument {message : String} (whole : Text.holdsHalf message = false) :
    (fatalDocument message).IsReadable Json.nestingLimit := by
  have keys := Report.holdsHalf_keys
  simp only [List.forall_mem_cons] at keys
  simp [fatalDocument, Json.nestingLimit, Json.IsReadable, Json.HaveReadable, keys, whole,
    outputFormat]

theorem reread_fatalDocument (message : String) :
    (fatalDocument message).reread = fatalDocument message := by
  simp [fatalDocument, Json.reread, Json.rereadFields, Json.readBack_zero]

/-- An entry that tells a result: its name and its output as they are, and whether it was passed. -/
def ExerciseResult.IsToldBy (e : ExerciseResult) (entry : Json) : Prop :=
  ∃ score, entry = .obj [("score", score), ("output", .str e.output), ("name", .str e.name),
    ("status", .str (if e.status = .passed then "passed" else "failed"))]

/-- **What is written is what is read.**  Where a file can be written, the file of a report is read
as an object of its tests, its output and the format: the tests are the results in their order, each
with its own name and output and passed where it was passed, and the output is the summary.  The
file of a fatal document is read as an object with its message and no points.  Only texts that hold
half of a surrogate pair are not written at all. -/
theorem documents_read_back {m : Machine} {p : Path} (room : m.tree.CanWrite m.home p) :
    (∀ r : Report,
      ((∃ s ∈ r.words, Text.holdsHalf s = true) ∧
          Job.writeText p r.text m = (.error .unwritable, m)) ∨
        ∃ tree tests, Job.writeText p r.text m = (.ok (), { m with tree }) ∧
          tree.HoldsJson m.home p (.obj [("tests", .arr tests), ("output", .str r.summary),
            ("output_format", .str "text")]) ∧
          List.Forall₂ ExerciseResult.IsToldBy r.results tests) ∧
      ∀ message : String,
        (Text.holdsHalf message = true ∧
            Job.writeText p (fatalText message) m = (.error .unwritable, m)) ∨
          ∃ tree, Job.writeText p (fatalText message) m = (.ok (), { m with tree }) ∧
            tree.HoldsJson m.home p (.obj [("output", .str message), ("score", .float 0.0),
              ("output_format", .str "text")]) := by
  refine ⟨fun r => ?_, fun message => ?_⟩
  · cases half : Text.holdsHalf r.text with
    | true =>
      exact .inl ⟨r.holdsHalf_text_iff.1 half,
        Machine.writeText_unwritable (Text.bytes?_eq_none_iff.2 half)⟩
    | false =>
      have bytes := Text.bytes?_eq_written half
      obtain ⟨tree, wrote, read⟩ := Machine.writeText_ok room bytes
      refine .inr ⟨tree, _, wrote, Report.holdsJson_of_read bytes read, ?_⟩
      rw [List.forall₂_map_right_iff]
      refine List.forall₂_same.2 fun e _ => ⟨Json.readBack e.score, ?_⟩
      simp [Report.entryRead, ExerciseStatus.isPassed]
  · cases half : Text.holdsHalf message with
    | true =>
      exact .inl ⟨rfl, Machine.writeText_unwritable (bytes?_fatalText_eq_none_iff.2 half)⟩
    | false =>
      obtain ⟨data, bytes⟩ : ∃ data, Text.bytes? (fatalText message) = some data := by
        rw [← Option.ne_none_iff_exists', ne_eq, bytes?_fatalText_eq_none_iff, half]
        exact Bool.false_ne_true
      obtain ⟨tree, wrote, read⟩ := Machine.writeText_ok room bytes
      have holds := FileTree.holdsJson_of_read (isReadable_fatalDocument half) bytes read
      rw [reread_fatalDocument] at holds
      exact .inr ⟨tree, wrote, holds⟩

/-- A report with quotes, backslashes, line breaks, control characters and signs of many scripts. -/
def quotedReport : Report where
  results :=
    [⟨"add_zero\"", .passed, 2.5, 2.5, "C:\\proof\n\t\x01\x7f"⟩,
      ⟨"Σ-ζ.«λ ∀ 𝔸»", .typeMismatch, 0.0, 1.0, "\\u0041 \r\n \x00"⟩]
  summary := "ünïcode \"summary\"\n\n/ é 𝒳"
  nonempty := List.cons_ne_nil _ _

/-- A report that has to be escaped, in place of the results of an earlier run. -/
theorem documents_read_back_quoted :
    sampleMachine.tree.CanWrite sampleMachine.home ({} : Settings).results ∧
      ∃ tree tests, Job.writeText ({} : Settings).results quotedReport.text sampleMachine =
          (.ok (), { sampleMachine with tree }) ∧
        tree.HoldsJson ["work"] ({} : Settings).results (.obj [("tests", .arr tests),
          ("output", .str "ünïcode \"summary\"\n\n/ é 𝒳"), ("output_format", .str "text")]) ∧
        List.Forall₂ ExerciseResult.IsToldBy quotedReport.results tests := by
  have room := sampleMachine.canWrite_results
  have whole : ¬∃ s ∈ quotedReport.words, Text.holdsHalf s = true := by decide +kernel
  exact ⟨room, ((documents_read_back room).1 quotedReport).resolve_left fun h => whole h.1⟩

end ProofGrading
