import ProofGrading.Proofs.Reporting

/-!
# Proofs/LogEnd — how much of a log is shown

A failure that no error explains is told with the end of its log.  Cutting a log between two of its
lines cuts its list of lines there (`Text.splitLines_split`), so the last lines of a log are the
lines of an end of it, and for every positive count exactly so many are shown, or all
(`BuildResult.details_shows_end`).  The count `0` is the exception: the whole log is shown
(`BuildResult.failedQuietly_shows_all`).
-/

namespace ProofGrading

namespace Text

variable {line cs : List Char}

/-- **A text is cut after any of its lines**, the first one being under way. -/
theorem splitLinesFrom_split (k : Nat) :
    ∃ front back, cs = front ++ back ∧
      splitLinesFrom line front = (splitLinesFrom line cs).take (k + 1) ∧
      splitLines back = (splitLinesFrom line cs).drop (k + 1) := by
  fun_induction splitLinesFrom line cs generalizing k with
  | case1 line blank => exact ⟨[], [], rfl, by rw [splitLinesFrom, if_pos blank]; rfl, rfl⟩
  | case2 line text =>
    exact ⟨[], [], rfl, by rw [splitLinesFrom, if_neg text, List.take_succ_cons, List.take_nil],
      by rw [List.drop_succ_cons, List.drop_nil]; rfl⟩
  | case3 line rest ih =>
    cases k with
    | zero => exact ⟨['\r', '\n'], rest, rfl, rfl, rfl⟩
    | succ k =>
      obtain ⟨front, back, rfl, before, after⟩ := ih k
      exact ⟨'\r' :: '\n' :: front, back, rfl, congrArg (line.reverse :: ·) before, after⟩
  | case4 line c rest other ends ih =>
    cases k with
    | zero =>
      refine ⟨[c], rest, rfl, ?_, rfl⟩
      rw [splitLinesFrom_cons (by simp), if_pos ends]
      rfl
    | succ k =>
      obtain ⟨front, back, rfl, before, after⟩ := ih k
      refine ⟨c :: front, back, rfl, ?_, after⟩
      have single : ∀ more, c = '\r' → front = '\n' :: more → False := by
        rintro more hc rfl
        exact other (more ++ back) hc rfl
      rw [splitLinesFrom_cons single, if_pos ends, before]
      rfl
  | case5 line c rest other within ih =>
    obtain ⟨front, back, rfl, before, after⟩ := ih k
    refine ⟨c :: front, back, rfl, ?_, after⟩
    have single : ∀ more, c = '\r' → front = '\n' :: more → False := by
      rintro more rfl -
      exact within (by decide)
    rw [splitLinesFrom_cons single, if_neg within, before]

/-- **Between its lines a text falls into two**, each with the lines on its side. -/
theorem splitLines_split (k : Nat) (cs : List Char) :
    ∃ front back, cs = front ++ back ∧ splitLines front = (splitLines cs).take k ∧
      splitLines back = (splitLines cs).drop k := by
  cases k with
  | zero => exact ⟨[], cs, rfl, rfl, rfl⟩
  | succ k => exact splitLinesFrom_split k

/-- The last lines of a text are the lines of an end of it. -/
theorem lines_split (s : String) {hidden shown : List String} (h : lines s = hidden ++ shown) :
    ∃ front back, s = front ++ back ∧ lines front = hidden ∧ lines back = shown := by
  obtain ⟨front, back, cut, before, after⟩ := splitLines_split hidden.length s.toList
  refine ⟨.ofList front, .ofList back, ?_, ?_, ?_⟩
  · rw [← String.ofList_append, ← cut, String.ofList_toList]
  · rw [lines, String.toList_ofList, before, List.map_take, ← lines, h, List.take_left]
  · rw [lines, String.toList_ofList, after, List.map_drop, ← lines, h, List.drop_left]

end Text

namespace BuildResult

variable {r : BuildResult}

/-- A failure that is told with the end of its log: it was no lack of time, no error names its place
and the log says something. -/
structure TellsLog (r : BuildResult) : Prop where
  inTime : r.timedOut = false
  unnamed : ∀ e ∈ r.errors, ¬": error:".toList <:+: e.toList
  said : Text.trimBlanks r.log ≠ ""

/-- Such a failure is told with its errors and a part of its log. -/
theorem TellsLog.details_eq (h : r.TellsLog) (count : Int) :
    r.details count =
      "\n".intercalate r.errors ++ "\n" ++ "\n".intercalate (tail count r.logLines) := by
  have unnamed : r.errors.any isErrorLine = false := by
    rw [List.any_eq_false]
    exact fun e among reports => h.unnamed e among (Text.occursIn_iff.1 reports)
  have said : (Text.trimBlanks r.log).isEmpty = false := by
    rw [← Bool.not_eq_true, String.isEmpty_iff]
    exact h.said
  rw [details, h.inTime, if_neg Bool.false_ne_true, unnamed, said, Bool.false_or,
    if_neg Bool.false_ne_true]

/-- **Exactly the last lines of the log are shown**, as many as are asked for or all there are: the
log falls into two between its lines, and what is told is the errors and the lines of the second
part. -/
theorem details_shows_end (r : BuildResult) (h : r.TellsLog) (count : Nat) (positive : 0 < count) :
    ∃ front back, Text.trimBlanks r.log = front ++ back ∧
      r.logLines = Text.lines front ++ Text.lines back ∧
      (Text.lines back).length = min count r.logLines.length ∧
      r.details count =
        "\n".intercalate r.errors ++ "\n" ++ "\n".intercalate (Text.lines back) := by
  obtain ⟨hidden, cut⟩ := tail_suffix count r.logLines positive
  obtain ⟨front, back, log, rfl, shown⟩ := Text.lines_split _ cut.symm
  refine ⟨front, back, log, ?_, ?_, ?_⟩
  · rw [shown, cut]
  · rw [shown, length_tail count r.logLines positive]
  · rw [shown, h.details_eq]

/-- A build that failed without an error of the compiler. -/
def failedQuietly : BuildResult where
  success := false
  errors := ["build exited with code 1"]
  log := "a\nb\nc\n"

theorem tellsLog_failedQuietly : failedQuietly.TellsLog where
  inTime := rfl
  unnamed := by decide +kernel
  said := by decide +kernel

/-- The last two lines of three are shown. -/
theorem failedQuietly_shows_two :
    ∃ front back, Text.trimBlanks failedQuietly.log = front ++ back ∧
      failedQuietly.logLines = Text.lines front ++ Text.lines back ∧
      (Text.lines back).length = min 2 failedQuietly.logLines.length ∧
      failedQuietly.details 2 =
        "\n".intercalate failedQuietly.errors ++ "\n" ++ "\n".intercalate (Text.lines back) :=
  details_shows_end failedQuietly tellsLog_failedQuietly 2 (by decide)

/-- **With the count `0` the end shown is not the one asked for**: it is the whole log. -/
theorem failedQuietly_shows_all :
    failedQuietly.TellsLog ∧ failedQuietly.details 0 = "build exited with code 1\na\nb\nc" ∧
      ¬∃ front back, Text.trimBlanks failedQuietly.log = front ++ back ∧
        (Text.lines back).length = min 0 failedQuietly.logLines.length ∧
        failedQuietly.details 0 =
          "\n".intercalate failedQuietly.errors ++ "\n" ++ "\n".intercalate (Text.lines back) := by
  have whole : failedQuietly.details 0 = "build exited with code 1\na\nb\nc" := by decide +kernel
  refine ⟨tellsLog_failedQuietly, whole, ?_⟩
  rintro ⟨front, back, -, none, told⟩
  rw [Nat.zero_min, List.length_eq_zero_iff] at none
  rw [whole, none] at told
  exact absurd told (by decide +kernel)

end BuildResult

end ProofGrading
