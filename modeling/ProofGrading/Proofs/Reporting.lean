import ProofGrading.Proofs.BuildSteps

/-!
# Proofs/Reporting — what a failed step of the build tool is told as

The output of a step is one log, its standard output put before its standard error.  Cutting the log
at all kinds of line breaks gives the lines of the one and then the lines of the other, whatever
stands at the seam (`Text.splitLinesFrom_newline`), so no error is lost, merged or counted twice
(`errorLines_glued`).  Main statement: a step succeeds just when it exits with 0 and neither stream
reports an error, and what is told about a failure is all the errors, or the exit code and the end
of the log if there are none (`Toolchain.run_reports`).
-/

namespace ProofGrading

namespace Text

/-! ## Lines across a seam -/

/-- A character that does not begin `\r\n` ends the line, or belongs to it. -/
theorem splitLinesFrom_cons {line : List Char} {c : Char} {rest : List Char}
    (single : ∀ more, c = '\r' → rest = '\n' :: more → False) :
    splitLinesFrom line (c :: rest) =
      if isLineBreak c then line.reverse :: splitLinesFrom [] rest
      else splitLinesFrom (c :: line) rest := by
  rw [splitLinesFrom]
  exact single

/-- **Texts that are put together with a line break are cut where each alone is**; an empty line may
stand between them. -/
theorem splitLinesFrom_newline (line cs ds : List Char) :
    ∃ gap, (gap = [] ∨ gap = [[]]) ∧
      splitLinesFrom line (cs ++ '\n' :: ds) = splitLinesFrom line cs ++ gap ++ splitLines ds := by
  have newline : isLineBreak '\n' = true := by decide
  fun_induction splitLinesFrom line cs with
  | case1 line blank =>
    obtain rfl := List.isEmpty_iff.1 blank
    exact ⟨[[]], .inr rfl, rfl⟩
  | case2 line text =>
    refine ⟨[], .inl rfl, ?_⟩
    rw [List.nil_append, splitLinesFrom_cons (by simp), if_pos newline]
    rfl
  | case3 line rest ih =>
    obtain ⟨gap, small, glued⟩ := ih
    exact ⟨gap, small, congrArg (line.reverse :: ·) glued⟩
  | case4 line c rest other ends ih =>
    -- a carriage return before the seam makes one break with it
    by_cases seam : c = '\r' ∧ rest = []
    · obtain ⟨rfl, rfl⟩ := seam
      exact ⟨[], .inl rfl, rfl⟩
    · have single : ∀ more, c = '\r' → rest ++ '\n' :: ds = '\n' :: more → False := by
        intro more hc starts
        cases rest with
        | nil => exact seam ⟨hc, rfl⟩
        | cons d rest => exact other rest hc (by rw [(List.cons.inj starts).1])
      obtain ⟨gap, small, glued⟩ := ih
      refine ⟨gap, small, ?_⟩
      rw [List.cons_append, splitLinesFrom_cons single, if_pos ends, glued]
      rfl
  | case5 line c rest other within ih =>
    obtain ⟨gap, small, glued⟩ := ih
    refine ⟨gap, small, ?_⟩
    have single : ∀ more, c = '\r' → rest ++ '\n' :: ds = '\n' :: more → False := by
      rintro more rfl -
      exact within (by decide)
    rw [List.cons_append, splitLinesFrom_cons single, if_neg within, glued]

/-! ## A pattern between blanks -/

/-- Dropping characters from the start leaves a pattern that starts with none of them. -/
theorem infix_dropWhile {p : Char → Bool} {c : Char} {pattern cs : List Char} (kept : ¬p c = true)
    (there : c :: pattern <:+: cs) : c :: pattern <:+: cs.dropWhile p := by
  induction cs with
  | nil => exact there
  | cons d rest ih =>
    by_cases dropped : p d = true
    · rw [List.dropWhile_cons_of_pos dropped]
      obtain starts | later := List.infix_cons_iff.1 there
      · obtain ⟨rfl, -⟩ := List.cons_prefix_cons.1 starts
        exact absurd dropped kept
      · exact ih later
    · rwa [List.dropWhile_cons_of_neg dropped]

end Text

/-- **An error is still one without the blanks around it.** -/
theorem isErrorLine_trimBlanks {line : String} (reports : isErrorLine line = true) :
    isErrorLine (Text.trimBlanks line) = true := by
  have colon : ¬Text.isBlank ':' = true := by decide
  have there : errorMark.toList <:+: line.toList := Text.occursIn_iff.1 reports
  have front : errorMark.toList <:+: line.toList.dropWhile Text.isBlank :=
    Text.infix_dropWhile colon there
  have back : errorMark.toList.reverse <:+: (line.toList.dropWhile Text.isBlank).reverse.dropWhile
      Text.isBlank :=
    Text.infix_dropWhile colon (List.reverse_infix.2 front)
  refine Text.occursIn_iff.2 ?_
  rw [Text.trimBlanks, String.toList_ofList, Text.dropAround, ← List.reverse_infix,
    List.reverse_reverse]
  exact back

theorem isErrorLine_of_mem_errorLines {output e : String} (among : e ∈ errorLines output) :
    isErrorLine e = true := by
  obtain ⟨line, reported, rfl⟩ := List.mem_map.1 among
  exact isErrorLine_trimBlanks (List.mem_filter.1 reported).2

/-! ## Errors of two streams -/

/-- **The errors of a log are those of the one stream and then those of the other.** -/
theorem errorLines_glued (out err : String) :
    errorLines (out ++ "\n" ++ err) = errorLines out ++ errorLines err := by
  obtain ⟨gap, small, glued⟩ := Text.splitLinesFrom_newline [] out.toList err.toList
  have log : (out ++ "\n" ++ err).toList = out.toList ++ '\n' :: err.toList := by simp
  have quiet : (gap.map String.ofList).filter isErrorLine = [] := by
    obtain rfl | rfl := small
    · rfl
    · decide
  rw [errorLines, Text.lines, log, Text.splitLines, glued, List.map_append, List.map_append,
    List.filter_append, List.filter_append, quiet, List.append_nil, List.map_append]
  rfl

/-- A stream reports no error when none of its lines does. -/
def ReportsNoError (stream : String) : Prop :=
  ∀ line ∈ Text.lines stream, ¬": error:".toList <:+: line.toList

theorem reportsNoError_iff {stream : String} : ReportsNoError stream ↔ errorLines stream = [] :=
  errorLines_eq_nil_iff.symm

/-! ## The exit code -/

theorem colon_notMem_nat (n : Nat) : ':' ∉ (toString n).toList := by
  intro among
  have digits : (toString n).toList = Nat.toDigits 10 n := by simp [toString]
  rw [digits] at among
  have digit : ':'.isDigit = true := Nat.isDigit_of_mem_toDigits (by decide) (by decide) among
  exact absurd digit (by decide)

theorem colon_notMem_int (code : Int) : ':' ∉ (toString code).toList := by
  cases code with
  | ofNat n => exact colon_notMem_nat n
  | negSucc n =>
    have text : toString (Int.negSucc n) = "-" ++ toString (n + 1) := rfl
    rw [text, String.toList_append, List.mem_append, not_or]
    exact ⟨by decide, colon_notMem_nat (n + 1)⟩

/-- The steps of the build tool. -/
def Toolchain.steps : List String := ["build", "env"]

/-- What is said about an exit code. -/
def exitNotice (step : String) (code : Int) : String := s!"{step} exited with code {code}"

/-- What is said about an exit code is not taken for an error of the compiler. -/
theorem isErrorLine_exitNotice {step : String} (known : step ∈ Toolchain.steps) (code : Int) :
    isErrorLine (exitNotice step code) = false := by
  have quiet : ∀ step ∈ Toolchain.steps, ':' ∉ step.toList := by decide
  have wording : ':' ∉ " exited with code ".toList := by decide
  rw [← Bool.not_eq_true]
  intro reports
  have colon : ':' ∈ (exitNotice step code).toList :=
    (Text.occursIn_iff.1 reports).subset (by decide)
  simp only [exitNotice, String.toList_append, List.mem_append] at colon
  obtain (named | worded) | numbered := colon
  · exact quiet step known named
  · exact wording worded
  · exact colon_notMem_int code numbered

/-! ## What is told -/

/-- A positive count keeps an end of a list. -/
theorem tail_suffix {α : Type} (count : Nat) (items : List α) (positive : 0 < count) :
    tail count items <:+ items := by
  rw [tail, if_pos (Int.natCast_pos.2 positive)]
  exact List.drop_suffix _ _

/-- **What is told about a step that failed**: the errors of its standard output and then those of
its standard error; or, if there are none, its exit code, with the last ten lines of a log that is
not blank. -/
inductive Told (step : String) (exit : Exit) : String → Prop
  | errors (reported : errorLines exit.out ++ errorLines exit.err ≠ []) :
      Told step exit ("\n".intercalate (errorLines exit.out ++ errorLines exit.err))
  | exitCode (unreported : errorLines exit.out ++ errorLines exit.err = [])
      (blank : Text.trimBlanks (exit.out ++ "\n" ++ exit.err) = "") :
      Told step exit (exitNotice step exit.code)
  | endOfLog {shown : List String}
      (unreported : errorLines exit.out ++ errorLines exit.err = [])
      (said : Text.trimBlanks (exit.out ++ "\n" ++ exit.err) ≠ "")
      (last : shown <:+ Text.lines (Text.trimBlanks (exit.out ++ "\n" ++ exit.err)))
      (count : shown.length =
        min 10 (Text.lines (Text.trimBlanks (exit.out ++ "\n" ++ exit.err))).length) :
      Told step exit (exitNotice step exit.code ++ "\n" ++ "\n".intercalate shown)

namespace BuildResult

variable {step : String} {exit : Exit}

/-- Errors that a step reports are what it ends with. -/
theorem errors_ofRun (reported : errorLines exit.out ++ errorLines exit.err ≠ []) :
    (ofRun step exit.code exit.out exit.err).errors =
      errorLines exit.out ++ errorLines exit.err := by
  rw [ofRun, errorLines_glued]
  dsimp only
  rw [List.isEmpty_eq_false_iff.2 reported, Bool.and_false, if_neg Bool.false_ne_true]

/-- Without errors the exit code stands for them. -/
theorem errors_ofRun_of_quiet (quiet : errorLines exit.out ++ errorLines exit.err = [])
    (code : exit.code ≠ 0) :
    (ofRun step exit.code exit.out exit.err).errors = [exitNotice step exit.code] := by
  rw [ofRun, errorLines_glued, quiet]
  simp [code, exitNotice]

/-- **A step succeeds just when it exits with 0 and both its streams are quiet.** -/
theorem success_ofRun_iff_quiet :
    (ofRun step exit.code exit.out exit.err).success = true ↔
      exit.code = 0 ∧ ReportsNoError exit.out ∧ ReportsNoError exit.err := by
  rw [success_ofRun_iff, Reply.IsClean, ← errorLines_eq_nil_iff, errorLines_glued,
    List.append_eq_nil_iff, reportsNoError_iff, reportsNoError_iff]

/-- **What is told about a step that failed.** -/
theorem told_details (known : step ∈ Toolchain.steps)
    (failed : (ofRun step exit.code exit.out exit.err).success = false) :
    Told step exit ((ofRun step exit.code exit.out exit.err).details shownLines) := by
  have inTime : (ofRun step exit.code exit.out exit.err).timedOut = false := rfl
  rw [details, inTime, if_neg Bool.false_ne_true]
  by_cases quiet : errorLines exit.out ++ errorLines exit.err = []
  · have code : exit.code ≠ 0 := fun zero => by
      rw [← Bool.not_eq_true, success_ofRun_iff_quiet] at failed
      rw [List.append_eq_nil_iff, ← reportsNoError_iff, ← reportsNoError_iff] at quiet
      exact failed ⟨zero, quiet⟩
    have unnamed : [exitNotice step exit.code].any isErrorLine = false := by
      rw [List.any_cons, isErrorLine_exitNotice known]
      rfl
    rw [errors_ofRun_of_quiet quiet code, unnamed, Bool.false_or, String.intercalate_singleton]
    split
    · next blank => exact .exitCode quiet (String.isEmpty_iff.1 blank)
    · next said =>
      exact .endOfLog quiet (fun blank => said (String.isEmpty_iff.2 blank))
        (tail_suffix _ _ (by decide)) (length_tail shownLines _ (by decide))
  · have named : (errorLines exit.out ++ errorLines exit.err).any isErrorLine = true := by
      obtain ⟨e, among⟩ := List.exists_mem_of_ne_nil _ quiet
      exact List.any_eq_true.2 ⟨e, among,
        (List.mem_append.1 among).elim isErrorLine_of_mem_errorLines isErrorLine_of_mem_errorLines⟩
    rw [errors_ofRun quiet, named, Bool.true_or, if_pos rfl]
    exact .errors quiet

end BuildResult

/-- **No error of a step is lost.**  A step of the build tool that ended, whatever it wrote,
succeeded just when it exited with 0 and no line of its standard output and none of its standard
error reports an error.  What is told about a failure says something: all those lines, in order, or
else the exit code and the end of the log. -/
theorem Toolchain.run_reports {t : Toolchain} {step : String} {arguments : List String}
    {path : Option String} {m m' : Machine} {exit : Exit} {result : BuildResult}
    (known : step ∈ steps) (ends : m.upcoming = .ended exit)
    (ran : t.run step arguments path m = (.ok result, m')) :
    (result.success = true ↔ exit.code = 0 ∧ ReportsNoError exit.out ∧ ReportsNoError exit.err) ∧
      (result.success = false → result.details BuildResult.shownLines ≠ "" ∧
        Told step exit (result.details BuildResult.shownLines)) := by
  have reports := reports_of_run ran
  have explains := reports.explains
  rw [ends] at reports
  cases reports with
  | ended => exact ⟨BuildResult.success_ofRun_iff_quiet, fun failed =>
      ⟨BuildResult.details_ne_empty explains failed _, BuildResult.told_details known failed⟩⟩

/-- A build that reports an error on each stream, with a carriage return at the end of the first. -/
def twoErrors : Exit where
  code := 1
  out := "Sheet.lean:1:2: error: unknown tactic\r"
  err := "warning: 3 jobs\n  Sheet.lean:7:0: error: unsolved goals \n"

/-- A machine on which the first build ends so. -/
def failingBuild : Machine where
  home := ["work"]
  scratch := ["tmp"]
  scratchName := "grading"
  bundle := ["bundle"]
  tree := { nodes := [(["tmp"], .directory), (["work"], .directory)] }
  replies := [.ended twoErrors]

/-- Both of its errors are told, and nothing else. -/
theorem run_reports_twoErrors : ∃ result m',
    Toolchain.run { project := {} } "build" ["Sheet"] none failingBuild = (.ok result, m') ∧
      Told "build" twoErrors (result.details BuildResult.shownLines) ∧
      result.details BuildResult.shownLines =
        "Sheet.lean:1:2: error: unknown tactic\nSheet.lean:7:0: error: unsolved goals" := by
  obtain ⟨result, m', ran, failed, told⟩ : ∃ result m',
      Toolchain.run { project := {} } "build" ["Sheet"] none failingBuild = (.ok result, m') ∧
        result.success = false ∧ result.details BuildResult.shownLines =
          "Sheet.lean:1:2: error: unknown tactic\nSheet.lean:7:0: error: unsolved goals" :=
    ⟨_, _, rfl, by decide +kernel, by decide +kernel⟩
  exact ⟨result, m', ran, ((Toolchain.run_reports (by decide) rfl ran).2 failed).2, told⟩

end ProofGrading
