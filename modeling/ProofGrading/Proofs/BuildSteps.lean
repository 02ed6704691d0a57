import Mathlib.Data.List.TakeWhile
import ProofGrading.Proofs.Endings
import ProofGrading.Toolchain

/-!
# Proofs/BuildSteps — what a step of the build tool reports

A step of the build tool is one call, and what it reports is the reply to that call
(`Toolchain.reports_of_run`): it succeeded just when the program ended well
(`Reports.success_iff`), and otherwise says why (`Reports.explains`).
-/

namespace ProofGrading

/-! ## Texts that say something -/

theorem ne_empty_append {s : String} (h : s ≠ "") (rest : String) : s ++ rest ≠ "" :=
  fun he => h (String.append_eq_empty_iff.1 he).1

theorem intercalate_ne_empty {e : String} (h : e ≠ "") (sep : String) (rest : List String) :
    sep.intercalate (e :: rest) ≠ "" := by
  cases rest with
  | nil => rwa [String.intercalate_singleton]
  | cons f rest =>
    rw [String.intercalate_cons_cons]
    exact ne_empty_append (ne_empty_append h _) _

namespace Text

/-- A pattern occurs in a text when it stands somewhere in it. -/
theorem occursIn_iff {pattern cs : List Char} :
    occursIn pattern cs = true ↔ pattern <:+: cs := by
  induction cs with
  | nil => simp [occursIn]
  | cons c rest ih =>
    rw [occursIn, Bool.or_eq_true, List.isPrefixOf_iff_prefix, ih, List.infix_cons_iff]

/-- What is not dropped at an end is left. -/
theorem dropAround_ne_nil {p : Char → Bool} {cs : List Char} {c : Char} (h : c ∈ cs)
    (hc : ¬p c = true) : dropAround p cs ≠ [] := by
  have kept : c ∈ cs.dropWhile p := by
    rw [← List.takeWhile_append_dropWhile (p := p) (l := cs), List.mem_append] at h
    exact h.resolve_left fun dropped => hc (List.mem_takeWhile_imp dropped)
  rw [dropAround, Ne, List.reverse_eq_nil_iff, List.dropWhile_eq_nil_iff]
  exact fun all => hc (all c (List.mem_reverse.2 kept))

end Text

/-! ## What a run reports -/

/-- A line that reports an error says something, without the blanks around it too. -/
theorem trimBlanks_ne_empty_of_isErrorLine {line : String} (h : isErrorLine line = true) :
    Text.trimBlanks line ≠ "" := by
  have colon : ':' ∈ line.toList :=
    (Text.occursIn_iff.1 h).subset (by decide)
  rw [Text.trimBlanks, Ne, String.ofList_eq_empty_iff]
  exact Text.dropAround_ne_nil colon (by decide)

/-- **A program ended well**: it exited with 0, and no line of its output reports an error. -/
def Reply.IsClean : Reply → Prop
  | .ended exit => exit.code = 0 ∧
    ∀ line ∈ Text.lines (exit.out ++ "\n" ++ exit.err), ¬": error:".toList <:+: line.toList
  | _ => False

theorem errorLines_eq_nil_iff {output : String} :
    errorLines output = [] ↔ ∀ line ∈ Text.lines output, ¬": error:".toList <:+: line.toList := by
  rw [errorLines, List.map_eq_nil_iff, List.filter_eq_nil_iff]
  exact forall₂_congr fun line _ => not_congr Text.occursIn_iff

theorem ne_empty_of_mem_errorLines {output e : String} (h : e ∈ errorLines output) : e ≠ "" := by
  obtain ⟨line, hline, rfl⟩ := List.mem_map.1 h
  exact trimBlanks_ne_empty_of_isErrorLine (List.mem_filter.1 hline).2

namespace BuildResult

/-- A result that tells, if it is a failure, why. -/
def Explains (r : BuildResult) : Prop :=
  r.success = false → ∃ e rest, r.errors = e :: rest ∧ e ≠ ""

/-- **A run succeeded when its program ended well.** -/
theorem success_ofRun_iff (step : String) (exit : Exit) :
    (ofRun step exit.code exit.out exit.err).success = true ↔ (Reply.ended exit).IsClean := by
  rw [Reply.IsClean, ← errorLines_eq_nil_iff, ofRun]
  dsimp only
  split
  · next unreported =>
    simp_all
  · next reported =>
    rw [List.isEmpty_iff]
    refine ⟨fun h => ⟨?_, h⟩, And.right⟩
    by_contra code
    simp [code, h] at reported

theorem explains_ofRun (step : String) (code : Int) (out err : String) :
    (ofRun step code out err).Explains := by
  intro failed
  rw [ofRun] at failed ⊢
  dsimp only at failed ⊢
  split at failed
  · next unreported =>
    rw [if_pos unreported]
    exact ⟨_, [], rfl, by simp [toString]⟩
  · next reported =>
    rw [if_neg reported]
    cases errors : errorLines (out ++ "\n" ++ err) with
    | nil => rw [errors] at failed; cases failed
    | cons e rest =>
      have among : e ∈ errorLines (out ++ "\n" ++ err) := errors ▸ List.mem_cons_self ..
      exact ⟨e, rest, rfl, ne_empty_of_mem_errorLines among⟩

/-- **A failure is explained.** -/
theorem details_ne_empty {r : BuildResult} (h : r.Explains) (failed : r.success = false)
    (count : Int) : r.details count ≠ "" := by
  obtain ⟨e, rest, errors, said⟩ := h failed
  have told : "\n".intercalate r.errors ≠ "" := errors ▸ intercalate_ne_empty said _ rest
  unfold details
  dsimp only
  split
  · exact ne_empty_append (ne_empty_append told _) _
  · split
    · exact told
    · exact ne_empty_append (ne_empty_append told _) _

end BuildResult

namespace Toolchain

open Job

variable {t : Toolchain} {m m' : Machine}

/-! ## One step of the build tool -/

/-- What a step comes to, by the reply that its call gets. -/
inductive Reports (t : Toolchain) (step : String) : Reply → BuildResult → Prop
  | timedOut : Reports t step .timedOut
      { success := false, errors := [s!"Compilation timed out after {t.timeout}s"],
        timedOut := true }
  | commandMissing : Reports t step .commandMissing
      { success := false,
        errors := [s!"'{t.command}' command not found. Is Lean installed and on PATH?"] }
  | ended (exit : Exit) :
      Reports t step (.ended exit) (BuildResult.ofRun step exit.code exit.out exit.err)

variable {step : String} {arguments : List String} {path : Option String} {result : BuildResult}

theorem Reports.success_iff {reply : Reply} (h : t.Reports step reply result) :
    result.success = true ↔ reply.IsClean := by
  cases h with
  | timedOut => exact iff_of_false Bool.false_ne_true id
  | commandMissing => exact iff_of_false Bool.false_ne_true id
  | ended exit => exact BuildResult.success_ofRun_iff step exit

theorem Reports.explains {reply : Reply} (h : t.Reports step reply result) : result.Explains := by
  cases h with
  | timedOut => exact fun _ => ⟨_, [], rfl, by simp [toString]⟩
  | commandMissing => exact fun _ => ⟨_, [], rfl, by simp [toString]⟩
  | ended exit => exact BuildResult.explains_ofRun _ _ _ _

/-- **A step reports the reply to its call.** -/
theorem reports_of_run (h : t.run step arguments path m = (.ok result, m')) :
    t.Reports step m.upcoming result := by
  unfold run at h
  obtain ⟨m₁, shown, h⟩ := optional_eq_ok h
  have untouched : m₁.upcoming = m.upcoming := by
    rcases shown with rfl | printed
    · rfl
    · cases printed
      rfl
  obtain ⟨project, m₂, resolved, h⟩ := bind_eq_ok_iff.1 h
  rw [eq_of_look resolved] at h
  obtain ⟨reply, m₃, called, h⟩ := bind_eq_ok_iff.1 h
  rw [← untouched, ← eq_upcoming_of_call called]
  cases reply with
  | timedOut =>
    cases h
    exact .timedOut
  | commandMissing =>
    cases h
    exact .commandMissing
  | ended exit =>
    obtain ⟨m₄, -, h⟩ := optional_eq_ok h
    cases h
    exact .ended exit
  | interrupted => cases h
  | broken reason => cases h

end Toolchain

end ProofGrading
