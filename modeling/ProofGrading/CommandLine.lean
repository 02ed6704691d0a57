import ProofGrading.Host.Path

/-!
# CommandLine — what a grading is asked to do

The arguments are options and names in any order.  Options may be cut short as long as it is clear
which one is meant.  Either no names are given or two: a module and a file (`parse_names`).
-/

namespace ProofGrading

/-- How a grading is invoked: the settings file, whether to tell more, and the module and the file
to grade if they are given. -/
structure Invocation where
  settings : String := "grader_config.yml"
  verbose : Bool := false
  given : Option (String × String) := none
  deriving DecidableEq, Repr

/-- Why arguments do not start a grading. -/
inductive Refusal where
  | help
  | usage (reason : String)
  deriving DecidableEq, Repr

namespace CommandLine

/-- How the program is called. -/
def usageText : String :=
  "Usage:\n  main.py [--config=PATH] [--verbose]\n"
    ++ "  main.py <reference_module> <submission_file> [--config=PATH] [--verbose]\n"
    ++ "  main.py (-h | --help)"

/-- What the program is for and how it is called. -/
def helpText : String :=
  "Lean Grader: Automated grading of Lean proof submissions\n\n" ++ usageText ++ "\n\n"
    ++ "Arguments:\n"
    ++ "  <reference_module>  Module name of the reference sheet (e.g. Assignment).\n"
    ++ "  <submission_file>   Path to the student's Lean file.\n\n"
    ++ "Options:\n"
    ++ "  --config=PATH  Path to YAML configuration file [default: grader_config.yml].\n"
    ++ "  --verbose      Print toolchain output.\n"
    ++ "  -h --help      Show this screen."

/-- An option: its name and whether it takes a value. -/
structure Spec where
  name : String
  takesValue : Bool
  deriving DecidableEq, Repr

/-- The options of the program. -/
def specs : List Spec := [⟨"--config", true⟩, ⟨"--verbose", false⟩, ⟨"--help", false⟩]

/-- A part of the arguments: a name, or an option with its value. -/
inductive Part where
  | name (s : String)
  | option (name : String) (value : Option String)
  deriving DecidableEq, Repr

/-- Splits an option at its first equals sign. -/
def splitValue (s : String) : String × Option String :=
  let (name, rest) := s.toList.span (· != '=')
  match rest with
  | [] => (s, none)
  | _ :: value => (String.ofList name, some (String.ofList value))

/-- The options that a name stands for: the one of that name, or else all that start with it. -/
def candidates (known : List Spec) (name : String) : List Spec :=
  match known.filter (·.name == name) with
  | [] => known.filter fun o => name.toList.isPrefixOf o.name.toList
  | exact => exact

/-- What a long option comes to. -/
inductive LongOption where
  | complete (part : Part)
  | unknown (part : Part) (spec : Spec)
  | wantsValue (name : String)
  | wrong (reason : String)

/-- Reads a long option. -/
def longOption (known : List Spec) (argument : String) : LongOption :=
  let (name, value) := splitValue argument
  match candidates known name with
  | [] => .unknown (.option name value) ⟨name, value.isSome⟩
  | [o] =>
    if o.takesValue then
      match value with
      | some v => .complete (.option o.name (some v))
      | none => .wantsValue o.name
    else if value.isSome then .wrong s!"{o.name} must not have an argument"
    else .complete (.option o.name none)
  | several =>
    let names := ", ".intercalate (several.map (·.name))
    .wrong s!"{name} is not a unique prefix: {names}?"

/-- Reads letters after a hyphen, each of which is an option. -/
def letterOptions (argument : String) : List Part :=
  ((argument.toList.drop 1).dropWhile (· == '-')).map fun c =>
    .option (if c == 'h' then "--help" else String.ofList ['-', c]) none

/-- Reads arguments from left to right; after `--` all are names. -/
def parts (known : List Spec) : List String → Except String (List Part)
  | [] => .ok []
  | argument :: rest =>
    if argument == "--" then .ok ((argument :: rest).map .name)
    else if "--".toList.isPrefixOf argument.toList then
      match longOption known argument with
      | .complete part => (parts known rest).map (part :: ·)
      | .unknown part spec => (parts (known ++ [spec]) rest).map (part :: ·)
      | .wrong reason => .error reason
      | .wantsValue name =>
        match rest with
        | [] => .error s!"{name} requires argument"
        | value :: rest =>
          if value == "--" then .error s!"{name} requires argument"
          else (parts known rest).map (.option name (some value) :: ·)
    else if argument.toList.head? == some '-' && argument != "-" then
      (parts known rest).map (letterOptions argument ++ ·)
    else (parts known rest).map (.name argument :: ·)

/-- The names among some parts. -/
def namesOf (ps : List Part) : List String :=
  ps.filterMap fun
    | .name s => some s
    | .option _ _ => none

/-- The values of an option among some parts. -/
def valuesOf (ps : List Part) (name : String) : List (Option String) :=
  ps.filterMap fun
    | .name _ => none
    | .option n v => if n == name then some v else none

/-- Whether a part is a name or an option of the program. -/
def isKnown : Part → Bool
  | .name _ => true
  | .option n _ => specs.any (·.name == n)

/-- The module and the file among some names: both or none. -/
def givenOf : List String → Option (Option (String × String))
  | [] => some none
  | [home, file] => some (some (home, file))
  | _ => none

/-- **Reads the arguments of a grading.**  No option may be given twice. -/
def parse (arguments : List String) : Except Refusal Invocation :=
  match parts specs arguments with
  | .error reason => .error (.usage reason)
  | .ok ps =>
    let config := valuesOf ps "--config"
    let verbose := valuesOf ps "--verbose"
    if !(valuesOf ps "--help").isEmpty then .error .help
    else if 1 < config.length || 1 < verbose.length || !ps.all isKnown then .error (.usage "")
    else
      match givenOf (namesOf ps) with
      | none => .error (.usage "")
      | some given =>
        let standard : Invocation := {}
        .ok
          { settings := (config.head?.bind id).getD standard.settings
            verbose := !verbose.isEmpty
            given }

theorem parts_cons_of_name {known : List Spec} {a : String} (h : a.toList.head? ≠ some '-')
    (rest : List String) : parts known (a :: rest) = (parts known rest).map (.name a :: ·) := by
  have dashes : "--".toList = ['-', '-'] := by decide
  have whole : (a == "--") = false := by
    rw [beq_eq_false_iff_ne]
    rintro rfl
    exact h rfl
  have long : "--".toList.isPrefixOf a.toList = false := by
    rw [dashes]
    cases ha : a.toList with
    | nil => rfl
    | cons c cs =>
      have : c ≠ '-' := by
        rintro rfl
        exact h (by rw [ha]; rfl)
      simp [List.isPrefixOf, this.symm]
  have short : (a.toList.head? == some '-') = false := beq_eq_false_iff_ne.2 h
  rw [parts, whole, long, short]
  rfl

/-- **Two names are a module and a file.** -/
theorem parse_names {a b : String} (ha : a.toList.head? ≠ some '-')
    (hb : b.toList.head? ≠ some '-') : parse [a, b] = .ok { given := some (a, b) } := by
  have read : parts specs [a, b] = .ok [.name a, .name b] := by
    rw [parts_cons_of_name ha, parts_cons_of_name hb, parts]
    rfl
  rw [parse, read]
  rfl

end CommandLine

/-- What is told about a refusal. -/
def Refusal.message : Refusal → String
  | help => CommandLine.helpText
  | usage reason =>
    if reason.isEmpty then CommandLine.usageText else reason ++ "\n" ++ CommandLine.usageText

end ProofGrading
