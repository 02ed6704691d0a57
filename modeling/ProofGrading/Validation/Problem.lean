/-!
# Validation/Problem — what can be wrong with a record

A record is read field by field; every field that is missing or does not fit is a `Problem`, and all
problems of a record are reported together (`Invalid.message`), in the order of its fields.  Main
statement: two parts are read just when each of them is (`Checked.both_eq_valid_iff`).
-/

namespace ProofGrading

/-- What is wrong with one value. -/
inductive Misfit where
  | missing
  | notString
  | notUnicode
  | notNumber
  | unreadableNumber
  | negative
  | notPositive
  | notBoolean
  | unreadableBoolean
  | notSequence
  | notList
  | notInteger
  | unreadableInteger
  | integerTooLong
  | fractionalInteger
  | notFinite
  | notAmong (choices : List String)
  | notPath
  | noItems
  | noCharacters
  | badRepository
  deriving DecidableEq, Repr

/-- Choices in quotes, the last one after `or`. -/
def choiceList : List String → String
  | [] => ""
  | [a] => s!"'{a}'"
  | [a, b] => s!"'{a}' or '{b}'"
  | a :: rest => s!"'{a}', " ++ choiceList rest

/-- The wording for the reader and the tag of a misfit. -/
def Misfit.wording : Misfit → String × String
  | missing => ("Field required", "missing")
  | notString => ("Input should be a valid string", "string_type")
  | notUnicode =>
    ("Input should be a valid string, unable to parse raw data as a unicode string",
      "string_unicode")
  | notNumber => ("Input should be a valid number", "float_type")
  | unreadableNumber =>
    ("Input should be a valid number, unable to parse string as a number", "float_parsing")
  | negative => ("Input should be greater than or equal to 0", "greater_than_equal")
  | notPositive => ("Input should be greater than 0", "greater_than")
  | notBoolean => ("Input should be a valid boolean", "bool_type")
  | unreadableBoolean =>
    ("Input should be a valid boolean, unable to interpret input", "bool_parsing")
  | notSequence => ("Input should be a valid tuple", "tuple_type")
  | notList => ("Input should be a valid list", "list_type")
  | notInteger => ("Input should be a valid integer", "int_type")
  | unreadableInteger =>
    ("Input should be a valid integer, unable to parse string as an integer", "int_parsing")
  | integerTooLong =>
    ("Unable to parse input string as an integer, exceeded maximum size", "int_parsing_size")
  | fractionalInteger =>
    ("Input should be a valid integer, got a number with a fractional part", "int_from_float")
  | notFinite => ("Input should be a finite number", "finite_number")
  | notAmong choices => ("Input should be " ++ choiceList choices, "enum")
  | notPath => ("Input is not a valid path for <class 'pathlib.Path'>", "path_type")
  | noItems => ("Tuple should have at least 1 item after validation, not 0", "too_short")
  | noCharacters => ("String should have at least 1 character", "string_too_short")
  | badRepository =>
    ("String should match pattern '^[\\w.-]+/[\\w.-]+$'", "string_pattern_mismatch")

/-- A misfit at a place of the record: a field, or a field and the index of an item. -/
structure Problem where
  place : List String
  misfit : Misfit
  deriving DecidableEq, Repr

/-- A place and what is wrong there, on two lines. -/
def Problem.message (p : Problem) : String :=
  let (text, tag) := p.misfit.wording
  ".".intercalate p.place ++ s!"\n  {text} [type={tag}]"

/-- A record that does not fit its shape, with all that is wrong. -/
structure Invalid where
  shape : String
  problems : List Problem
  deriving DecidableEq, Repr

/-- The count of problems, then one after the other. -/
def Invalid.message (e : Invalid) : String :=
  let n := e.problems.length
  let noun := if n = 1 then "error" else "errors"
  let head := s!"{n} validation {noun} for {e.shape}"
  "\n".intercalate (head :: e.problems.map Problem.message)

/-- A value that was read, or all that is wrong with it. -/
inductive Checked (α : Type) where
  | valid (value : α)
  | invalid (problems : List Problem)

namespace Checked

variable {α β : Type}

/-- Applies a function to a value that was read. -/
def map (f : α → β) : Checked α → Checked β
  | valid a => valid (f a)
  | invalid ps => invalid ps

/-- Reads two parts and **collects the problems of both**. -/
def both (f : Checked (α → β)) (a : Checked α) : Checked β :=
  match f, a with
  | valid f, valid a => valid (f a)
  | valid _, invalid qs => invalid qs
  | invalid ps, valid _ => invalid ps
  | invalid ps, invalid qs => invalid (ps ++ qs)

instance : Applicative Checked where
  pure := valid
  seq f a := both f (a ())
  map := map

/-- The record, or its shape with all its problems. -/
def toExcept (shape : String) : Checked α → Except Invalid α
  | valid a => .ok a
  | invalid ps => .error ⟨shape, ps⟩

/-- **Two parts are read just when each of them is.** -/
theorem both_eq_valid_iff {f : Checked (α → β)} {a : Checked α} {b : β} :
    both f a = valid b ↔ ∃ g x, f = valid g ∧ a = valid x ∧ g x = b := by
  constructor
  · intro h
    cases f with
    | invalid _ => cases a <;> cases h
    | valid g =>
      cases a with
      | invalid _ => cases h
      | valid x => exact ⟨g, x, rfl, rfl, by cases h; rfl⟩
  · rintro ⟨g, x, rfl, rfl, rfl⟩
    rfl

theorem map_eq_valid_iff {f : α → β} {a : Checked α} {b : β} :
    f <$> a = valid b ↔ ∃ x, a = valid x ∧ f x = b := by
  cases a <;> simp [Functor.map, Checked.map]

theorem seq_eq_valid_iff {f : Checked (α → β)} {a : Checked α} {b : β} :
    f <*> a = valid b ↔ ∃ g x, f = valid g ∧ a = valid x ∧ g x = b := both_eq_valid_iff

/-- A record is there just when it was read. -/
theorem toExcept_eq_ok_iff {shape : String} {c : Checked α} {a : α} :
    c.toExcept shape = .ok a ↔ c = valid a := by
  cases c <;> simp [toExcept]

end Checked

end ProofGrading
