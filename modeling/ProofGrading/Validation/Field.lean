import ProofGrading.Validation.Scalar

/-!
# Validation/Field — reading the fields of an object

A field is required, has a default, or may be `null`; unknown fields are not looked at.  Main
statement: what a required field gives was read from the value that stands there
(`required_eq_valid_iff`).
-/

namespace ProofGrading

namespace Field

variable {α : Type}

/-- Reads one value, a misfit being a problem at `place`. -/
def placed (place : List String) (r : Except Misfit α) : Checked α :=
  match r with
  | .ok a => .valid a
  | .error e => .invalid [⟨place, e⟩]

theorem placed_eq_valid_iff {place : List String} {r : Except Misfit α} {a : α} :
    placed place r = .valid a ↔ r = .ok a := by
  cases r <;> simp [placed]

/-- A field that must be there. -/
def required (fields : List (String × Json)) (key : String) (read : Scalar → Except Misfit α) :
    Checked α :=
  match Json.field? fields key with
  | none => .invalid [⟨[key], .missing⟩]
  | some v => placed [key] (read v.scalar)

theorem required_eq_valid_iff {fields : List (String × Json)} {key : String}
    {read : Scalar → Except Misfit α} {a : α} : required fields key read = .valid a ↔
      ∃ v, Json.field? fields key = some v ∧ read v.scalar = .ok a := by
  unfold required
  cases Json.field? fields key <;> simp [placed_eq_valid_iff]

/-- A field with a default. -/
def optional (fields : List (String × Json)) (key : String) (default : α)
    (read : Scalar → Except Misfit α) : Checked α :=
  match Json.field? fields key with
  | none => .valid default
  | some v => placed [key] (read v.scalar)

/-- A field that may be absent or `null`. -/
def nullable (fields : List (String × Json)) (key : String) (read : Scalar → Except Misfit α) :
    Checked (Option α) :=
  match Json.field? fields key with
  | none => .valid none
  | some .null => .valid none
  | some v => placed [key] ((read v.scalar).map some)

/-- The items of an array from index `i`, each one a text. -/
def stringItems (key : String) : Nat → List Json → Checked (List String)
  | _, [] => .valid []
  | i, v :: rest =>
    (placed [key, toString i] v.scalar.string |>.map List.cons).both (stringItems key (i + 1) rest)

/-- A field that holds an array of texts; `otherwise` is what is wrong with all but an array. -/
def strings (fields : List (String × Json)) (key : String) (otherwise : Misfit) :
    Checked (List String) :=
  match Json.field? fields key with
  | none => .valid []
  | some (.arr items) => stringItems key 0 items
  | some _ => .invalid [⟨[key], otherwise⟩]

/-- One of some values, each with its name. -/
def choice (table : List (String × α)) : Scalar → Except Misfit α
  | .text s => do
    match table.find? (·.1 == (← Scalar.wholeText s)) with
    | some e => .ok e.2
    | none => .error (.notAmong (table.map (·.1)))
  | _ => .error (.notAmong (table.map (·.1)))

end Field

end ProofGrading
