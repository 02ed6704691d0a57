import ProofGrading.Environment

/-!
# Export — reading an exported environment

An export is an object with `declarations`, `module` and, optionally, `modules`.  What is wrong with
it is told in the order in which it is looked at: the declarations one by one, then the module, then
the modules.
-/

namespace ProofGrading

/-- Why an export does not describe an environment. -/
inductive MalformedExport where
  | missingKey (key : String)
  | wrongType
  | invalid (error : Invalid)
  deriving DecidableEq, Repr

/-- The wording of a malformed export; a value of the wrong type is only named. -/
def MalformedExport.message : MalformedExport → String
  | missingKey key => s!"'{key}'"
  | wrongType => "<TypeError>"
  | invalid e => e.message

namespace Export

/-- What a value yields item by item: the items of an array, the characters of a text, the keys of
an object. -/
def items? : Json → Option (List Json)
  | .arr items => some items
  | .str s => some (s.toList.map fun c => .str (String.singleton c))
  | .obj fields => some (fields.map fun f => .str f.1)
  | _ => none

/-- Reads one entry, which must be an object. -/
def declaration : Json → Except MalformedExport Declaration
  | .obj fields => (Declaration.ofFields fields).mapError .invalid
  | _ => .error .wrongType

/-- The modules that go with some declarations when none are listed. -/
def gathered (main : Json) (declarations : List Declaration) : List Json :=
  let own := match main with
    | .str s => [s]
    | _ => []
  main :: ((Environment.homesAfter own declarations).drop own.length).map .str

/-- Reads the entries one after the other; the first that fails decides. -/
def declarations : List Json → Except MalformedExport (List Declaration)
  | [] => .ok []
  | entry :: rest =>
    match declaration entry with
    | .error e => .error e
    | .ok d => (declarations rest).map (d :: ·)

/-- Reads an environment. -/
def environment (data : Json) : Except MalformedExport Environment := do
  let .obj fields := data | .error .wrongType
  let some entries := Json.field? fields "declarations" | .error (.missingKey "declarations")
  let some entries := items? entries | .error .wrongType
  let ds ← declarations entries
  let some main := Json.field? fields "module" | .error (.missingKey "module")
  let modules ← match (Json.field? fields "modules").getD .null with
    | .null => pure (gathered main ds)
    | listed =>
      match items? listed with
      | some items => pure items
      | none => .error .wrongType
  let checked := Checked.both
    ((Field.placed ["module"] main.scalar.string).map fun m ms => (m, ms))
    (Field.stringItems "modules" 0 modules)
  match checked.toExcept "Environment" with
  | .error e => .error (.invalid e)
  | .ok (main, modules) => pure (.ofList .compiled main modules ds)

end Export

end ProofGrading
