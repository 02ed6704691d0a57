import ProofGrading.Validation.Field

/-!
# Declaration — one constant of a compiled sheet

A declaration carries what grading asks about: its type as an exported tree, the constants that it
refers to, whether the exporter met an unproved placeholder, and the points it is worth.
-/

namespace ProofGrading

/-- What the kernel says a constant is. -/
inductive DeclarationKind where
  | axiomKind
  | definitionKind
  | theoremKind
  | opaqueKind
  | quotientKind
  | inductiveKind
  | constructorKind
  | recursorKind
  deriving DecidableEq, Repr, Inhabited

/-- The kinds under their exported names. -/
def DeclarationKind.table : List (String × DeclarationKind) :=
  [("axiom", axiomKind), ("definition", definitionKind), ("theorem", theoremKind),
    ("opaque", opaqueKind), ("quot", quotientKind), ("inductive", inductiveKind),
    ("constructor", constructorKind), ("recursor", recursorKind)]

/-- The exported name of a kind. -/
def DeclarationKind.label : DeclarationKind → String
  | axiomKind => "axiom"
  | definitionKind => "definition"
  | theoremKind => "theorem"
  | opaqueKind => "opaque"
  | quotientKind => "quot"
  | inductiveKind => "inductive"
  | constructorKind => "constructor"
  | recursorKind => "recursor"

/-- A named constant; `type` is `null` for one that was exported without its type. -/
structure Declaration where
  name : String
  home : Option String := none
  kind : DeclarationKind
  type : Json := .null
  references : List String := []
  hasSorry : Bool := false
  points : Option Float := none
  internal : Bool := false
  deriving Inhabited

namespace Declaration

/-- Whether a declaration is an axiom. -/
def isAxiom (d : Declaration) : Bool := d.kind == .axiomKind

/-- Reads a declaration from the fields of an object. -/
def ofFields (fields : List (String × Json)) : Except Invalid Declaration :=
  Checked.toExcept "Declaration" <|
    mk <$> Field.required fields "name" Scalar.string
      <*> Field.nullable fields "module" Scalar.string
      <*> Field.required fields "kind" (Field.choice DeclarationKind.table)
      <*> .valid ((Json.field? fields "type").getD .null)
      <*> Field.strings fields "references" .notSequence
      <*> Field.optional fields "has_sorry" false Scalar.boolean
      <*> Field.nullable fields "points" Scalar.nonNegative
      <*> Field.optional fields "internal" false Scalar.boolean

end Declaration

end ProofGrading
