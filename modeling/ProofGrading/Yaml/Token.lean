/-!
# Yaml/Token — the tokens of a YAML text

Indentation is made explicit: a block collection has a start and an end, and a key has a token of
its own even where the text has no sign for it.
-/

namespace ProofGrading.Yaml

/-- A line that starts with a percent sign. -/
inductive Directive where
  | version (major minor : Nat)
  | handle (name start : String)
  | unknown
  deriving DecidableEq, Repr

/-- The tokens of a text. -/
inductive Token where
  | directive (d : Directive)
  | documentStart
  | documentEnd
  | blockSequenceStart
  | blockMappingStart
  | blockEnd
  | flowSequenceStart
  | flowSequenceEnd
  | flowMappingStart
  | flowMappingEnd
  | blockEntry
  | flowEntry
  | key
  | value
  | alias (name : String)
  | anchor (name : String)
  | tag (handle : Option String) (suffix : String)
  | scalar (plain : Bool) (text : String)
  | streamEnd
  deriving DecidableEq, Repr

end ProofGrading.Yaml
