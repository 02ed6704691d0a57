import ProofGrading.Failure

/-!
# Yaml/Flaw — what can be wrong with a YAML text
-/

namespace ProofGrading.Yaml

/-- Why a YAML text has no value. -/
inductive Flaw where
  | unprintable
  | undecodable
  | badDirective
  | badAnchor
  | badTag
  | badEscape
  | noSuchCharacter
  | hugeCharacter
  | openScalar
  | badBlockHeader
  | misplaced
  | noToken
  | missingColon
  | unexpectedToken
  | unknownHandle
  | unknownAlias
  | repeatedAnchor
  | manyDocuments
  | tooDeep
  | wrongShape
  | unhashableKey
  | badMerge
  | badBinary
  | unknownTag
  | noTruthWord (word : String)
  | noNumber
  | emptyNumber
  | hugeNumber
  | noMoment
  | momentOfMapping
  | momentOutOfRange
  deriving DecidableEq, Repr

/-- The failure that a flaw counts as: most are faults of the YAML text, some come from reading a
single value. -/
def Flaw.failure : Flaw → Failure
  | noTruthWord word => .missingKey word
  | noSuchCharacter | noNumber | momentOutOfRange => .badValue
  | emptyNumber => .badIndex
  | hugeCharacter | hugeNumber => .overflow
  | undecodable => .badText
  | tooDeep => .tooDeep
  | noMoment => .noMoment
  | momentOfMapping => .wrongType
  | _ => .badYaml

end ProofGrading.Yaml
