import ProofGrading.Decimal.Numeral
import ProofGrading.Text.Case
import ProofGrading.Validation.Scalar
import ProofGrading.Yaml.Node

/-!
# Yaml/Value — the value of a YAML document

Scalars become nothing, truth values, numbers, texts, bytes and dates, as their tags say.  A merge
key brings in the pairs of other mappings, which the mapping's own pairs override.
-/

namespace ProofGrading.Yaml

/-- A value; the entries of a mapping have distinct texts as keys, and other keys in any number. -/
inductive Value where
  | single (v : Scalar)
  | moment
  | list (items : List Value)
  | map (entries : List (Value × Value))
  | set (members : List Value)
  | cycle
  deriving Inhabited

namespace Value

/-- A value as the readers of single values see it. -/
def scalar : Value → Scalar
  | single v => v
  | _ => .other

/-- Whether a value is nothing, false, zero or empty. -/
def isFalsy : Value → Bool
  | single .null => true
  | single (.bool b) => !b
  | single (.int n) => n == 0
  | single (.float x) => x == 0.0
  | single (.text s) => s.isEmpty
  | single (.bytes data) => data.isEmpty
  | single .other => false
  | moment => false
  | list items => items.isEmpty
  | map entries => entries.isEmpty
  | set members => members.isEmpty
  | cycle => false

end Value

namespace Construct

/-- A number to the base sixty, its places from the first to the last. -/
def sixties (places : List Int) : Int := places.foldl (fun n d => 60 * n + d) 0

/-- The integer of a text: a sign, and a form that its start tells. -/
def intOf (text : String) : Except Flaw Int :=
  let cs := text.toList.filter (· != '_')
  let negative := cs.head? == some '-'
  let body := Pattern.unsigned cs
  let magnitude : Option Int := match body with
    | ['0'] => some 0
    | '0' :: 'b' :: r => Decimal.Numeral.integer? 2 r
    | '0' :: 'x' :: r => Decimal.Numeral.integer? 16 r
    | '0' :: r => Decimal.Numeral.integer? 8 ('0' :: r)
    | _ =>
      if body.contains ':' then
        ((Text.splitOn ':' body).mapM (Decimal.Numeral.integer? 10)).map sixties
      else Decimal.Numeral.integer? 10 body
  if body.isEmpty then .error .emptyNumber
  else
    match magnitude with
    | some n => .ok (if negative then -n else n)
    | none => .error .noNumber

/-- A double to the base sixty, added up from the last place to the first; `unit` is what the last
place counts.  No unit may be beyond all doubles. -/
def sixtieths (unit : Nat) (sum : Float) : List Float → Except Flaw Float
  | [] => .ok sum
  | d :: places =>
    match Scalar.doubleOfInt? unit with
    | some x => sixtieths (60 * unit) (sum + d * x) places
    | none => .error .hugeNumber

/-- The double of a text without its sign. -/
def magnitudeOf (body : List Char) : Except Flaw Float :=
  if body == ['.', 'i', 'n', 'f'] then .ok (1.0 / 0.0)
  else if body == ['.', 'n', 'a', 'n'] then .ok (0.0 / 0.0)
  else if body.contains ':' then
    match (Text.splitOn ':' body).mapM Decimal.Numeral.double? with
    | some places => sixtieths 1 0.0 places.reverse
    | none => .error .noNumber
  else
    match Decimal.Numeral.double? body with
    | some x => .ok x
    | none => .error .noNumber

/-- The double of a text. -/
def floatOf (text : String) : Except Flaw Float :=
  let cs := (text.toList.filter (· != '_')).map Char.toLower
  if cs.isEmpty then .error .emptyNumber
  else
    (magnitudeOf (Pattern.unsigned cs)).map fun x => if cs.head? == some '-' then -x else x

/-- The truth value of a word in any case. -/
def truthOf (text : String) : Except Flaw Bool :=
  let word := Text.lowerCase text
  if ["yes", "true", "on"].contains word then .ok true
  else if ["no", "false", "off"].contains word then .ok false
  else .error (.noTruthWord word)

/-- The value of a character in base sixty-four. -/
def base64Digit? (c : Char) : Option Nat :=
  if 'A' ≤ c ∧ c ≤ 'Z' then some (c.toNat - 'A'.toNat)
  else if 'a' ≤ c ∧ c ≤ 'z' then some (c.toNat - 'a'.toNat + 26)
  else if '0' ≤ c ∧ c ≤ '9' then some (c.toNat - '0'.toNat + 52)
  else if c = '+' then some 62
  else if c = '/' then some 63
  else none

/-- Bytes in base sixty-four: `place` digits of a group of four were read, `carry` holds their bits
that make up no byte yet, `pads` counts the padding.  Other characters are skipped. -/
def base64 (place carry pads : Nat) : List Char → Option (List UInt8)
  | [] => if place = 0 then some [] else none
  | c :: rest =>
    if c = '=' then
      if 2 ≤ place ∧ 4 ≤ place + pads + 1 then some []
      else base64 place carry (if 2 ≤ place then pads + 1 else pads) rest
    else
      match base64Digit? c with
      | none => base64 place carry pads rest
      | some d =>
        match place with
        | 0 => base64 1 d 0 rest
        | 1 => (base64 2 (d % 16) 0 rest).map (UInt8.ofNat (carry * 4 + d / 16) :: ·)
        | 2 => (base64 3 (d % 4) 0 rest).map (UInt8.ofNat (carry * 16 + d / 4) :: ·)
        | _ => (base64 0 0 0 rest).map (UInt8.ofNat (carry * 64 + d) :: ·)

/-- The bytes of a text. -/
def bytesOf (text : String) : Except Flaw ByteArray :=
  if text.toList.all fun c => c.toNat < 128 then
    match base64 0 0 0 text.toList with
    | some bytes => .ok ⟨bytes.toArray⟩
    | none => .error .badBinary
  else .error .badBinary

/-- The date of a text, which has to exist. -/
def momentOf (text : String) : Except Flaw Value :=
  let cs := text.toList
  let cs := if cs.getLast? == some '\n' then cs.dropLast else cs
  match Moment.read? cs with
  | some m => if m.isValid then .ok .moment else .error .momentOutOfRange
  | none => .error .noMoment

/-- The value of a scalar. -/
def scalarValue (tag text : String) : Except Flaw Value :=
  if tag == coreTag "str" then .ok (.single (.text text))
  else if tag == coreTag "null" then .ok (.single .null)
  else if tag == coreTag "bool" then (truthOf text).map fun b => .single (.bool b)
  else if tag == coreTag "int" then (intOf text).map fun n => .single (.int n)
  else if tag == coreTag "float" then (floatOf text).map fun x => .single (.float x)
  else if tag == coreTag "binary" then (bytesOf text).map fun data => .single (.bytes data)
  else if tag == coreTag "timestamp" then momentOf text
  else .error .unknownTag

/-- The tags of collections. -/
def isCollectionTag (tag : String) : Bool :=
  (["seq", "map", "set", "omap", "pairs"].map coreTag).contains tag

/-- The tags of single values. -/
def isSingleTag (tag : String) : Bool :=
  (["str", "null", "bool", "int", "float", "binary", "timestamp"].map coreTag).contains tag

mutual
/-- The text of a scalar, or of the value at the default key of a mapping. -/
def textOf : Node → Option String
  | .scalar _ text => some text
  | .mapping _ pairs => textOfPairs pairs
  | _ => none
/-- The text of the value at the default key. -/
def textOfPairs : List (Node × Node) → Option String
  | [] => none
  | (k, v) :: rest => if k.tag == coreTag "value" then textOf v else textOfPairs rest
end

/-- Whether two values are the same text. -/
def sameText : Value → Value → Bool
  | .single (.text a), .single (.text b) => a == b
  | _, _ => false

/-- Puts an entry at its key's place, or at the end. -/
def putEntry (entries : List (Value × Value)) (k v : Value) : List (Value × Value) :=
  match entries with
  | [] => [(k, v)]
  | (j, w) :: rest => if sameText j k then (j, v) :: rest else (j, w) :: putEntry rest k v

/-- The value that a mapping stands for under the tag of a single value: that of the text at its
default key.  A date is read from a text only. -/
def valueOfPairs (tag : String) (pairs : List (Node × Node)) : Except Flaw Value :=
  match textOfPairs pairs with
  | some text =>
    if tag == coreTag "timestamp" then .error .momentOfMapping else scalarValue tag text
  | none => .error .wrongShape

/-! ## Collections

Collections are filled level by level: the flaw that counts is the first one of the outermost level
that has any.  On one level the entries that are merged in come before the mapping's own. -/

/-- A value, or the flaw that counts with its level. -/
abbrev Leveled (α : Type) : Type := Except (Nat × Flaw) α

/-- A result at a level. -/
def atLevel {α : Type} (level : Nat) (r : Except Flaw α) : Leveled α := r.mapError (level, ·)

/-- Puts two results together; of two flaws the one of the outer level counts, or else the first. -/
def both {α β γ : Type} (f : α → β → γ) : Leveled α → Leveled β → Leveled γ
  | .ok a, .ok b => .ok (f a b)
  | .error e, .ok _ => .error e
  | .ok _, .error e => .error e
  | .error e, .error e' => .error (if e'.1 < e.1 then e' else e)

mutual
/-- Whether merge keys have mappings as values, or lists of mappings. -/
def mergesFit : List (Node × Node) → Bool
  | [] => true
  | (k, v) :: rest => (k.tag != coreTag "merge" || mergeFits v) && mergesFit rest
/-- Whether a node can be the value of a merge key. -/
def mergeFits : Node → Bool
  | .cycle => true
  | .scalar _ _ => false
  | .mapping _ pairs => mergesFit pairs
  | .sequence _ items => mergeItemsFit items
/-- Whether all items are mappings. -/
def mergeItemsFit : List Node → Bool
  | [] => true
  | .cycle :: rest => mergeItemsFit rest
  | .mapping _ pairs :: rest => mergesFit pairs && mergeItemsFit rest
  | _ :: _ => false
end

/-- What is wrong with a collection as a key. -/
def keyFlaw (tag : String) : Flaw :=
  if isCollectionTag tag then .unhashableKey
  else if isSingleTag tag then .wrongShape
  else .unknownTag

/-- A key has to be a single value; the default key is a text here. -/
def keyOf : Node → Except Flaw Value
  | .cycle => .error .unhashableKey
  | .scalar tag text => scalarValue (if tag == coreTag "value" then coreTag "str" else tag) text
  | .sequence tag _ => .error (keyFlaw tag)
  | .mapping tag pairs =>
    if isSingleTag tag then valueOfPairs tag pairs else .error (keyFlaw tag)

mutual
/-- The value of a node; what is inside a collection is one level further in. -/
def value (level : Nat) : Node → Leveled Value
  | .cycle => .ok .cycle
  | .scalar tag text =>
    if isCollectionTag tag then .error (level + 1, .wrongShape)
    else atLevel level (scalarValue tag text)
  | .sequence tag items =>
    if tag == coreTag "seq" then (listOf (level + 1) items).map .list
    else if tag == coreTag "omap" || tag == coreTag "pairs" then
      (pairLists (level + 1) items).map .list
    else if isSingleTag tag then .error (level, .wrongShape)
    else if isCollectionTag tag then .error (level + 1, .wrongShape)
    else .error (level, .unknownTag)
  | .mapping tag pairs =>
    if tag == coreTag "map" || tag == coreTag "set" then
      if mergesFit pairs then
        (both (· ++ ·) (mergedEntries (level + 1) pairs) (ownEntries (level + 1) pairs)).map
          fun entries =>
            if tag == coreTag "map" then
              .map (entries.foldl (fun es e => putEntry es e.1 e.2) [])
            else .set (entries.map (·.1))
      else .error (level + 1, .badMerge)
    else if isSingleTag tag then atLevel level (valueOfPairs tag pairs)
    else if isCollectionTag tag then .error (level + 1, .wrongShape)
    else .error (level, .unknownTag)
/-- The values of some nodes. -/
def listOf (level : Nat) : List Node → Leveled (List Value)
  | [] => .ok []
  | n :: rest => both List.cons (value level n) (listOf level rest)
/-- The pairs of a list of mappings that have one pair each. -/
def pairLists (level : Nat) : List Node → Leveled (List Value)
  | [] => .ok []
  | .mapping _ [(k, v)] :: rest =>
    both List.cons (both (fun k v => .list [k, v]) (value level k) (value level v))
      (pairLists level rest)
  | _ :: _ => .error (level, .wrongShape)
/-- The entries that the merge keys of a mapping bring in. -/
def mergedEntries (level : Nat) : List (Node × Node) → Leveled (List (Value × Value))
  | [] => .ok []
  | (k, v) :: rest =>
    if k.tag == coreTag "merge" then
      both (· ++ ·) (mergedOf level v) (mergedEntries level rest)
    else mergedEntries level rest
/-- The entries of a mapping that are its own. -/
def ownEntries (level : Nat) : List (Node × Node) → Leveled (List (Value × Value))
  | [] => .ok []
  | (k, v) :: rest =>
    if k.tag == coreTag "merge" then ownEntries level rest
    else
      both List.cons (both Prod.mk (atLevel level (keyOf k)) (value level v))
        (ownEntries level rest)
/-- The entries that the value of a merge key brings in. -/
def mergedOf (level : Nat) : Node → Leveled (List (Value × Value))
  | .cycle => .ok []
  | .scalar _ _ => .error (level, .badMerge)
  | .mapping _ pairs => both (· ++ ·) (mergedEntries level pairs) (ownEntries level pairs)
  | .sequence _ items => mergedItems level items
/-- The entries of some mappings, those of the last one first, so that the first one wins. -/
def mergedItems (level : Nat) : List Node → Leveled (List (Value × Value))
  | [] => .ok []
  | .mapping _ pairs :: rest =>
    both (· ++ ·) (mergedItems level rest)
      (both (· ++ ·) (mergedEntries level pairs) (ownEntries level pairs))
  | .cycle :: rest => mergedItems level rest
  | _ :: _ => .error (level, .badMerge)
end

end Construct

/-- **The value of a YAML text**; a text without a document has none. -/
def Value.ofSource (source : Source) : Except Flaw Value := do
  match ← Node.ofSource? source with
  | some n => (Construct.value 0 n).mapError (·.2)
  | none => pure (.single .null)

end ProofGrading.Yaml
