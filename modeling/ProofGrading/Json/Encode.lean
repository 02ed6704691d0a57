import ProofGrading.Json.Basic
import ProofGrading.Decimal.Style
import ProofGrading.Text.Encoding

/-!
# Json/Encode — writing JSON

`render` writes a value on one line, `pretty` on many with an indent of two blanks for each level.
How a double is written is a parameter.
-/

namespace ProofGrading.Json

/-- One character inside quotes: quotes, backslashes and the control characters are escaped. -/
def quoteChar (c : Char) : List Char :=
  if c = '"' then ['\\', '"']
  else if c = '\\' then ['\\', '\\']
  else if c = '\x08' then ['\\', 'b']
  else if c = '\t' then ['\\', 't']
  else if c = '\n' then ['\\', 'n']
  else if c = '\x0c' then ['\\', 'f']
  else if c = '\r' then ['\\', 'r']
  else if c.toNat < 0x20 then '\\' :: 'u' :: Text.hexDigits 4 c.toNat
  else [c]

/-- A text in quotes. -/
def quote (s : String) : List Char := '"' :: (s.toList.flatMap quoteChar ++ ['"'])

/-- The text of an integer. -/
def intText (n : Int) : List Char :=
  if n < 0 then '-' :: Decimal.natText n.natAbs else Decimal.natText n.natAbs

/-- Puts a comma between texts. -/
def commaSeparated : List (List Char) → List Char
  | [] => []
  | [x] => x
  | x :: rest => x ++ ',' :: commaSeparated rest

mutual
/-- A value on one line. -/
def renderChars (float : Float → List Char) : Json → List Char
  | .null => ['n', 'u', 'l', 'l']
  | .bool true => ['t', 'r', 'u', 'e']
  | .bool false => ['f', 'a', 'l', 's', 'e']
  | .int n => intText n
  | .float x => float x
  | .str s => quote s
  | .arr items => '[' :: (commaSeparated (renderItems float items) ++ [']'])
  | .obj fields => '\x7b' :: (commaSeparated (renderFields float fields) ++ ['\x7d'])
/-- The items of an array. -/
def renderItems (float : Float → List Char) : List Json → List (List Char)
  | [] => []
  | x :: rest => renderChars float x :: renderItems float rest
/-- The fields of an object. -/
def renderFields (float : Float → List Char) : List (String × Json) → List (List Char)
  | [] => []
  | (k, v) :: rest => (quote k ++ ':' :: renderChars float v) :: renderFields float rest
end

/-- A new line with its indent. -/
def newLine (level : Nat) : List Char := '\n' :: List.replicate (2 * level) ' '

/-- Lines in brackets, each on its own line, or the brackets alone. -/
def block (level : Nat) (opening closing : Char) (parts : List (List Char)) : List Char :=
  if parts.isEmpty then [opening, closing]
  else
    opening :: (commaSeparated (parts.map (newLine (level + 1) ++ ·)) ++ newLine level ++ [closing])

mutual
/-- A value on many lines, indented by `level`. -/
def prettyChars (float : Float → List Char) (level : Nat) : Json → List Char
  | .arr items => block level '[' ']' (prettyItems float (level + 1) items)
  | .obj fields => block level '\x7b' '\x7d' (prettyFields float (level + 1) fields)
  | .null => ['n', 'u', 'l', 'l']
  | .bool true => ['t', 'r', 'u', 'e']
  | .bool false => ['f', 'a', 'l', 's', 'e']
  | .int n => intText n
  | .float x => float x
  | .str s => quote s
/-- The items of an array. -/
def prettyItems (float : Float → List Char) (level : Nat) : List Json → List (List Char)
  | [] => []
  | x :: rest => prettyChars float level x :: prettyItems float level rest
/-- The fields of an object. -/
def prettyFields (float : Float → List Char) (level : Nat) :
    List (String × Json) → List (List Char)
  | [] => []
  | (k, v) :: rest =>
    (quote k ++ ':' :: ' ' :: prettyChars float level v) :: prettyFields float level rest
end

/-- A double in an answer: what is not finite is named in quotes. -/
def answerFloat (x : Float) : List Char :=
  match Decimal.view x with
  | .nan => quote "NaN"
  | .infinite false => quote "Infinity"
  | .infinite true => quote "-Infinity"
  | .finite b => Decimal.Style.answer.binary b

/-- A double in a results document: what is not finite is `null`. -/
def documentFloat (x : Float) : List Char :=
  match Decimal.Style.document.write? x with
  | some cs => cs
  | none => ['n', 'u', 'l', 'l']

/-- A value on one line; half of a surrogate pair is escaped. -/
def render (j : Json) : String :=
  String.ofList (Text.withEscapedHalves (renderChars answerFloat j))

/-- A value as a results document. -/
def document (j : Json) : String := String.ofList (prettyChars documentFloat 0 j)

end ProofGrading.Json
