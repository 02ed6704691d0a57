import ProofGrading.Json.Basic
import ProofGrading.Decimal.Literal
import ProofGrading.Text.CodePoint
import ProofGrading.Text.Hex

/-!
# Json/Decode — reading JSON

A reader over the characters that remain.  What is wrong is told by what remains where it was
found, so a position is the length of the text less the length of the remainder
(`SyntaxError.position`).  Beyond the standard the names `NaN`, `Infinity` and `-Infinity` are
numbers, and of two fields with one key the later value stands at the earlier place.
-/

namespace ProofGrading.Json

/-- What can be wrong with a JSON text. -/
inductive Flaw where
  | expectedValue
  | expectedName
  | expectedColon
  | expectedComma
  | openString
  | controlCharacter
  | badEscape
  | badUnicodeEscape
  | extraData
  | byteOrderMark
  deriving DecidableEq, Repr

/-- The wording of a flaw. -/
def Flaw.text : Flaw → String
  | expectedValue => "Expecting value"
  | expectedName => "Expecting property name enclosed in double quotes"
  | expectedColon => "Expecting ':' delimiter"
  | expectedComma => "Expecting ',' delimiter"
  | openString => "Unterminated string starting at"
  | controlCharacter => "Invalid control character at"
  | badEscape => "Invalid \\escape"
  | badUnicodeEscape => "Invalid \\uXXXX escape"
  | extraData => "Extra data"
  | byteOrderMark => "Unexpected UTF-8 BOM (decode using utf-8-sig)"

/-- Why reading stopped: a flaw, found where `rest` remained; an integer with too many digits; or
brackets nested too deeply. -/
inductive Stop where
  | flaw (kind : Flaw) (rest : List Char)
  | hugeInteger
  | tooDeep

/-- A flaw with its place in the text: line and column from one, position from zero. -/
structure SyntaxError where
  kind : Flaw
  line : Nat
  column : Nat
  position : Nat
  deriving DecidableEq, Repr

/-- Locates a flaw that was found `position` characters into the text. -/
def SyntaxError.locate (text : List Char) (kind : Flaw) (position : Nat) : SyntaxError :=
  let before := text.take position
  { kind
    line := before.count '\n' + 1
    column := (before.reverse.takeWhile (· ≠ '\n')).length + 1
    position }

/-- The flaw and its place in words. -/
def SyntaxError.message (e : SyntaxError) : String :=
  s!"{e.kind.text}: line {e.line} column {e.column} (char {e.position})"

/-- Why a text is not read. -/
inductive DecodeError where
  | invalid (error : SyntaxError)
  | hugeInteger
  | tooDeep
  deriving DecidableEq, Repr

/-- White space between tokens. -/
def isGap (c : Char) : Bool := c == ' ' || c == '\t' || c == '\n' || c == '\r'

/-- What remains after white space. -/
def skipGaps (cs : List Char) : List Char := cs.dropWhile isGap

/-- The code unit of four hexadecimal digits. -/
def codeUnit? (a b c d : Char) : Option Nat := do
  let a ← Text.hexDigit? a
  let b ← Text.hexDigit? b
  let c ← Text.hexDigit? c
  let d ← Text.hexDigit? d
  pure (((a * 16 + b) * 16 + c) * 16 + d)

/-- The character that a one-letter escape stands for. -/
def escaped? : Char → Option Char
  | '"' => some '"'
  | '\\' => some '\\'
  | '/' => some '/'
  | 'b' => some '\x08'
  | 'f' => some '\x0c'
  | 'n' => some '\n'
  | 'r' => some '\r'
  | 't' => some '\t'
  | _ => none

/-- Reads a text up to its closing quote; `start` is what remained at the opening quote, `done` the
code points read, last one first.  Half of a surrogate pair counts as a code point of its own. -/
def scanString (start : List Char) (done : List Nat) :
    List Char → Except Stop (String × List Char)
  | [] => .error (.flaw .openString start)
  | '"' :: rest => .ok (String.ofList (Text.ofCodePoints done.reverse), rest)
  | '\\' :: [] => .error (.flaw .openString start)
  | '\\' :: 'u' :: a :: b :: c :: d :: '\\' :: 'u' :: e :: f :: g :: h :: last :: rest =>
    match codeUnit? a b c d with
    | none => .error (.flaw .badUnicodeEscape
        ('u' :: a :: b :: c :: d :: '\\' :: 'u' :: e :: f :: g :: h :: last :: rest))
    | some high =>
      if 0xD800 ≤ high ∧ high ≤ 0xDBFF then
        match codeUnit? e f g h with
        | none => .error (.flaw .badUnicodeEscape ('u' :: e :: f :: g :: h :: last :: rest))
        | some low =>
          if 0xDC00 ≤ low ∧ low ≤ 0xDFFF then
            let n := 0x10000 + (high - 0xD800) * 0x400 + (low - 0xDC00)
            scanString start (n :: done) (last :: rest)
          else scanString start (high :: done)
            ('\\' :: 'u' :: e :: f :: g :: h :: last :: rest)
      else scanString start (high :: done) ('\\' :: 'u' :: e :: f :: g :: h :: last :: rest)
  | '\\' :: 'u' :: a :: b :: c :: d :: last :: rest =>
    match codeUnit? a b c d with
    | none => .error (.flaw .badUnicodeEscape ('u' :: a :: b :: c :: d :: last :: rest))
    | some unit => scanString start (unit :: done) (last :: rest)
  | '\\' :: 'u' :: rest => .error (.flaw .badUnicodeEscape ('u' :: rest))
  | '\\' :: c :: rest =>
    match escaped? c with
    | some e => scanString start (e.toNat :: done) rest
    | none => .error (.flaw .badEscape ('\\' :: c :: rest))
  | c :: rest =>
    if c.toNat < 0x20 then .error (.flaw .controlCharacter (c :: rest))
    else scanString start (c.toNat :: done) rest

/-- The fraction of a number, if a digit follows the point. -/
def fraction : List Char → List Char × List Char
  | '.' :: d :: rest =>
    if d.isDigit then
      let (ds, rest) := rest.span Char.isDigit
      (d :: ds, rest)
    else ([], '.' :: d :: rest)
  | cs => ([], cs)

/-- The exponent of a number, if a digit follows the letter and the sign. -/
def exponent (cs : List Char) : Option Int × List Char :=
  match cs with
  | e :: rest =>
    if e = 'e' ∨ e = 'E' then
      let (negative, body) := match rest with
        | '-' :: r => (true, r)
        | '+' :: r => (false, r)
        | r => (false, r)
      let (ds, after) := body.span Char.isDigit
      if ds.isEmpty then (none, cs)
      else
        let n : Int := Decimal.natOfDigits ds
        (some (if negative then -n else n), after)
    else (none, cs)
  | [] => (none, cs)

/-- An integer may have this many digits. -/
def integerDigitLimit : Nat := 4300

/-- The whole part of a number: one zero, or digits that do not start with one. -/
def wholePart? : List Char → Option (List Char × List Char)
  | '0' :: rest => some (['0'], rest)
  | c :: rest => if c.isDigit then some ((c :: rest).span Char.isDigit) else none
  | [] => none

/-- Reads a number; without fraction and exponent it is an integer. -/
def scanNumber (cs : List Char) : Except Stop (Json × List Char) :=
  let (negative, body) := match cs with
    | '-' :: r => (true, r)
    | r => (false, r)
  match wholePart? body with
  | none => .error (.flaw .expectedValue cs)
  | some (whole, rest) =>
    let (frac, rest) := fraction rest
    let (exp, rest) := exponent rest
    if frac.isEmpty && exp.isNone then
      if integerDigitLimit < whole.length then .error .hugeInteger
      else
        let n : Int := Decimal.natOfDigits whole
        .ok (.int (if negative then -n else n), rest)
    else
      let x := Decimal.nearest negative (Decimal.natOfDigits (whole ++ frac))
        (exp.getD 0 - frac.length)
      .ok (.float x, rest)

/-- Reads a value that is no array and no object. -/
def scanScalar (cs : List Char) : Except Stop (Json × List Char) :=
  match cs with
  | '"' :: rest => do
    let (s, rest) ← scanString cs [] rest
    pure (.str s, rest)
  | 'n' :: 'u' :: 'l' :: 'l' :: rest => .ok (.null, rest)
  | 't' :: 'r' :: 'u' :: 'e' :: rest => .ok (.bool true, rest)
  | 'f' :: 'a' :: 'l' :: 's' :: 'e' :: rest => .ok (.bool false, rest)
  | 'N' :: 'a' :: 'N' :: rest => .ok (.float (0.0 / 0.0), rest)
  | 'I' :: 'n' :: 'f' :: 'i' :: 'n' :: 'i' :: 't' :: 'y' :: rest => .ok (.float (1.0 / 0.0), rest)
  | '-' :: 'I' :: 'n' :: 'f' :: 'i' :: 'n' :: 'i' :: 't' :: 'y' :: rest =>
    .ok (.float (-(1.0 / 0.0)), rest)
  | _ => scanNumber cs

mutual
/-- Reads a value under at most `depth` brackets. -/
def scanValue : Nat → Nat → List Char → Except Stop (Json × List Char)
  | 0, _, cs => .error (.flaw .expectedValue cs)
  | fuel + 1, depth, '[' :: rest =>
    match depth with
    | 0 => .error .tooDeep
    | depth + 1 =>
      match skipGaps rest with
      | ']' :: after => .ok (.arr [], after)
      | body => scanItems fuel depth [] body
  | fuel + 1, depth, '\x7b' :: rest =>
    match depth with
    | 0 => .error .tooDeep
    | depth + 1 =>
      match skipGaps rest with
      | '\x7d' :: after => .ok (.obj [], after)
      | body => scanFields fuel depth [] body
  | _ + 1, _, cs => scanScalar cs
/-- Reads the items of an array and its closing bracket; `done` holds the items read, last first. -/
def scanItems : Nat → Nat → List Json → List Char → Except Stop (Json × List Char)
  | 0, _, _, cs => .error (.flaw .expectedValue cs)
  | fuel + 1, depth, done, cs =>
    match scanValue fuel depth cs with
    | .error e => .error e
    | .ok (item, rest) =>
      match skipGaps rest with
      | ']' :: after => .ok (.arr (item :: done).reverse, after)
      | ',' :: after => scanItems fuel depth (item :: done) (skipGaps after)
      | other => .error (.flaw .expectedComma other)
/-- Reads the fields of an object and its closing bracket. -/
def scanFields : Nat → Nat → List (String × Json) → List Char → Except Stop (Json × List Char)
  | 0, _, _, cs => .error (.flaw .expectedValue cs)
  | fuel + 1, depth, done, cs =>
    match cs with
    | '"' :: name =>
      match scanString cs [] name with
      | .error e => .error e
      | .ok (key, rest) =>
        match skipGaps rest with
        | ':' :: after =>
          match scanValue fuel depth (skipGaps after) with
          | .error e => .error e
          | .ok (value, rest) =>
            match skipGaps rest with
            | '\x7d' :: after => .ok (.obj (setField done key value), after)
            | ',' :: after => scanFields fuel depth (setField done key value) (skipGaps after)
            | other => .error (.flaw .expectedComma other)
        | other => .error (.flaw .expectedColon other)
    | other => .error (.flaw .expectedName other)
end

/-- Brackets may be nested this deep in a file. -/
def nestingLimit : Nat := 980

/-- Reads a text that holds one value; brackets may be nested `depth` deep. -/
def decodeChars (depth : Nat) (text : List Char) : Except DecodeError Json :=
  let flaw (kind : Flaw) (rest : List Char) : DecodeError :=
    .invalid (.locate text kind (text.length - rest.length))
  if text.head? = some '\uFEFF' then .error (flaw .byteOrderMark text)
  else
    match scanValue (2 * text.length + 1) depth (skipGaps text) with
    | .error (.flaw kind rest) => .error (flaw kind rest)
    | .error .hugeInteger => .error .hugeInteger
    | .error .tooDeep => .error .tooDeep
    | .ok (value, rest) =>
      match skipGaps rest with
      | [] => .ok value
      | other => .error (flaw .extraData other)

/-- Reads a text that holds one value. -/
def decode (text : String) : Except DecodeError Json := decodeChars nestingLimit text.toList

end ProofGrading.Json
