import ProofGrading.Decimal.Literal
import ProofGrading.Text.Hex
import ProofGrading.Text.Split
import ProofGrading.Yaml.Cursor

/-!
# Yaml/Tag — what a plain scalar stands for

A plain scalar has the tag of the first of some patterns that it fits: truth values, doubles,
integers, the merge key, null, dates, the default key.  Any other scalar is a text.
-/

namespace ProofGrading.Yaml

/-- The start of the tags that every text knows. -/
def coreTags : String := "tag:yaml.org,2002:"

/-- A tag that every text knows. -/
def coreTag (name : String) : String := coreTags ++ name

/-- The words for truth values. -/
def truthWords : List String :=
  ["yes", "Yes", "YES", "no", "No", "NO", "true", "True", "TRUE", "false", "False", "FALSE",
    "on", "On", "ON", "off", "Off", "OFF"]

/-- The words for nothing. -/
def nullWords : List String := ["~", "null", "Null", "NULL"]

namespace Pattern

/-- Drops a sign. -/
def unsigned : List Char → List Char
  | '+' :: r => r
  | '-' :: r => r
  | r => r

/-- A digit or an underscore. -/
def isDigitOrBar (c : Char) : Bool := c.isDigit || c == '_'

/-- Whether a text is not empty and made of some characters. -/
def allOf (p : Char → Bool) (cs : List Char) : Bool := !cs.isEmpty && cs.all p

/-- A place to the base sixty: one digit, or two of which the first is below six. -/
def isSixtieth : List Char → Bool
  | [a] => a.isDigit
  | [a, b] => decide ('0' ≤ a ∧ a ≤ '5') && b.isDigit
  | _ => false

/-- Whether a text starts with a digit and goes on with digits and underscores. -/
def isDigits : List Char → Bool
  | d :: rest => d.isDigit && rest.all isDigitOrBar
  | [] => false

/-- An integer: binary, octal, decimal, hexadecimal or to the base sixty. -/
def isInt (cs : List Char) : Bool :=
  let body := unsigned cs
  match body with
  | ['0'] => true
  | '0' :: 'b' :: rest => allOf (fun c => c == '0' || c == '1' || c == '_') rest
  | '0' :: 'x' :: rest => allOf (fun c => (Text.hexDigit? c).isSome || c == '_') rest
  | '0' :: rest => allOf (fun c => decide ('0' ≤ c ∧ c ≤ '7') || c == '_') rest
  | d :: _ =>
    d.isDigit &&
      match Text.splitOn ':' body with
      | [whole] => isDigits whole
      | whole :: rest => isDigits whole && rest.all isSixtieth
      | [] => false
  | [] => false

/-- An exponent, or nothing: a letter, a sign that has to be there, and digits. -/
def isExponent : List Char → Bool
  | [] => true
  | e :: sign :: digits =>
    (e == 'e' || e == 'E') && (sign == '+' || sign == '-') && allOf Char.isDigit digits
  | _ => false

/-- The part of a double after its point: digits and an exponent. -/
def isFraction (cs : List Char) : Bool := isExponent (cs.dropWhile isDigitOrBar)

/-- Whether a text before the point is a whole number, or one to the base sixty with a fraction
after it. -/
def isWhole (cs fraction : List Char) : Bool :=
  match Text.splitOn ':' cs with
  | [whole] => isDigits whole && isFraction fraction
  | whole :: rest => isDigits whole && rest.all isSixtieth && fraction.all isDigitOrBar
  | [] => false

/-- A double. -/
def isFloat (cs : List Char) : Bool :=
  let body := unsigned cs
  let (whole, rest) := body.span (· != '.')
  match rest with
  | [] => false
  | _ :: fraction =>
    if whole.isEmpty then
      let name := String.ofList fraction
      ["inf", "Inf", "INF"].contains name
        || (body == cs && (["nan", "NaN", "NAN"].contains name
          || ((fraction.headD endMark).isDigit && isFraction fraction)))
    else isWhole whole fraction

end Pattern

/-- A date, and the time of day if there is one, with its distance from the zero meridian in
minutes. -/
structure Moment where
  year : Nat
  month : Nat
  day : Nat
  time : Option (Nat × Nat × Nat × Nat) := none
  deriving DecidableEq, Repr

namespace Moment

/-- One or two digits. -/
def shortNumber? : List Char → Option (Nat × List Char)
  | a :: rest =>
    if a.isDigit then
      match rest with
      | b :: more =>
        if b.isDigit then some (Decimal.natOfDigits [a, b], more)
        else some (Decimal.natOfDigits [a], rest)
      | [] => some (Decimal.natOfDigits [a], [])
    else none
  | [] => none

/-- Two digits. -/
def twoDigits? : List Char → Option (Nat × List Char)
  | a :: b :: rest =>
    if a.isDigit && b.isDigit then some (Decimal.natOfDigits [a, b], rest) else none
  | _ => none

/-- What remains after a character that has to be there. -/
def after? (c : Char) : List Char → Option (List Char)
  | d :: rest => if c = d then some rest else none
  | [] => none

/-- A blank or a tab. -/
def isGap (c : Char) : Bool := c == ' ' || c == '\t'

/-- The distance from the zero meridian, in minutes, to the end of the text. -/
def zone? (cs : List Char) : Option Nat :=
  if cs.isEmpty then some 0
  else
    match cs.dropWhile isGap with
    | ['Z'] => some 0
    | sign :: rest =>
      if sign == '+' || sign == '-' then do
        let (hours, rest) ← shortNumber? rest
        if rest.isEmpty then pure (60 * hours)
        else
          let (minutes, rest) ← twoDigits? (← after? ':' rest)
          if rest.isEmpty then pure (60 * hours + minutes) else none
      else none
    | [] => none

/-- What separates a date from a time. -/
def timeStart? : List Char → Option (List Char)
  | 'T' :: rest => some rest
  | 't' :: rest => some rest
  | c :: rest => if isGap c then some (rest.dropWhile isGap) else none
  | [] => none

/-- A time of day and its zone, to the end of the text. -/
def time? (cs : List Char) : Option (Nat × Nat × Nat × Nat) := do
  let (hour, cs) ← shortNumber? cs
  let (minute, cs) ← twoDigits? (← after? ':' cs)
  let (second, cs) ← twoDigits? (← after? ':' cs)
  let cs := match cs with
    | '.' :: fraction => fraction.dropWhile Char.isDigit
    | _ => cs
  pure (hour, minute, second, ← zone? cs)

/-- A date, with or without a time of day. -/
def read? (cs : List Char) : Option Moment := do
  let (high, cs) ← twoDigits? cs
  let (low, cs) ← twoDigits? cs
  let (month, cs) ← shortNumber? (← after? '-' cs)
  let (day, cs) ← shortNumber? (← after? '-' cs)
  let year := 100 * high + low
  if cs.isEmpty then pure { year, month, day }
  else
    let time ← time? (← timeStart? cs)
    pure { year, month, day, time := some time }

/-- The days of a month. -/
def daysOf (year month : Nat) : Nat :=
  if month == 2 then
    if year % 4 == 0 && (year % 100 != 0 || year % 400 == 0) then 29 else 28
  else if [4, 6, 9, 11].contains month then 30 else 31

/-- Whether there is such a day, and such a time. -/
def isValid (m : Moment) : Bool :=
  decide (1 ≤ m.year ∧ 1 ≤ m.month ∧ m.month ≤ 12 ∧ 1 ≤ m.day ∧ m.day ≤ daysOf m.year m.month)
    && match m.time with
      | none => true
      | some (hour, minute, second, zone) =>
        decide (hour < 24 ∧ minute < 60 ∧ second < 60 ∧ zone < 24 * 60)

/-- Whether a plain scalar is a date: without a time of day, two digits for month and day. -/
def isPlain (cs : List Char) : Bool :=
  match read? cs with
  | some m => m.time.isSome || cs.length == 10
  | none => false

end Moment

/-- **The tag of a plain scalar.**  A line break at its end is not looked at, unless it is all there
is. -/
def plainTag (text : String) : String :=
  let cs := text.toList
  let cs := if cs.getLast? == some '\n' then cs.dropLast else cs
  let stem := String.ofList cs
  if stem.isEmpty then coreTag (if text.isEmpty then "null" else "str")
  else if truthWords.contains stem then coreTag "bool"
  else if Pattern.isFloat cs then coreTag "float"
  else if Pattern.isInt cs then coreTag "int"
  else if stem == "<<" then coreTag "merge"
  else if nullWords.contains stem then coreTag "null"
  else if Moment.isPlain cs then coreTag "timestamp"
  else if stem == "=" then coreTag "value"
  else if ["!", "&", "*"].contains stem then coreTag "yaml"
  else coreTag "str"

end ProofGrading.Yaml
