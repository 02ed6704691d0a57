import ProofGrading.Validation.Problem
import ProofGrading.Json.Basic
import ProofGrading.Decimal.Literal
import ProofGrading.Text.Encoding

/-!
# Validation/Scalar — reading single values leniently

A number may be given as a text, a truth value as a word or as one or zero, an integer as a whole
double.  The readers look at a `Scalar`, the part of a value that does not depend on where it came
from.
-/

namespace ProofGrading

/-- A single value as the readers see it; arrays, objects and dates are `other`. -/
inductive Scalar where
  | null
  | bool (b : Bool)
  | int (n : Int)
  | float (x : Float)
  | text (s : String)
  | bytes (data : ByteArray)
  | other

/-- A JSON value as the readers see it. -/
def Json.scalar : Json → Scalar
  | .null => .null
  | .bool b => .bool b
  | .int n => .int n
  | .float x => .float x
  | .str s => .text s
  | .arr _ => .other
  | .obj _ => .other

namespace Scalar

/-- A text; bytes count as the text they encode. -/
def string : Scalar → Except Misfit String
  | text s => .ok s
  | bytes data =>
    match Text.ofBytes? data with
    | some s => .ok s
    | none => .error .notUnicode
  | _ => .error .notString

/-- A text whose characters are looked at: it must not hold half of a surrogate pair. -/
def wholeText (s : String) : Except Misfit String :=
  if Text.holdsHalf s then .error .notUnicode else .ok s

/-- The double nearest to an integer, if that is not beyond all doubles. -/
def doubleOfInt? (n : Int) : Option Float :=
  let x := Decimal.nearest (n < 0) n.natAbs 0
  if x.isFinite then some x else none

/-- A number, possibly written as a text. -/
def number : Scalar → Except Misfit Float
  | bool b => .ok (if b then 1.0 else 0.0)
  | int n =>
    match doubleOfInt? n with
    | some x => .ok x
    | none => .error .notNumber
  | float x => .ok x
  | text s => do
    match Decimal.read? (← wholeText s) with
    | some x => .ok x
    | none => .error .unreadableNumber
  | bytes data =>
    match (Text.ofBytes? data).bind Decimal.read? with
    | some x => .ok x
    | none => .error .unreadableNumber
  | _ => .error .notNumber

/-- A number that is not below zero; what is not a number is refused too, `-0.0` is kept. -/
def nonNegative (v : Scalar) : Except Misfit Float :=
  match v.number with
  | .ok x => if 0.0 ≤ x then .ok x else .error .negative
  | .error e => .error e

/-- The words that stand for a truth value, in lower case. -/
def boolOfWord? (word : String) : Option Bool :=
  if word ∈ ["0", "off", "f", "false", "n", "no"] then some false
  else if word ∈ ["1", "on", "t", "true", "y", "yes"] then some true
  else none

/-- A truth value written as a word in any case. -/
def boolOfText (s : String) : Except Misfit Bool :=
  match boolOfWord? (String.ofList (s.toList.map Char.toLower)) with
  | some b => .ok b
  | none => .error .unreadableBoolean

/-- The integer of a finite double without fraction. -/
def wholeOfFloat? (x : Float) : Option Int :=
  match Decimal.view x with
  | .finite b =>
    let b := b.normal
    if b.exponent < 0 then none
    else
      let n : Int := (b.significand * Decimal.twoTo b.exponent.toNat : Nat)
      some (if b.negative then -n else n)
  | _ => none

/-- Whether an integer is a signed word of 64 bits. -/
def isSigned64 (n : Int) : Bool := n.natAbs < Decimal.twoTo 63 || n == .negOfNat (Decimal.twoTo 63)

/-- Whether an integer that was written as a double counts as such a word; the least one is a bound
and does not. -/
def isWholeSigned64 (n : Int) : Bool := n.natAbs < Decimal.twoTo 63

/-- One and zero count as truth values. -/
def boolOfInt (n : Int) : Except Misfit Bool :=
  if n = 0 then .ok false else if n = 1 then .ok true else .error .unreadableBoolean

/-- A truth value, possibly written as a word or a number. -/
def boolean : Scalar → Except Misfit Bool
  | bool b => .ok b
  | int n => if isSigned64 n then boolOfInt n else .error .notBoolean
  | float x =>
    match wholeOfFloat? x with
    | some n => if isWholeSigned64 n then boolOfInt n else .error .notBoolean
    | none => .error .notBoolean
  | text s => do boolOfText (← wholeText s)
  | bytes data =>
    match Text.ofBytes? data with
    | some s => boolOfText s
    | none => .error .unreadableBoolean
  | _ => .error .notBoolean

/-- The text of an integer may have this many digits, a minus sign being one of them. -/
def integerTextLimit : Nat := 4300

/-- Whether an integer starts here, with a sign or with a digit that is not zero. -/
def startsInteger (c : Char) : Bool := c == '-' || (c.isDigit && c != '0')

/-- Drops zeros, and underscores among them, after the character `last`; one character is left. -/
def dropZeros (last : Char) : List Char → Option (List Char)
  | [] => some [last]
  | c :: rest =>
    if c = '0' ∨ c = '_' then dropZeros c rest
    else if startsInteger c then some (c :: rest)
    else if c = '.' then some (last :: c :: rest)
    else none

/-- Drops leading zeros, which say nothing. -/
def withoutLeadingZeros? : List Char → Option (List Char)
  | [] => none
  | c :: rest =>
    if c = '0' then dropZeros c rest else if startsInteger c then some (c :: rest) else none

/-- Drops a point with zeros, and nothing but zeros, after it. -/
def withoutZeroFraction (cs : List Char) : List Char :=
  let (whole, rest) := cs.span (· != '.')
  let fraction := rest.drop 1
  if !fraction.isEmpty && fraction.all (· == '0') then whole else cs

/-- Drops a plus sign; no other sign may follow it. -/
def withoutPlus? : List Char → Option (List Char)
  | '+' :: '-' :: _ => none
  | '+' :: rest => some rest
  | cs => some cs

/-- An integer without what says nothing: white space around it, a plus sign, leading zeros, a zero
fraction, underscores inside; there has to be something of that. -/
def bareInteger? (cs : List Char) : Option (List Char) := do
  let bare ← withoutPlus? (Text.dropAround Text.isSpace cs)
  let bare := withoutZeroFraction (← withoutLeadingZeros? bare)
  match Decimal.withoutUnderscores? bare with
  | some digits => some digits
  | none => if bare.length = cs.length then none else some bare

/-- The digits of an integer: one zero, or digits that do not start with one. -/
def isCanonical (digits : List Char) : Bool :=
  !digits.isEmpty && digits.all Char.isDigit && (digits.head? != some '0' || digits.length == 1)

/-- An integer in its usual spelling: a minus sign and digits. -/
def canonicalInteger? : List Char → Option Int
  | '-' :: digits => if isCanonical digits then some (-(Decimal.natOfDigits digits : Int)) else none
  | digits => if isCanonical digits then some (Decimal.natOfDigits digits) else none

/-- Whether an integer starts a text and is too long, whatever follows. -/
def startsTooLong (cs : List Char) : Bool :=
  let (signed, digits) := match cs with
    | '-' :: r => (1, r)
    | r => (0, r)
  (digits.headD '0') != '0' &&
    decide (integerTextLimit < signed + (digits.takeWhile Char.isDigit).length)

/-- An integer in a text: in its usual spelling, or with something around it that says nothing. -/
def integerOfText (s : String) : Except Misfit Int :=
  let cs := s.toList
  if startsTooLong cs then .error .integerTooLong
  else
    match canonicalInteger? cs with
    | some n => .ok n
    | none =>
      match bareInteger? cs with
      | none => .error .unreadableInteger
      | some bare =>
        if startsTooLong bare then .error .unreadableInteger
        else
          match canonicalInteger? bare with
          | some n => .ok n
          | none => .error .unreadableInteger

/-- An integer, possibly written as a text or a whole double. -/
def integer : Scalar → Except Misfit Int
  | bool b => .ok (if b then 1 else 0)
  | int n => .ok n
  | float x =>
    match Decimal.view x with
    | .finite _ =>
      match wholeOfFloat? x with
      | some n => if isWholeSigned64 n then .ok n else .error .integerTooLong
      | none => .error .fractionalInteger
    | _ => .error .notFinite
  | text s => do integerOfText (← wholeText s)
  | bytes data =>
    match Text.ofBytes? data with
    | some s => integerOfText s
    | none => .error .unreadableInteger
  | _ => .error .notInteger

/-- An integer above zero. -/
def positive (v : Scalar) : Except Misfit Int :=
  match v.integer with
  | .ok n => if 0 < n then .ok n else .error .notPositive
  | .error e => .error e

/-- **What is read as non-negative is.** -/
theorem nonNegative_of_ok {v : Scalar} {x : Float} (h : v.nonNegative = .ok x) : 0.0 ≤ x := by
  simp only [nonNegative] at h
  split at h
  · split at h
    · cases h; assumption
    · cases h
  · cases h

end Scalar

end ProofGrading
