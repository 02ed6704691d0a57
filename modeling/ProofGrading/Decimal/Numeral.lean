import ProofGrading.Decimal.Literal
import ProofGrading.Text.Digit
import ProofGrading.Text.Hex

/-!
# Decimal/Numeral — numbers in the digits of any script

A numeral may be written in the decimal digits of any script, with blanks around it.  It is first
brought to ASCII (`plain`) and then read: as an integer to some base, with the letter that names the
base or without it, or as a double.
-/

namespace ProofGrading.Decimal.Numeral

/-- A character of a numeral in ASCII: digits of any script become ASCII digits, white space beyond
ASCII a blank, and what has no place in a numeral a question mark. -/
def plainChar (c : Char) : Char :=
  if c.toNat < 128 then c
  else if Text.isSpace c then ' '
  else
    match Text.digitValue? c with
    | some d => Char.ofNat (48 + d)
    | none => '?'

/-- The blanks around a numeral: the ASCII white space. -/
def isPadding (c : Char) : Bool := c == ' ' || (0x09 ≤ c.toNat && c.toNat ≤ 0x0D)

/-- A numeral in ASCII, without the blanks around it. -/
def plain (cs : List Char) : List Char := Text.dropAround isPadding (cs.map plainChar)

/-- The letter that names a base, in lower case. -/
def baseLetter? : Nat → Option Char
  | 2 => some 'b'
  | 8 => some 'o'
  | 16 => some 'x'
  | _ => none

/-- Drops a zero and the letter of the base. -/
def withoutBase (base : Nat) (cs : List Char) : List Char :=
  match cs with
  | '0' :: c :: rest => if baseLetter? base = some c.toLower then rest else cs
  | _ => cs

/-- A numeral to the base ten may have this many digits. -/
def digitLimit : Nat := 4300

/-- The number that some digits to a base write; there must be some, and to the base ten not too
many. -/
def natOfDigits? (base : Nat) (cs : List Char) : Option Nat :=
  if cs.isEmpty || (base == 10 && digitLimit < cs.length) then none
  else
    cs.foldl (fun n c => do
      let n ← n
      let d ← Text.hexDigit? c
      if d < base then some (n * base + d) else none) (some 0)

/-- The integer of a numeral to a base. -/
def integer? (base : Nat) (cs : List Char) : Option Int :=
  match plain cs with
  | '-' :: rest => (natOfDigits? base (withoutBase base rest)).map fun n => -(n : Int)
  | '+' :: rest => (natOfDigits? base (withoutBase base rest)).map Int.ofNat
  | rest => (natOfDigits? base (withoutBase base rest)).map Int.ofNat

/-- The double of a numeral. -/
def double? (cs : List Char) : Option Float := literal? (plain cs)

end ProofGrading.Decimal.Numeral
