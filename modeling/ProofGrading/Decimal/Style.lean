import ProofGrading.Decimal.Shortest

/-!
# Decimal/Style — how a double is written

The digits of a double are the shortest that read back; a `Style` says where positional notation
ends and how an exponent looks.  Scores for people are written with one place, a half going to the
even neighbour of the exact binary value.
-/

namespace ProofGrading.Decimal

/-- The decisions of a written form.  A value `x` with `10 ^ p ≤ x < 10 ^ (p + 1)` is written
positionally when `positionalFrom ≤ p < positionalBelow`. -/
structure Style where
  positionalFrom : Int
  positionalBelow : Int
  exponentDigits : Nat

/-- Answers: positional from `0.0001` up to below `10 ^ 16`, two exponent digits at least. -/
def Style.answer : Style := ⟨-4, 16, 2⟩

/-- Results documents: positional from `0.00001` up to below `10 ^ 16`, exponents without
padding. -/
def Style.document : Style := ⟨-5, 16, 1⟩

/-- Pads a text of digits with zeros on the left. -/
def padLeft (n : Nat) (s : List Char) : List Char := List.replicate (n - s.length) '0' ++ s

/-- The text of a number without fraction. -/
def natText (n : Nat) : List Char := Nat.toDigits 10 n

/-- Digits with a point after the first `n` of them, zeros being added where there are none. -/
def pointAfter (n : Int) (ds : List Char) : List Char :=
  if n ≤ 0 then '0' :: '.' :: (List.replicate (-n).toNat '0' ++ ds)
  else
    let k := n.toNat
    if ds.length ≤ k then ds ++ List.replicate (k - ds.length) '0' ++ ['.', '0']
    else ds.take k ++ '.' :: ds.drop k

/-- One digit, the others after a point, and the exponent. -/
def scientific (style : Style) (p : Int) (ds : List Char) : List Char :=
  let mantissa := match ds with
    | [] => ['0']
    | [d] => [d]
    | d :: rest => d :: '.' :: rest
  mantissa ++ ['e', if p < 0 then '-' else '+'] ++ padLeft style.exponentDigits (natText p.natAbs)

/-- The text of a positive decimal. -/
def Style.digits (style : Style) (d : Digits) : List Char :=
  let ds := natText d.digits
  let p := d.scale + ds.length - 1
  if style.positionalFrom ≤ p ∧ p < style.positionalBelow then pointAfter (p + 1) ds
  else scientific style p ds

/-- The text of a finite value; zero keeps its sign. -/
def Style.binary (style : Style) (b : Binary) : List Char :=
  let body := if b.significand = 0 then ['0', '.', '0'] else
    style.digits (shortest b.significand b.exponent)
  if b.negative then '-' :: body else body

/-- The text of a double, if it is finite. -/
def Style.write? (style : Style) (x : Float) : Option (List Char) :=
  match view x with
  | .finite b => some (style.binary b)
  | _ => none

/-- `num / den` rounded to the nearest integer, a half going to the even neighbour. -/
def roundHalfEven (num den : Nat) : Nat :=
  let q := num / den
  let r := num % den
  if 2 * r < den then q else if den < 2 * r then q + 1 else if q % 2 = 0 then q else q + 1

/-- A finite value with one place after the point. -/
def onePlaceOfBinary (b : Binary) : List Char :=
  let v := Ratio.ofBinary b.significand b.exponent
  let tenths := roundHalfEven (10 * v.num) v.den
  let body := natText (tenths / 10) ++ '.' :: natText (tenths % 10)
  if b.negative then '-' :: body else body

/-- A double with one place after the point. -/
def onePlace (x : Float) : String :=
  match view x with
  | .nan => "nan"
  | .infinite false => "inf"
  | .infinite true => "-inf"
  | .finite b => String.ofList (onePlaceOfBinary b)

end ProofGrading.Decimal
