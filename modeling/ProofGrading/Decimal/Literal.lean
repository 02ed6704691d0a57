import ProofGrading.Text.Blank

/-!
# Decimal/Literal — the double of a decimal text

`nearest` rounds a decimal to the nearest double.  `read?` accepts the decimal forms of a number in
a text: a sign, digits with at most one point, an exponent, and the names of the infinities and of
the value that is not a number.
-/

namespace ProofGrading.Decimal

/-- The number that a list of ASCII digits writes. -/
def natOfDigits (ds : List Char) : Nat := ds.foldl (fun n d => 10 * n + (d.toNat - '0'.toNat)) 0

/-- The double nearest to `± digits · 10 ^ exponent`.  Exponents far out of range are settled
without computing the power. -/
def nearest (negative : Bool) (digits : Nat) (exponent : Int) : Float :=
  let size : Int := (Nat.toDigits 10 digits).length + exponent
  let x : Float :=
    if digits = 0 then 0.0
    else if size > 400 then 1.0 / 0.0
    else if size < -400 then 0.0
    else Float.ofScientific digits (exponent < 0) exponent.natAbs
  if negative then -x else x

/-- Splits an exponent off: `e` or `E`, a sign, digits to the end.  `none` for a malformed one. -/
def exponent? : List Char → Option Int
  | [] => some 0
  | c :: rest =>
    if c = 'e' ∨ c = 'E' then
      let signed := match rest with
        | '-' :: ds => (true, ds)
        | '+' :: ds => (false, ds)
        | ds => (false, ds)
      if signed.2.isEmpty || !signed.2.all Char.isDigit then none
      else some (if signed.1 then -(natOfDigits signed.2 : Int) else natOfDigits signed.2)
    else none

/-- An unsigned decimal: digits around at most one point, at least one digit, and an exponent. -/
def unsigned? (negative : Bool) (cs : List Char) : Option Float :=
  let (whole, rest) := cs.span Char.isDigit
  let (fraction, rest) := match rest with
    | '.' :: r => r.span Char.isDigit
    | r => ([], r)
  if whole.isEmpty && fraction.isEmpty then none
  else (exponent? rest).map fun e =>
    nearest negative (natOfDigits (whole ++ fraction)) (e - fraction.length)

/-- A number in a text without blanks around it. -/
def literal? (cs : List Char) : Option Float :=
  let (negative, body) := match cs with
    | '-' :: r => (true, r)
    | '+' :: r => (false, r)
    | r => (false, r)
  let name := String.ofList (body.map Char.toLower)
  if name = "inf" || name = "infinity" then some (if negative then -(1.0 / 0.0) else 1.0 / 0.0)
  else if name = "nan" then some (0.0 / 0.0)
  else unsigned? negative body

/-- Whether underscores stand only inside a text, and never two in a row. -/
def underscoresInside : List Char → Bool
  | [] => true
  | ['_'] => false
  | '_' :: '_' :: _ => false
  | _ :: rest => underscoresInside rest

/-- Removes underscores that may be removed: some, all of them inside, no two in a row. -/
def withoutUnderscores? (cs : List Char) : Option (List Char) :=
  if cs.contains '_' && cs.head? != some '_' && underscoresInside cs then
    some (cs.filter (· != '_'))
  else none

/-- A number in a text, with white space around it or with underscores in it. -/
def read? (s : String) : Option Float :=
  match literal? (Text.dropAround Text.isSpace s.toList) with
  | some x => some x
  | none => (withoutUnderscores? s.toList).bind literal?

end ProofGrading.Decimal
