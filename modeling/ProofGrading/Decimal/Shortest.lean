import ProofGrading.Decimal.Binary

/-!
# Decimal/Shortest — the fewest digits that read back

A positive binary value is the only double within half a unit of its last place, so any decimal in
that interval reads back as it.  For one digit, two digits, … the value's two neighbours on that
decimal grid are tried in exact arithmetic; the first grid with a hit wins, and of two hits the
nearer one.
-/

namespace ProofGrading.Decimal

/-- A decimal value `digits · 10 ^ scale`. -/
structure Digits where
  digits : Nat
  scale : Int
  deriving DecidableEq, Repr

/-- Ten to the power of `k`. -/
def tenTo (k : Nat) : Nat := Nat.pow 10 k

/-- The number of decimal digits of `n`; one for zero. -/
def digitCount (n : Nat) : Nat := (Nat.toDigits 10 n).length

/-- A positive fraction. -/
structure Ratio where
  num : Nat
  den : Nat

/-- `n · 2 ^ e` as a fraction. -/
def Ratio.ofBinary (n : Nat) (e : Int) : Ratio :=
  if 0 ≤ e then ⟨n * twoTo e.toNat, 1⟩ else ⟨n, twoTo (-e).toNat⟩

/-- `n · 10 ^ e` as a fraction. -/
def Ratio.ofDecimal (n : Nat) (e : Int) : Ratio :=
  if 0 ≤ e then ⟨n * tenTo e.toNat, 1⟩ else ⟨n, tenTo (-e).toNat⟩

/-- `a ≤ b` by cross multiplication. -/
def Ratio.le (a b : Ratio) : Bool := a.num * b.den ≤ b.num * a.den

/-- `a < b` by cross multiplication. -/
def Ratio.lt (a b : Ratio) : Bool := a.num * b.den < b.num * a.den

/-- The exponent `p` with `10 ^ p ≤ v < 10 ^ (p + 1)`. -/
def Ratio.magnitude (v : Ratio) : Int :=
  let t : Int := (digitCount v.num : Int) - digitCount v.den
  if (Ratio.ofDecimal 1 t).le v then t else t - 1

/-- The greatest `d` with `d · 10 ^ k ≤ v`. -/
def Ratio.floorAt (v : Ratio) (k : Int) : Nat :=
  if 0 ≤ k then v.num / (v.den * tenTo k.toNat) else v.num * tenTo (-k).toNat / v.den

/-- The decimals that read back as one double: between `low` and `high`, the ends included for an
even significand. -/
structure Interval where
  value : Ratio
  low : Ratio
  high : Ratio
  closed : Bool

/-- The interval of a positive double.  Below a power of two the doubles are twice as dense. -/
def Interval.of (m : Nat) (e : Int) : Interval where
  value := .ofBinary (4 * m) (e - 2)
  low := .ofBinary (if m = twoTo 52 ∧ e > -1074 then 4 * m - 1 else 4 * m - 2) (e - 2)
  high := .ofBinary (4 * m + 2) (e - 2)
  closed := m % 2 == 0

/-- Whether a decimal reads back as the double of the interval. -/
def Interval.holds (i : Interval) (d : Nat) (k : Int) : Bool :=
  let x := Ratio.ofDecimal d k
  if i.closed then i.low.le x && x.le i.high else i.low.lt x && x.lt i.high

/-- Of the two neighbours `d` and `d + 1` the nearer to `v`, a tie going to the even one. -/
def nearer (v : Ratio) (d : Nat) (k : Int) : Nat :=
  let middle := Ratio.ofDecimal (10 * d + 5) (k - 1)
  if v.lt middle then d else if middle.lt v then d + 1 else if d % 2 = 0 then d else d + 1

/-- The hit on the grid `10 ^ k`, if there is one. -/
def Interval.hit? (i : Interval) (k : Int) : Option Nat :=
  let d := i.value.floorAt k
  match i.holds d k, i.holds (d + 1) k with
  | true, true => some (nearer i.value d k)
  | true, false => some d
  | false, true => some (d + 1)
  | false, false => none

/-- Tries the grids from `k` downwards. -/
def Interval.search (i : Interval) : Nat → Int → Digits
  | 0, k => ⟨i.value.floorAt k, k⟩
  | fuel + 1, k =>
    match i.hit? k with
    | some d => ⟨d, k⟩
    | none => i.search fuel (k - 1)

/-- Moves trailing zeros into the scale. -/
def Digits.strip : Nat → Digits → Digits
  | 0, d => d
  | fuel + 1, d =>
    if d.digits ≠ 0 ∧ d.digits % 10 = 0 then strip fuel ⟨d.digits / 10, d.scale + 1⟩ else d

/-- The shortest decimal that reads back as `m · 2 ^ e`, for the significand and exponent of a
positive double: at most 17 digits. -/
def shortest (m : Nat) (e : Int) : Digits :=
  let i := Interval.of m e
  (i.search 17 i.value.magnitude).strip 20

end ProofGrading.Decimal
