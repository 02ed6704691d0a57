/-!
# Decimal/Binary — what a double stands for

A double is not a number, an infinity, or `± significand · 2 ^ exponent`.  All texts of numbers and
all comparisons across kinds of numbers start from this view, in exact integer arithmetic.
-/

namespace ProofGrading.Decimal

/-- Two to the power of `k`. -/
def twoTo (k : Nat) : Nat := Nat.pow 2 k

/-- One more makes it twice as much. -/
theorem twoTo_succ (k : Nat) : twoTo (k + 1) = twoTo k * 2 := rfl

/-- `± significand · 2 ^ exponent`, exactly. -/
structure Binary where
  negative : Bool
  significand : Nat
  exponent : Int
  deriving DecidableEq, Repr

/-- The value of a double. -/
inductive View where
  | nan
  | infinite (negative : Bool)
  | finite (value : Binary)
  deriving DecidableEq, Repr

/-- Splits the 64 bits of a double into sign, exponent field and fraction. -/
def viewOfBits (bits : Nat) : View :=
  let negative := bits / twoTo 63 % 2 == 1
  let field : Nat := bits / twoTo 52 % twoTo 11
  let fraction : Nat := bits % twoTo 52
  if field = 2047 then
    if fraction = 0 then .infinite negative else .nan
  else if field = 0 then .finite ⟨negative, fraction, -1074⟩
  else .finite ⟨negative, fraction + twoTo 52, (field : Int) - 1075⟩

/-- The value of a double. -/
def view (x : Float) : View := viewOfBits x.toBits.toNat

/-- Halves an even significand as long as `fuel` allows and counts the halvings. -/
def halve : Nat → Nat → Nat × Nat
  | 0, n => (n, 0)
  | fuel + 1, n =>
    if n % 2 = 0 then
      let r := halve fuel (n / 2)
      (r.1, r.2 + 1)
    else (n, 0)

/-- The same value with an odd significand, or zero with exponent zero and no sign: **two doubles or
integers have one normal form exactly when they are equal as numbers**. -/
def Binary.normal (b : Binary) : Binary :=
  if b.significand = 0 then ⟨false, 0, 0⟩
  else
    let r := halve b.significand.log2 b.significand
    ⟨b.negative, r.1, b.exponent + r.2⟩

/-- An integer as a binary value. -/
def Binary.ofInt (n : Int) : Binary := ⟨n < 0, n.natAbs, 0⟩

/-- What the halvings take away can be put back. -/
theorem halve_mul (fuel n : Nat) : (halve fuel n).1 * twoTo (halve fuel n).2 = n := by
  induction fuel generalizing n with
  | zero => simp [halve, twoTo]
  | succ fuel ih =>
    rw [halve]
    split
    · have := ih (n / 2)
      simp only [twoTo_succ, ← Nat.mul_assoc, this]
      omega
    · simp [twoTo]

end ProofGrading.Decimal
