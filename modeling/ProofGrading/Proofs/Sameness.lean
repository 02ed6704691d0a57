import Mathlib.Data.List.Forall2
import ProofGrading.Json.Basic

/-!
# Proofs/Sameness — when two JSON values are the same

One equation for each kind of value says what is the same as it: nothing but `null` is the same as
`null`, an array is the same as an array of the same items, an object as an object with as many
fields that holds each of its own.  Numbers are the same when their normal forms are, and no two
integers have one normal form (`same_int_iff`).
-/

namespace ProofGrading

namespace Decimal.Binary

/-- The normal form of an integer has its sign. -/
theorem negative_normal_ofInt (n : Int) : (ofInt n).normal.negative = decide (n < 0) := by
  unfold normal
  split
  · next h =>
    have : n = 0 := Int.natAbs_eq_zero.1 h
    subst this
    rfl
  · rfl

/-- **The normal form of an integer has its value.** -/
theorem significand_mul_normal_ofInt (n : Int) :
    (ofInt n).normal.significand * twoTo (ofInt n).normal.exponent.toNat = n.natAbs := by
  unfold normal
  split
  · next h => rw [show n.natAbs = 0 from h]; rfl
  · have h := halve_mul n.natAbs.log2 n.natAbs
    simp only [ofInt, Int.zero_add, Int.toNat_natCast]
    exact h

/-- No two integers have one normal form. -/
theorem normal_ofInt_injective {m n : Int} (h : (ofInt m).normal = (ofInt n).normal) : m = n := by
  have habs : m.natAbs = n.natAbs := by
    rw [← significand_mul_normal_ofInt m, h, significand_mul_normal_ofInt]
  have hneg : decide (m < 0) = decide (n < 0) := by
    rw [← negative_normal_ofInt m, h, negative_normal_ofInt]
  have hneg : m < 0 ↔ n < 0 := decide_eq_decide.1 hneg
  omega

end Decimal.Binary

namespace Json

/-! ## One kind of value after the other -/

theorem same_null_iff {j : Json} : same .null j = true ↔ j = .null := by
  cases j <;> simp [same, number?]

theorem same_str_iff {s : String} {j : Json} : same (.str s) j = true ↔ j = .str s := by
  cases j with
  | str t => rw [same, beq_iff_eq, Json.str.injEq, eq_comm]
  | _ => simp [same, number?]

theorem same_str_str_iff {s t : String} : same (.str s) (.str t) = true ↔ s = t := by
  rw [same_str_iff, Json.str.injEq, eq_comm]

theorem same_arr_iff {xs : List Json} {j : Json} :
    same (.arr xs) j = true ↔ ∃ ys, j = .arr ys ∧ sameItems xs ys = true := by
  cases j <;> simp [same, number?]

theorem same_obj_iff {fs : List (String × Json)} {j : Json} :
    same (.obj fs) j = true ↔
      ∃ gs, j = .obj gs ∧ fs.length = gs.length ∧ sameFields fs gs = true := by
  cases j <;> simp [same, number?]

/-- Whether two values count as numbers, and as the same. -/
def sameNumbers : Option Decimal.View → Option Decimal.View → Bool
  | some x, some y => x == y
  | _, _ => false

/-- **A number is the same as the numbers of its normal form.** -/
theorem same_iff_of_number? {a j : Json} {v : Decimal.View} (h : a.number? = some v) :
    same a j = true ↔ j.number? = some v := by
  have key : same a j = sameNumbers a.number? j.number? := by
    cases a with
    | null => cases h
    | str => cases h
    | arr => cases h
    | obj => cases h
    | bool => cases j <;> rfl
    | int => cases j <;> rfl
    | float => cases j <;> rfl
  rw [key, h]
  cases j.number? with
  | none => simp [sameNumbers]
  | some w =>
    change (v == w) = true ↔ _
    rw [beq_iff_eq, Option.some.injEq, eq_comm]

/-- **Integers are the same when they are equal.** -/
theorem same_int_iff {m n : Int} : same (.int m) (.int n) = true ↔ m = n := by
  rw [same_iff_of_number? (a := .int m) rfl, number?]
  constructor
  · intro h
    exact (Decimal.Binary.normal_ofInt_injective (by simpa using h)).symm
  · rintro rfl
    rfl

theorem same_natCast_iff {m n : Nat} : same (.int m) (.int n) = true ↔ m = n :=
  same_int_iff.trans Int.ofNat_inj

/-! ## Items and fields -/

theorem sameItems_iff_forall₂ {xs ys : List Json} :
    sameItems xs ys = true ↔ List.Forall₂ (fun x y => same x y = true) xs ys := by
  induction xs generalizing ys with
  | nil => cases ys <;> simp [sameItems]
  | cons x xs ih =>
    cases ys with
    | nil => simp [sameItems]
    | cons y ys => simp [sameItems, ih]

theorem sameFields_iff {fs gs : List (String × Json)} :
    sameFields fs gs = true ↔ ∀ f ∈ fs, ∃ y, field? gs f.1 = some y ∧ same f.2 y = true := by
  induction fs with
  | nil => simp [sameFields]
  | cons f fs ih =>
    rw [sameFields, Bool.and_eq_true, ih, List.forall_mem_cons]
    refine and_congr_left fun _ => ?_
    cases field? gs f.1 <;> simp

/-- Lists of texts are the same when they are equal. -/
theorem sameItems_map_str_iff {ss ts : List String} :
    sameItems (ss.map .str) (ts.map .str) = true ↔ ss = ts := by
  have hsame : (fun s t => same (.str s) (.str t) = true) = Eq := by
    funext s t
    exact propext same_str_str_iff
  rw [sameItems_iff_forall₂, List.forall₂_map_left_iff, List.forall₂_map_right_iff, hsame,
    List.forall₂_eq_eq_eq]

end Json

end ProofGrading
