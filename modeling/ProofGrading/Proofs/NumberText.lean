import Mathlib.Data.List.TakeDrop
import Mathlib.Data.List.TakeWhile
import ProofGrading.Json.Decode
import ProofGrading.Json.Encode

/-!
# Proofs/NumberText — numbers that are written are read

A number that is written in a document is a numeral of the reader: a whole part without a leading
zero, then a fraction or an exponent with at least one digit.  For this the digits of a positive
double must not be all zero (`Decimal.shortest_ne_zero`).  Main statement: in front of what may
follow a value a double is read as a double, and `null` where it is not finite
(`Json.scanScalar_documentFloat`).
-/

namespace ProofGrading

namespace Decimal

/-! ## The digits of a positive double -/

theorem tenTo_add (j k : Nat) : tenTo (j + k) = tenTo j * tenTo k := Nat.pow_add 10 j k

theorem twoTo_pos (k : Nat) : 0 < twoTo k := Nat.pow_pos (by decide)

theorem tenTo_pos (k : Nat) : 0 < tenTo k := Nat.pow_pos (by decide)

theorem lt_tenTo_digitCount (n : Nat) : n < tenTo (digitCount n) :=
  (Nat.length_toDigits_le_iff (by decide) Nat.length_toDigits_pos).1 (Nat.le_refl _)

theorem tenTo_pred_digitCount_le {n : Nat} (h : n ≠ 0) : tenTo (digitCount n - 1) ≤ n := by
  rcases Nat.eq_zero_or_pos (digitCount n - 1) with single | more
  · rw [single]
    exact Nat.one_le_iff_ne_zero.2 h
  · refine Nat.le_of_not_lt fun less => ?_
    have short := (Nat.length_toDigits_le_iff (b := 10) (n := n) (by decide) more).2 less
    have : (Nat.toDigits 10 n).length ≤ (Nat.toDigits 10 n).length - 1 := short
    have := Nat.length_toDigits_pos (b := 10) (n := n)
    omega

namespace Ratio

/-- A fraction is not zero on a grid of powers of ten when it is at least a unit of that grid. -/
theorem floorAt_ne_zero_iff {v : Ratio} (hv : 0 < v.den) (k : Int) :
    v.floorAt k ≠ 0 ↔ (ofDecimal 1 k).le v = true := by
  unfold floorAt ofDecimal le
  split
  · have unit : v.den * tenTo k.toNat ≠ 0 := (Nat.mul_pos hv (tenTo_pos _)).ne'
    rw [Nat.div_ne_zero_iff, decide_eq_true_eq, Nat.mul_one, Nat.one_mul, Nat.mul_comm (tenTo _)]
    exact and_iff_right unit
  · rw [Nat.div_ne_zero_iff, decide_eq_true_eq, Nat.one_mul]
    exact and_iff_right hv.ne'

/-- What is at least a unit of a grid is at least a unit of every finer one. -/
theorem le_of_finer {v : Ratio} {j k : Int} (h : (ofDecimal 1 k).le v = true) (finer : j ≤ k) :
    (ofDecimal 1 j).le v = true := by
  have grows {a b : Nat} (hab : a ≤ b) : tenTo a ≤ tenTo b :=
    Nat.pow_le_pow_right (by decide) hab
  unfold ofDecimal le at *
  by_cases hj : 0 ≤ j
  · have hk : 0 ≤ k := Int.le_trans hj finer
    simp only [hj, hk, if_true, decide_eq_true_eq, Nat.one_mul, Nat.mul_one] at h ⊢
    exact Nat.le_trans (Nat.mul_le_mul_right _ (grows (by omega))) h
  · by_cases hk : 0 ≤ k
    · simp only [hj, hk, if_true, if_false, decide_eq_true_eq, Nat.one_mul, Nat.mul_one] at h ⊢
      calc v.den ≤ tenTo k.toNat * v.den := Nat.le_mul_of_pos_left _ (tenTo_pos _)
        _ ≤ v.num := h
        _ ≤ v.num * tenTo (-j).toNat := Nat.le_mul_of_pos_right _ (tenTo_pos _)
    · simp only [hj, hk, if_false, decide_eq_true_eq, Nat.one_mul] at h ⊢
      exact Nat.le_trans h (Nat.mul_le_mul_left _ (grows (by omega)))

/-- **A fraction is at least ten to the power of its magnitude.** -/
theorem magnitude_le {v : Ratio} (hn : v.num ≠ 0) : (ofDecimal 1 v.magnitude).le v = true := by
  unfold magnitude
  dsimp only
  split
  · next h => exact h
  · -- the numerator has its digits, the denominator is below the power of its own
    have num := tenTo_pred_digitCount_le hn
    have den := (lt_tenTo_digitCount v.den).le
    have digits : 0 < digitCount v.num := Nat.length_toDigits_pos
    unfold ofDecimal le
    split
    · next up =>
      rw [decide_eq_true_eq, Nat.mul_one, Nat.one_mul]
      calc _ ≤ tenTo (digitCount v.num - digitCount v.den - 1 : Int).toNat *
            tenTo (digitCount v.den) := Nat.mul_le_mul_left _ den
        _ = tenTo (digitCount v.num - 1) := by
          rw [← tenTo_add]
          congr 1
          omega
        _ ≤ v.num := num
    · next down =>
      rw [decide_eq_true_eq, Nat.one_mul]
      calc _ ≤ tenTo (digitCount v.den) := den
        _ = tenTo (digitCount v.num - 1) *
            tenTo (-(digitCount v.num - digitCount v.den - 1 : Int)).toNat := by
          rw [← tenTo_add]
          congr 1
          omega
        _ ≤ _ := Nat.mul_le_mul_right _ num

/-- Zero is below every fraction that is not zero. -/
theorem not_holds_zero {v : Ratio} (hn : v.num ≠ 0) (k : Int) :
    v.le (ofDecimal 0 k) = false ∧ v.lt (ofDecimal 0 k) = false := by
  have den : 0 < (ofDecimal 0 k).den := by
    unfold ofDecimal
    split
    · exact Nat.one_pos
    · exact tenTo_pos _
  have num : (ofDecimal 0 k).num = 0 := by
    unfold ofDecimal
    split
    · exact Nat.zero_mul _
    · rfl
  have positive : 0 < v.num * (ofDecimal 0 k).den := Nat.mul_pos (Nat.pos_of_ne_zero hn) den
  unfold le lt
  rw [num, Nat.zero_mul, decide_eq_false_iff_not, decide_eq_false_iff_not]
  exact ⟨Nat.not_le.2 positive, Nat.not_lt_zero _⟩

end Ratio

namespace Interval

/-- The decimals of an interval above zero are not zero. -/
theorem hit_ne_zero {i : Interval} (positive : i.low.num ≠ 0) {k : Int} {d : Nat}
    (h : i.hit? k = some d) : d ≠ 0 := by
  have zero : i.holds 0 k = false := by
    obtain ⟨notLe, notLt⟩ := Ratio.not_holds_zero positive k
    unfold holds
    dsimp only
    rw [notLe, notLt]
    split <;> rfl
  have held : ∀ {n}, i.holds n k = true → n ≠ 0 := by
    rintro n hn rfl
    rw [zero] at hn
    cases hn
  unfold hit? at h
  dsimp only at h
  split at h
  · next lower upper =>
    obtain rfl := Option.some.inj h
    unfold nearer
    dsimp only
    have := held lower
    split
    · exact this
    · split
      · exact held upper
      · split
        · exact this
        · exact held upper
  · next lower _ =>
    obtain rfl := Option.some.inj h
    exact held lower
  · next upper =>
    obtain rfl := Option.some.inj h
    exact Nat.succ_ne_zero _
  · cases h

/-- The digits that are found are not zero. -/
theorem search_ne_zero {i : Interval} (positive : i.low.num ≠ 0) (den : 0 < i.value.den)
    {k : Int} (reaches : (Ratio.ofDecimal 1 k).le i.value = true) (fuel : Nat) :
    (i.search fuel k).digits ≠ 0 := by
  induction fuel generalizing k with
  | zero => exact (Ratio.floorAt_ne_zero_iff den k).2 reaches
  | succ fuel ih =>
    rw [search]
    split
    · next d hit => exact hit_ne_zero positive hit
    · exact ih (Ratio.le_of_finer reaches (by omega))

end Interval

theorem Digits.strip_ne_zero {d : Digits} (h : d.digits ≠ 0) (fuel : Nat) :
    (d.strip fuel).digits ≠ 0 := by
  induction fuel generalizing d with
  | zero => exact h
  | succ fuel ih =>
    rw [strip]
    split
    · next round =>
      refine ih ?_
      show d.digits / 10 ≠ 0
      omega
    · exact h

/-- **The digits of a positive double are not all zero.** -/
theorem shortest_ne_zero {m : Nat} (hm : m ≠ 0) (e : Int) : (shortest m e).digits ≠ 0 := by
  have num {n : Nat} (hn : n ≠ 0) (e : Int) : (Ratio.ofBinary n e).num ≠ 0 := by
    unfold Ratio.ofBinary
    split
    · exact (Nat.mul_pos (Nat.pos_of_ne_zero hn) (twoTo_pos _)).ne'
    · exact hn
  have den : 0 < (Interval.of m e).value.den := by
    unfold Interval.of Ratio.ofBinary
    dsimp only
    split
    · exact Nat.one_pos
    · exact twoTo_pos _
  have positive : (Interval.of m e).low.num ≠ 0 := num (by split <;> omega) _
  exact Digits.strip_ne_zero
    (Interval.search_ne_zero positive den (Ratio.magnitude_le (num (by omega) _)) 17) 20

/-! ## The digits of an integer -/

theorem isDigit_natText (n : Nat) : ∀ c ∈ natText n, c.isDigit = true :=
  fun _ => Nat.isDigit_of_mem_toDigits (by decide) (by decide)

/-- A number starts with a digit. -/
theorem exists_natText (n : Nat) : ∃ c cs, natText n = c :: cs ∧ c.isDigit = true := by
  obtain ⟨c, cs, first⟩ := List.exists_cons_of_ne_nil (Nat.toDigits_ne_nil (b := 10) (n := n))
  exact ⟨c, cs, first, isDigit_natText n c (by rw [natText, first]; exact List.mem_cons_self ..)⟩

/-- A number that is not zero does not start with a zero. -/
theorem head_natText {n : Nat} (h : n ≠ 0) : (natText n).head? ≠ some '0' := by
  induction n using Nat.strongRecOn with
  | _ n ih =>
    rw [natText, Nat.toDigits_eq_if (by decide)]
    split
    · next small =>
      have digit : ∀ n, n < 10 → n ≠ 0 → n.digitChar ≠ '0' := by decide
      simpa using digit n small h
    · have front := ih (n / 10) (by omega) (by omega)
      obtain ⟨c, cs, first⟩ := List.exists_cons_of_ne_nil (Nat.toDigits_ne_nil (n := n / 10))
      rw [natText, first] at front
      rwa [first]

theorem natOfDigits_natText (n : Nat) : natOfDigits (natText n) = n :=
  Nat.ofDigitChars_ten_toDigits

end Decimal

/-! ## Numerals of the reader -/

namespace Json

/-- Some digits. -/
def IsDigits (ds : List Char) : Prop := ds ≠ [] ∧ ∀ c ∈ ds, c.isDigit = true

/-- A whole part: one zero, or digits that do not start with one. -/
def IsWhole (ds : List Char) : Prop := ds = ['0'] ∨ IsDigits ds ∧ ds.head? ≠ some '0'

/-- A fraction, or nothing. -/
def IsFraction (cs : List Char) : Prop := cs = [] ∨ ∃ ds, IsDigits ds ∧ cs = '.' :: ds

/-- An exponent with its sign, or nothing. -/
def IsExponent (cs : List Char) : Prop :=
  cs = [] ∨ ∃ sign ds, (sign = '-' ∨ sign = '+') ∧ IsDigits ds ∧ cs = 'e' :: sign :: ds

/-- A text after which a number does not go on. -/
def EndsNumber (rest : List Char) : Prop :=
  ∀ c ∈ rest.head?, c.isDigit = false ∧ c ≠ '.' ∧ c ≠ 'e' ∧ c ≠ 'E'

/-- A text after which digits do not go on. -/
def EndsDigits (rest : List Char) : Prop := ∀ c ∈ rest.head?, c.isDigit = false

theorem span_digits {ds rest : List Char} (h : ∀ c ∈ ds, c.isDigit = true)
    (ends : EndsDigits rest) : (ds ++ rest).span Char.isDigit = (ds, rest) := by
  rw [List.span_eq_takeWhile_dropWhile, List.takeWhile_append_of_pos h,
    List.dropWhile_append_of_pos h]
  cases rest with
  | nil => simp
  | cons c rest => simp [ends c rfl]

variable {whole frac expo rest : List Char}

theorem wholePart?_append (h : IsWhole whole) (ends : EndsDigits rest) :
    wholePart? (whole ++ rest) = some (whole, rest) := by
  obtain rfl | ⟨⟨nonempty, digits⟩, nonzero⟩ := h
  · rfl
  · obtain ⟨c, ds, rfl⟩ := List.exists_cons_of_ne_nil nonempty
    have first : c ≠ '0' := by simpa using nonzero
    have digit : c.isDigit = true := digits c (List.mem_cons_self ..)
    have span := span_digits digits ends
    rw [List.cons_append] at span ⊢
    rw [wholePart?, if_pos digit, span]
    exact first

theorem fraction_append (h : IsFraction frac) (ends : EndsDigits rest)
    (pointless : rest.head? ≠ some '.') : fraction (frac ++ rest) = (frac.drop 1, rest) := by
  obtain rfl | ⟨ds, ⟨nonempty, digits⟩, rfl⟩ := h
  · rw [List.nil_append, fraction]
    · rfl
    · rintro d rest rfl
      exact pointless rfl
  · obtain ⟨d, ds, rfl⟩ := List.exists_cons_of_ne_nil nonempty
    have tail : ∀ c ∈ ds, c.isDigit = true := fun c hc => digits c (List.mem_cons_of_mem d hc)
    simp only [List.cons_append]
    rw [fraction, if_pos (digits d (List.mem_cons_self ..)), span_digits tail ends]
    rfl

theorem exponent_append (h : IsExponent expo) : ∃ n, (n = none ↔ expo = []) ∧
    ∀ rest, EndsNumber rest → exponent (expo ++ rest) = (n, rest) := by
  obtain rfl | ⟨sign, ds, signed, ⟨nonempty, digits⟩, rfl⟩ := h
  · refine ⟨none, by simp, fun rest ends => ?_⟩
    rw [List.nil_append]
    unfold exponent
    split
    · next e rest =>
      obtain ⟨-, -, lower, upper⟩ := ends e rfl
      rw [if_neg (by simp [lower, upper])]
    · rfl
  · have span (rest : List Char) (ends : EndsNumber rest) :=
      span_digits digits fun c hc => (ends c hc).1
    have nonempty : ds.isEmpty = false := by simpa using nonempty
    simp only [List.cons_append]
    unfold exponent
    obtain rfl | rfl := signed
    · refine ⟨some (-(Decimal.natOfDigits ds : Int)), by simp, fun rest ends => ?_⟩
      simp [-List.span_eq_takeWhile_dropWhile, span rest ends, nonempty]
    · refine ⟨some (Decimal.natOfDigits ds : Int), by simp, fun rest ends => ?_⟩
      simp [-List.span_eq_takeWhile_dropWhile, span rest ends, nonempty]

/-- The sign of a number. -/
def sign (negative : Bool) : List Char := if negative then ['-'] else []

/-- The text of a number that is no integer, without its sign. -/
def IsReal (body : List Char) : Prop :=
  ∃ whole frac expo, IsWhole whole ∧ IsFraction frac ∧ IsExponent expo ∧
    (frac ≠ [] ∨ expo ≠ []) ∧ body = whole ++ (frac ++ expo)

theorem IsWhole.head_ne (h : IsWhole whole) (rest : List Char) :
    (whole ++ rest).head? ≠ some '-' := by
  obtain rfl | ⟨⟨nonempty, digits⟩, -⟩ := h
  · rintro ⟨⟩
  · obtain ⟨c, ds, rfl⟩ := List.exists_cons_of_ne_nil nonempty
    intro same
    obtain rfl : c = '-' := Option.some.inj same
    exact absurd (digits '-' (List.mem_cons_self ..)) (by decide)

/-- **A number is read part by part.** -/
theorem scanNumber_of_parts (negative : Bool) {body r₁ r₂ : List Char} {n : Option Int}
    (unsigned : body.head? ≠ some '-') (hwhole : wholePart? body = some (whole, r₁))
    (hfrac : fraction r₁ = (frac, r₂)) (hexpo : exponent r₂ = (n, rest)) :
    scanNumber (sign negative ++ body) =
      if frac.isEmpty && n.isNone then
        if integerDigitLimit < whole.length then .error .hugeInteger
        else .ok (.int (if negative then -(Decimal.natOfDigits whole : Int)
          else Decimal.natOfDigits whole), rest)
      else .ok (.float (Decimal.nearest negative (Decimal.natOfDigits (whole ++ frac))
        (n.getD 0 - frac.length)), rest) := by
  cases negative with
  | true => simp only [sign, if_true, List.cons_append, List.nil_append, scanNumber, hwhole, hfrac,
      hexpo]
  | false =>
    cases body with
    | nil => cases hwhole
    | cons c cs =>
      have first : c ≠ '-' := by simpa using unsigned
      unfold scanNumber sign
      simp [first, hwhole, hfrac, hexpo]

theorem EndsNumber.endsDigits (ends : EndsNumber rest) : EndsDigits rest :=
  fun c hc => (ends c hc).1

theorem EndsNumber.exponent (ends : EndsNumber rest) (h : IsExponent expo) :
    EndsDigits (expo ++ rest) ∧ (expo ++ rest).head? ≠ some '.' := by
  obtain rfl | ⟨sign, ds, -, -, rfl⟩ := h
  · exact ⟨ends.endsDigits, fun point => (ends '.' point).2.1 rfl⟩
  · refine ⟨?_, by rintro ⟨⟩⟩
    rintro c ⟨⟩
    decide

theorem EndsDigits.fraction (ends : EndsDigits rest) (h : IsFraction frac) :
    EndsDigits (frac ++ rest) := by
  obtain rfl | ⟨ds, -, rfl⟩ := h
  · exact ends
  · rintro c ⟨⟩
    decide

/-- **The text of a number that is no integer is read as a double**, whatever follows it. -/
theorem scanNumber_isReal {body : List Char} (h : IsReal body) (negative : Bool) :
    ∃ x, ∀ rest, EndsNumber rest →
      scanNumber (sign negative ++ (body ++ rest)) = .ok (.float x, rest) := by
  obtain ⟨whole, frac, expo, hwhole, hfrac, hexpo, fractional, rfl⟩ := h
  obtain ⟨n, absent, exponent⟩ := exponent_append hexpo
  have real : ((frac.drop 1).isEmpty && n.isNone) = false := by
    rw [Bool.and_eq_false_iff]
    obtain fraction | exponential := fractional
    · obtain rfl | ⟨ds, ⟨nonempty, -⟩, rfl⟩ := hfrac
      · exact absurd rfl fraction
      · exact .inl (by simpa using nonempty)
    · refine .inr ?_
      cases n with
      | none => exact absurd (absent.1 rfl) exponential
      | some n => rfl
  refine ⟨Decimal.nearest negative (Decimal.natOfDigits (whole ++ frac.drop 1))
    (n.getD 0 - (frac.drop 1).length), fun rest ends => ?_⟩
  obtain ⟨afterFraction, pointless⟩ := ends.exponent hexpo
  have read := scanNumber_of_parts negative (hwhole.head_ne (frac ++ (expo ++ rest)))
    (wholePart?_append hwhole (afterFraction.fraction hfrac))
    (fraction_append hfrac afterFraction pointless) (exponent rest ends)
  rw [real] at read
  simp only [List.append_assoc]
  exact read

/-- What starts with a digit, after its sign, is a number. -/
theorem scanScalar_of_digit (negative : Bool) {c : Char} (digit : c.isDigit = true)
    (cs : List Char) :
    scanScalar (sign negative ++ c :: cs) = scanNumber (sign negative ++ c :: cs) := by
  have other : ∀ d : Char, d.isDigit = false → c ≠ d := by
    rintro d other rfl
    rw [digit] at other
    cases other
  -- every other kind of value starts with a character that is no digit
  have quote := other '"' (by decide)
  have null := other 'n' (by decide)
  have yes := other 't' (by decide)
  have no := other 'f' (by decide)
  have nan := other 'N' (by decide)
  have infinity := other 'I' (by decide)
  have minus := other '-' (by decide)
  cases negative <;> simp [scanScalar, sign, quote, null, yes, no, nan, infinity, minus]

theorem intText_eq (n : Int) : intText n = sign (decide (n < 0)) ++ Decimal.natText n.natAbs := by
  unfold intText sign
  by_cases negative : n < 0 <;> simp [negative]

/-- **The text of an integer is read as that integer**, if it has not too many digits. -/
theorem scanScalar_intText {n : Int}
    (short : (Decimal.natText n.natAbs).length ≤ integerDigitLimit) (ends : EndsNumber rest) :
    scanScalar (intText n ++ rest) = .ok (.int n, rest) := by
  have whole : IsWhole (Decimal.natText n.natAbs) := by
    by_cases zero : n.natAbs = 0
    · exact .inl (by rw [zero]; rfl)
    · exact .inr ⟨⟨Nat.toDigits_ne_nil, Decimal.isDigit_natText _⟩, Decimal.head_natText zero⟩
  have pointless : rest.head? ≠ some '.' := fun point => (ends '.' point).2.1 rfl
  obtain ⟨e, absent, exponent⟩ := exponent_append (show IsExponent [] from .inl rfl)
  rw [absent.2 rfl] at exponent
  have read := scanNumber_of_parts (decide (n < 0)) (whole.head_ne rest)
    (wholePart?_append whole ends.endsDigits)
    (fraction_append (show IsFraction [] from .inl rfl) ends.endsDigits pointless)
    (exponent rest ends)
  have value : (if decide (n < 0) = true then -(n.natAbs : Int) else n.natAbs) = n := by
    by_cases negative : n < 0
    · rw [if_pos (decide_eq_true negative)]
      omega
    · rw [if_neg fun h => negative (of_decide_eq_true h)]
      omega
  rw [Decimal.natOfDigits_natText, value, if_neg (Nat.not_lt.2 short)] at read
  obtain ⟨c, cs, first, digit⟩ := Decimal.exists_natText n.natAbs
  have number := scanScalar_of_digit (decide (n < 0)) digit (cs ++ rest)
  rw [← List.cons_append, ← first] at number
  rw [intText_eq, List.append_assoc]
  exact number.trans read

/-! ## Numbers in documents -/

theorem isDigits_natText (n : Nat) : IsDigits (Decimal.natText n) :=
  ⟨Nat.toDigits_ne_nil, Decimal.isDigit_natText n⟩

theorem isDigits_zero : IsDigits ['0'] :=
  ⟨List.cons_ne_nil _ _, fun _ hc => List.mem_singleton.1 hc ▸ rfl⟩

theorem isDigits_append_zeros {ds : List Char} (digits : IsDigits ds) (n : Nat) :
    IsDigits (ds ++ List.replicate n '0') ∧ IsDigits (List.replicate n '0' ++ ds) := by
  have zeros : ∀ c ∈ List.replicate n '0', c.isDigit = true := by
    intro c hc
    rw [List.eq_of_mem_replicate hc]
    decide
  refine ⟨⟨?_, ?_⟩, ?_, ?_⟩
  · simp [digits.1]
  · exact List.forall_mem_append.2 ⟨digits.2, zeros⟩
  · simp [digits.1]
  · exact List.forall_mem_append.2 ⟨zeros, digits.2⟩

/-- Digits with a point are a number. -/
theorem isReal_pointAfter (n : Int) {ds : List Char} (digits : IsDigits ds)
    (first : ds.head? ≠ some '0') : IsReal (Decimal.pointAfter n ds) := by
  unfold Decimal.pointAfter
  split
  · exact ⟨['0'], '.' :: (List.replicate (-n).toNat '0' ++ ds), [], .inl rfl,
      .inr ⟨_, (isDigits_append_zeros digits _).2, rfl⟩, .inl rfl, .inl (List.cons_ne_nil _ _),
      by simp⟩
  · obtain ⟨d, rest, rfl⟩ := List.exists_cons_of_ne_nil digits.1
    dsimp only
    split
    · exact ⟨_, ['.', '0'], [], .inr ⟨(isDigits_append_zeros digits _).1, first⟩,
        .inr ⟨['0'], isDigits_zero, rfl⟩, .inl rfl,
        .inl (List.cons_ne_nil _ _), by rw [List.append_nil]⟩
    · next positive long =>
      obtain ⟨k, hk⟩ : ∃ k, n.toNat = k + 1 := ⟨n.toNat - 1, by omega⟩
      rw [hk] at long ⊢
      refine ⟨_, _, [], .inr ⟨⟨?_, ?_⟩, ?_⟩, .inr ⟨_, ⟨?_, ?_⟩, rfl⟩, .inl rfl,
        .inl (List.cons_ne_nil _ _), by rw [List.append_nil]⟩
      · exact List.cons_ne_nil _ _
      · exact fun c hc => digits.2 c (List.mem_of_mem_take hc)
      · exact first
      · exact List.ne_nil_of_length_pos (by rw [List.length_drop]; omega)
      · exact fun c hc => digits.2 c (List.mem_of_mem_drop hc)

/-- Digits with an exponent are a number. -/
theorem isReal_scientific (style : Decimal.Style) (p : Int) {ds : List Char} (digits : IsDigits ds)
    (first : ds.head? ≠ some '0') : IsReal (Decimal.scientific style p ds) := by
  have exponent : IsExponent (['e', if p < 0 then '-' else '+'] ++
      Decimal.padLeft style.exponentDigits (Decimal.natText p.natAbs)) := by
    refine .inr ⟨_, _, ?_, (isDigits_append_zeros (isDigits_natText _) _).2, rfl⟩
    split
    · exact .inl rfl
    · exact .inr rfl
  obtain ⟨d, rest, rfl⟩ := List.exists_cons_of_ne_nil digits.1
  have whole : IsWhole [d] := .inr ⟨⟨List.cons_ne_nil _ _,
    fun c hc => digits.2 c (List.mem_singleton.1 hc ▸ List.mem_cons_self ..)⟩, first⟩
  unfold Decimal.scientific
  cases rest with
  | nil => exact ⟨[d], [], _, whole, .inl rfl, exponent, .inr (List.cons_ne_nil _ _), by simp⟩
  | cons e rest =>
    have tail : IsDigits (e :: rest) :=
      ⟨List.cons_ne_nil _ _, fun c hc => digits.2 c (List.mem_cons_of_mem d hc)⟩
    exact ⟨[d], '.' :: e :: rest, _, whole, .inr ⟨_, tail, rfl⟩, exponent,
      .inr (List.cons_ne_nil _ _), by simp⟩

/-- **The text of a finite double is a number**, after its sign. -/
theorem exists_isReal_binary (style : Decimal.Style) (b : Decimal.Binary) :
    ∃ body, IsReal body ∧ style.binary b = sign b.negative ++ body := by
  have signed (body : List Char) :
      (if b.negative then '-' :: body else body) = sign b.negative ++ body := by
    cases b.negative <;> rfl
  refine ⟨_, ?_, signed _⟩
  split
  · exact ⟨['0'], ['.', '0'], [], .inl rfl,
      .inr ⟨['0'], isDigits_zero, rfl⟩, .inl rfl,
      .inl (List.cons_ne_nil _ _), rfl⟩
  · next nonzero =>
    have digits := isDigits_natText (Decimal.shortest b.significand b.exponent).digits
    have first := Decimal.head_natText (Decimal.shortest_ne_zero nonzero b.exponent)
    unfold Decimal.Style.digits
    dsimp only
    split
    · exact isReal_pointAfter _ digits first
    · exact isReal_scientific _ _ digits first

theorem exists_cons_of_isReal {body : List Char} (h : IsReal body) :
    ∃ c cs, body = c :: cs ∧ c.isDigit = true := by
  obtain ⟨whole, frac, expo, rfl | ⟨⟨nonempty, digits⟩, -⟩, -, -, -, rfl⟩ := h
  · exact ⟨'0', _, rfl, by decide⟩
  · obtain ⟨c, ds, rfl⟩ := List.exists_cons_of_ne_nil nonempty
    exact ⟨c, _, rfl, digits c (List.mem_cons_self ..)⟩

/-- Whether a double is neither an infinity nor not a number. -/
def isFinite (x : Float) : Bool :=
  match Decimal.view x with
  | .finite _ => true
  | _ => false

/-- What a double in a document is read as. -/
def readBack (x : Float) : Json :=
  match scanScalar (documentFloat x) with
  | .ok (j, _) => j
  | .error _ => .null

theorem endsNumber_nil : EndsNumber [] :=
  fun c starts => absurd starts (Option.some_ne_none c).symm

/-- A finite double is read as a double, whatever follows it. -/
theorem exists_scanScalar_documentFloat {x : Float} (finite : isFinite x = true) :
    ∃ y, ∀ rest, EndsNumber rest →
      scanScalar (documentFloat x ++ rest) = .ok (.float y, rest) := by
  cases view : Decimal.view x with
  | finite b =>
    obtain ⟨body, real, written⟩ := exists_isReal_binary .document b
    obtain ⟨c, cs, rfl, digit⟩ := exists_cons_of_isReal real
    obtain ⟨y, read⟩ := scanNumber_isReal real b.negative
    refine ⟨y, fun rest ends => ?_⟩
    have text : documentFloat x = Decimal.Style.document.binary b := by
      simp only [documentFloat, Decimal.Style.write?, view]
    rw [text, written, List.append_assoc, ← read rest ends]
    exact scanScalar_of_digit b.negative digit (cs ++ rest)
  | _ =>
    rw [isFinite, view] at finite
    cases finite

theorem documentFloat_of_not_isFinite {x : Float} (h : isFinite x = false) :
    documentFloat x = ['n', 'u', 'l', 'l'] := by
  cases view : Decimal.view x with
  | finite b =>
    rw [isFinite, view] at h
    cases h
  | _ => simp only [documentFloat, Decimal.Style.write?, view]

/-- A finite double is read back as a double. -/
theorem exists_readBack {x : Float} (finite : isFinite x = true) : ∃ y, readBack x = .float y := by
  obtain ⟨y, read⟩ := exists_scanScalar_documentFloat finite
  have read := read [] endsNumber_nil
  rw [List.append_nil] at read
  exact ⟨y, by rw [readBack, read]⟩

/-- What is no finite double is read back as `null`. -/
theorem readBack_of_not_isFinite {x : Float} (h : isFinite x = false) : readBack x = .null := by
  rw [readBack, documentFloat_of_not_isFinite h]
  rfl

/-- **A double in a document is read**, whatever follows it. -/
theorem scanScalar_documentFloat (x : Float) (ends : EndsNumber rest) :
    scanScalar (documentFloat x ++ rest) = .ok (readBack x, rest) := by
  cases finite : isFinite x with
  | true =>
    obtain ⟨y, read⟩ := exists_scanScalar_documentFloat finite
    have alone := read [] endsNumber_nil
    rw [List.append_nil] at alone
    rw [readBack, alone, read rest ends]
  | false =>
    rw [readBack_of_not_isFinite finite, documentFloat_of_not_isFinite finite]
    rfl

/-- Zero is read back as zero. -/
theorem readBack_zero : readBack 0.0 = .float 0.0 := by
  rfl

end Json

end ProofGrading
