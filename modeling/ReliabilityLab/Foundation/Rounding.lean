import Mathlib.Data.NNRat.Floor
import Mathlib.Data.Int.Log

namespace ReliabilityLab

/-- The nearest integer, ties to even. -/
def roundHalfEven (q : ℚ≥0) : ℕ :=
  if q - ⌊q⌋₊ < 1 / 2 then ⌊q⌋₊
  else if 1 / 2 < q - ⌊q⌋₊ then ⌊q⌋₊ + 1
  else if Even ⌊q⌋₊ then ⌊q⌋₊ else ⌊q⌋₊ + 1

/-- A floating-point format for nonnegative values, with gradual underflow. -/
structure FloatFormat where
  base : ℕ
  digits : ℕ
  minExponent : ℤ
  maxExponent : ℤ
  base_gt : 1 < base

namespace FloatFormat
variable (F : FloatFormat)

/-- The unit in the last place of the values around `q`. -/
def ulp (q : ℚ≥0) : ℚ≥0 := (F.base : ℚ≥0) ^ (max (Int.log F.base q) F.minExponent - (F.digits - 1))

/-- The nearest value of the format, or nothing where that overflows. -/
def round (q : ℚ≥0) : Option ℚ≥0 :=
  if roundHalfEven (q / F.ulp q) * F.ulp q < (F.base : ℚ≥0) ^ (F.maxExponent + 1) then
    some (roundHalfEven (q / F.ulp q) * F.ulp q)
  else none

theorem base_pos : 0 < (F.base : ℚ≥0) := by
  exact_mod_cast Nat.lt_of_succ_lt F.base_gt

end FloatFormat

theorem roundHalfEven_le {q : ℚ≥0} {n : ℕ} (le : q ≤ n) : roundHalfEven q ≤ n := by
  have floor_le : ⌊q⌋₊ ≤ n := Nat.floor_le_of_le le
  by_cases whole : ⌊q⌋₊ = n
  · have same : q - ⌊q⌋₊ = 0 := by rw [whole]; exact tsub_eq_zero_of_le le
    rw [roundHalfEven, same, if_pos (by norm_num)]
    exact floor_le
  · have below : ⌊q⌋₊ + 1 ≤ n := by omega
    unfold roundHalfEven
    split
    · exact floor_le
    · split
      · exact below
      · split <;> omega

/-- Rounding keeps a fraction of 1 below 1, and does not overflow there. -/
theorem FloatFormat.round_le_one (F : FloatFormat) (min : F.minExponent ≤ 0) (digits : 1 ≤ F.digits)
    (max : 0 ≤ F.maxExponent) {q : ℚ≥0} (le : q ≤ 1) : ∃ r, F.round q = some r ∧ r ≤ 1 := by
  have log_le : Int.log F.base q ≤ 0 := by
    rw [Int.log_of_right_le_one F.base le]
    omega
  obtain ⟨shift, exponent⟩ : ∃ shift : ℕ, (F.digits : ℤ) - 1 - Max.max (Int.log F.base q) F.minExponent = shift :=
    Int.eq_ofNat_of_zero_le (by omega)
  have ulp : F.ulp q = ((F.base : ℚ≥0) ^ shift)⁻¹ := by
    rw [FloatFormat.ulp, ← zpow_natCast, ← zpow_neg, ← exponent]
    congr 1
    ring
  have scale : (0 : ℚ≥0) < (F.base : ℚ≥0) ^ shift := pow_pos F.base_pos shift
  have rounded : roundHalfEven (q / F.ulp q) ≤ F.base ^ shift := by
    refine roundHalfEven_le ?_
    rw [ulp, div_inv_eq_mul, Nat.cast_pow]
    exact mul_le_of_le_one_left' le
  have small : roundHalfEven (q / F.ulp q) * F.ulp q ≤ 1 := by
    rw [show F.ulp q = _ from ulp, ← div_eq_mul_inv, div_le_one₀ scale, ← ulp]
    exact_mod_cast rounded
  have large : (1 : ℚ≥0) < (F.base : ℚ≥0) ^ (F.maxExponent + 1) :=
    one_lt_zpow₀ (by exact_mod_cast F.base_gt) (by omega)
  exact ⟨_, if_pos (small.trans_lt large), small⟩

theorem roundHalfEven_natCast (n : ℕ) : roundHalfEven (n : ℚ≥0) = n := by
  have floor : ⌊(n : ℚ≥0)⌋₊ = n := Nat.floor_natCast n
  rw [roundHalfEven, floor, tsub_self, if_pos (by norm_num)]

namespace FloatFormat
variable {F : FloatFormat} {n : ℕ}

/-- A whole number of few enough digits is a value of the format. -/
theorem round_natCast (digits : 1 ≤ F.digits) (min : F.minExponent ≤ 0) (max : F.digits ≤ F.maxExponent + 1)
    (few : n < F.base ^ F.digits) : F.round n = some (n : ℚ≥0) := by
  have log : Int.log F.base (n : ℚ≥0) = Nat.log F.base n := Int.log_natCast F.base n
  have log_le : Nat.log F.base n ≤ F.digits - 1 := by
    rcases Nat.eq_zero_or_pos n with rfl | positive
    · simp
    · have below := Nat.log_lt_of_lt_pow positive.ne' few
      omega
  obtain ⟨shift, exponent⟩ : ∃ shift : ℕ, (F.digits : ℤ) - 1 - Max.max (Int.log F.base (n : ℚ≥0)) F.minExponent = shift :=
    Int.eq_ofNat_of_zero_le (by rw [log]; omega)
  have ulp : F.ulp n = ((F.base : ℚ≥0) ^ shift)⁻¹ := by
    rw [FloatFormat.ulp, ← zpow_natCast, ← zpow_neg, ← exponent]
    congr 1
    ring
  have scale : (0 : ℚ≥0) < (F.base : ℚ≥0) ^ shift := pow_pos F.base_pos shift
  have whole : (n : ℚ≥0) / F.ulp n = (n * F.base ^ shift : ℕ) := by
    rw [ulp, div_inv_eq_mul]
    push_cast
    rfl
  have same : (roundHalfEven (n / F.ulp n) : ℚ≥0) * F.ulp n = n := by
    rw [whole, roundHalfEven_natCast, ← whole, div_mul_cancel₀]
    rw [ulp]
    exact inv_ne_zero scale.ne'
  have fits : (n : ℚ≥0) < (F.base : ℚ≥0) ^ (F.maxExponent + 1) := by
    have few' : (n : ℚ≥0) < (F.base : ℚ≥0) ^ (F.digits : ℤ) := by
      rw [zpow_natCast]
      exact_mod_cast few
    exact few'.trans_le (zpow_le_zpow_right₀ (by exact_mod_cast F.base_gt.le) max)
  rw [FloatFormat.round, same, if_pos fits]

/-- A whole number rounds to a whole number. -/
theorem round_natCast_whole {r : ℚ≥0} (digits : 1 ≤ F.digits) (min : F.minExponent ≤ 0) (max : F.digits ≤ F.maxExponent + 1)
    (rounds : F.round n = some r) : ∃ m : ℕ, r = m := by
  by_cases few : n < F.base ^ F.digits
  · rw [round_natCast digits min max few, Option.some.injEq] at rounds
    exact ⟨n, rounds.symm⟩
  · have log : Int.log F.base (n : ℚ≥0) = Nat.log F.base n := Int.log_natCast F.base n
    have many : F.digits ≤ Nat.log F.base n := Nat.le_log_of_pow_le F.base_gt (Nat.le_of_not_lt few)
    obtain ⟨shift, exponent⟩ : ∃ shift : ℕ, Max.max (Int.log F.base (n : ℚ≥0)) F.minExponent - (F.digits - 1) = shift :=
      Int.eq_ofNat_of_zero_le (by rw [log]; omega)
    have ulp : F.ulp n = (F.base ^ shift : ℕ) := by
      rw [FloatFormat.ulp, exponent, zpow_natCast, Nat.cast_pow]
    unfold FloatFormat.round at rounds
    split at rounds
    · cases rounds
      rw [ulp]
      exact ⟨_, (Nat.cast_mul _ _).symm⟩
    · cases rounds

end FloatFormat

/-- Python's `float`. -/
def double : FloatFormat := ⟨2, 53, -1022, 1023, by decide⟩

theorem double_natCast {n : ℕ} (few : n < 2 ^ 53) : double.round n = some (n : ℚ≥0) :=
  FloatFormat.round_natCast (by decide) (by decide) (by decide) few

/-- The default context of `decimal`. -/
def decimalContext : FloatFormat := ⟨10, 28, -999999, 999999, by decide⟩

end ReliabilityLab
