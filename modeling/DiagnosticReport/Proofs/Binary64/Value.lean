import DiagnosticReport.Proofs.Binary64.Whole
import Mathlib.Algebra.Order.Archimedean.Basic
import Mathlib.Algebra.Order.Floor.Semifield
import Mathlib.Data.Int.ConditionallyCompleteOrder
import Mathlib.Data.Rat.Floor
import Mathlib.Tactic.FieldSimp
import Mathlib.Tactic.Linarith
import Mathlib.Tactic.NormNum

/-!
# Floats as rational numbers

`value` is the rational number that a finite float stands for. It orders floats as their ranks do
(`value_lt_value_iff`), so comparisons of floats are comparisons of numbers. Integer parts and
rounding to integers are floors of values (`wholeMagnitude_eq`, `wholeMagnitude_round`), and an
integer below `2 ^ 53` is the value of its float (`value_ofNat`).
-/

namespace DiagnosticReport.Binary64

/-- The rational number `± mantissa * 2 ^ exponent`. -/
def Exact.value (x : Exact) : ℚ :=
  (if x.negative then -1 else 1) * (x.mantissa * 2 ^ x.exponent)

/-- The rational number that a finite float stands for. -/
def value (x : Float) : ℚ :=
  (exact x).value

/-! ## The order of values -/

/-- The rational number of the float whose bits below the sign are `m`. -/
def magnitudeValue (m : Nat) : ℚ :=
  if m / 2 ^ 52 = 0 then ((m % 2 ^ 52 : ℕ) : ℚ) * 2 ^ (-1074 : ℤ)
  else ((2 ^ 52 + m % 2 ^ 52 : ℕ) : ℚ) * 2 ^ (((m / 2 ^ 52 : ℕ) : ℤ) - 1075)

theorem magnitudeValue_zero : magnitudeValue 0 = 0 := by
  norm_num [magnitudeValue]

/-- Each magnitude stands for a larger number than the one before. -/
theorem magnitudeValue_lt_succ (m : Nat) : magnitudeValue m < magnitudeValue (m + 1) := by
  have hunit (e : ℤ) : (0 : ℚ) < 2 ^ e := zpow_pos two_pos e
  unfold magnitudeValue
  rcases Nat.lt_or_ge (m % 2 ^ 52 + 1) (2 ^ 52) with hinside | hcarry
  case inl =>
    have hquotient : (m + 1) / 2 ^ 52 = m / 2 ^ 52 := by omega
    have hremainder : (m + 1) % 2 ^ 52 = m % 2 ^ 52 + 1 := by omega
    rw [hquotient, hremainder]
    split
    · exact mul_lt_mul_of_pos_right (Nat.cast_lt.2 (Nat.lt_succ_self _)) (hunit _)
    · exact mul_lt_mul_of_pos_right (Nat.cast_lt.2 (Nat.lt_succ_self _)) (hunit _)
  case inr =>
    have hquotient : (m + 1) / 2 ^ 52 = m / 2 ^ 52 + 1 := by omega
    have hremainder : (m + 1) % 2 ^ 52 = 0 := by omega
    have hlast : m % 2 ^ 52 = 2 ^ 52 - 1 := by omega
    rw [hquotient, hremainder, hlast, if_neg (Nat.succ_ne_zero _)]
    generalize m / 2 ^ 52 = biased
    split
    case isTrue hsubnormal =>
      subst hsubnormal
      norm_num
    case isFalse =>
      -- the mantissa starts again where the unit doubles
      have hdouble : (2 : ℚ) ^ (((biased + 1 : ℕ) : ℤ) - 1075) = 2 * 2 ^ ((biased : ℤ) - 1075) := by
        rw [← zpow_one_add₀ two_ne_zero]
        congr 1
        push_cast
        ring
      have hpos := hunit ((biased : ℤ) - 1075)
      rw [hdouble]
      norm_num
      linarith

/-- The rational number of the floats of a rank. -/
def rankValue : ℤ → ℚ
  | .ofNat m => magnitudeValue m
  | .negSucc m => -magnitudeValue (m + 1)

theorem rankValue_neg (m : Nat) : rankValue (-(m : ℤ)) = -magnitudeValue m := by
  cases m with
  | zero =>
    show magnitudeValue 0 = -magnitudeValue 0
    rw [magnitudeValue_zero, neg_zero]
  | succ m => rfl

/-- Ranks are in the order of the numbers that they stand for. -/
theorem strictMono_rankValue : StrictMono rankValue := by
  refine strictMono_int_of_lt_succ fun r => ?_
  match r with
  | .ofNat m => exact magnitudeValue_lt_succ m
  | .negSucc 0 =>
    show -magnitudeValue 1 < magnitudeValue 0
    have hstep := magnitudeValue_lt_succ 0
    rw [zero_add] at hstep
    linarith [magnitudeValue_zero]
  | .negSucc (m + 1) => exact neg_lt_neg (magnitudeValue_lt_succ (m + 1))

/-- The value of a float is settled by its rank. -/
theorem value_eq_rankValue (x : Float) : value x = rankValue (rank x) := by
  have hvalue : value x = (if isNegative x then -1 else 1) * magnitudeValue (magnitude x) := by
    have hpow : Nat.pow 2 52 = 2 ^ 52 := rfl
    unfold value Exact.value exact magnitudeValue
    rw [hpow]
    dsimp only
    split <;> rfl
  rw [hvalue, rank]
  split
  · rw [rankValue_neg, neg_one_mul]
  · exact one_mul _

section

variable {x y : Float}

/-- Values are in the order of ranks. -/
theorem value_lt_value_iff : value x < value y ↔ rank x < rank y := by
  rw [value_eq_rankValue, value_eq_rankValue, strictMono_rankValue.lt_iff_lt]

theorem value_le_value_iff : value x ≤ value y ↔ rank x ≤ rank y := by
  rw [value_eq_rankValue, value_eq_rankValue, strictMono_rankValue.le_iff_le]

/-- Finite floats are compared by their values. -/
theorem less_iff_value (hx : isFinite x) (hy : isFinite y) : less x y ↔ value x < value y := by
  rw [isFinite_iff] at hx hy
  rw [less_iff, value_lt_value_iff]
  omega

/-- Finite floats are compared by their values, ties included. -/
theorem lessEq_iff_value (hx : isFinite x) (hy : isFinite y) : lessEq x y ↔ value x ≤ value y := by
  rw [isFinite_iff] at hx hy
  rw [lessEq_iff, value_le_value_iff]
  omega

end

theorem value_zero : value 0.0 = 0 := by
  have hrank : rank 0.0 = (0 : ℕ) := by decide
  rw [value_eq_rankValue, hrank]
  exact magnitudeValue_zero

/-! ## Integers -/

/-- A natural number below 2 ^ 53 is a float without loss. -/
theorem value_ofNat {n : Nat} (h : n < 2 ^ 53) : value (Float.ofNat n) = n := by
  rw [value_eq_rankValue]
  rcases Nat.eq_zero_or_pos n with rfl | hn
  case inl =>
    rw [rank_ofNat_zero]
    show magnitudeValue 0 = _
    rw [magnitudeValue_zero, Nat.cast_zero]
  case inr =>
    obtain ⟨k, hk⟩ := exists_log2_add_eq hn h
    obtain ⟨hlow, hhigh⟩ := mul_pow_bounds hn hk
    have hquotient : ((1074 - k) * 2 ^ 52 + n * 2 ^ k) / 2 ^ 52 = 1075 - k := by omega
    have hremainder : ((1074 - k) * 2 ^ 52 + n * 2 ^ k) % 2 ^ 52 = n * 2 ^ k - 2 ^ 52 := by omega
    have hexponent : ((1075 - k : ℕ) : ℤ) - 1075 = -k := by omega
    rw [rank_ofNat hn hk]
    show magnitudeValue _ = _
    rw [magnitudeValue, hquotient, hremainder, if_neg (by omega), hexponent,
      Nat.add_sub_cancel' hlow, zpow_neg, zpow_natCast]
    push_cast
    exact mul_inv_cancel_right₀ (pow_ne_zero k two_ne_zero) _

theorem isNegative_of_rank_pos {x : Float} (h : 0 < rank x) : isNegative x = false := by
  by_contra hnegative
  rw [rank, if_pos (Bool.of_not_eq_false hnegative)] at h
  omega

theorem isNegative_ofNat (n : Nat) : isNegative (Float.ofNat n) = false := by
  rcases Nat.eq_zero_or_pos n with rfl | hn
  · decide
  · exact isNegative_of_rank_pos (rank_ofNat_pos hn)

theorem Exact.value_eq_ratio {e : Exact} (h : e.negative = false) :
    e.value = (e.ratio.1 : ℚ) / e.ratio.2 := by
  obtain ⟨negative, mantissa, exponent, narrowBelow⟩ := e
  obtain rfl : negative = false := h
  obtain ⟨n, rfl | rfl⟩ := exponent.eq_nat_or_neg
  · simp [value, ratio]
  · simp [value, ratio, div_eq_mul_inv]

section

variable {x : Float}

theorem negative_exact : (exact x).negative = isNegative x := by
  unfold exact
  dsimp only
  split <;> rfl

/-- A mantissa has 53 bits at most. -/
theorem mantissa_exact_lt : (exact x).mantissa < 2 ^ 53 := by
  have hpow : Nat.pow 2 52 = 2 ^ 52 := rfl
  unfold exact
  rw [hpow]
  dsimp only
  split
  · dsimp only
    omega
  · dsimp only
    omega

variable (h : isNegative x = false)

include h

/-- The value of a float that is not negative is the ratio of its exact form. -/
theorem value_eq_ratio : value x = ((exact x).ratio.1 : ℚ) / (exact x).ratio.2 :=
  Exact.value_eq_ratio (negative_exact.trans h)

theorem value_eq_div {n d : Nat} (hd : 0 < d)
    (hratio : (exact x).ratio.1 * d = n * (exact x).ratio.2) : value x = n / d := by
  have hne : ((exact x).ratio.2 : ℚ) ≠ 0 := Nat.cast_ne_zero.2 (Nat.two_pow_pos _).ne'
  rw [value_eq_ratio h, div_eq_div_iff hne (Nat.cast_ne_zero.2 hd.ne')]
  exact_mod_cast hratio

/-- The whole part of a magnitude is the floor of the value. -/
theorem wholeMagnitude_eq : wholeMagnitude x = ⌊value x⌋₊ := by
  rw [value_eq_ratio h, Nat.floor_div_eq_div]
  rfl

/-- Rounding to an integer, halves upwards, is the floor after a half is added. -/
theorem wholeMagnitude_round (hx : isFinite x) : wholeMagnitude (round x) = ⌊value x + 1 / 2⌋₊ := by
  rcases lt_or_ge (exact x).exponent 0 with hfraction | hwhole
  case inl =>
    generalize hnum : (exact x).ratio.1 = num
    generalize hden : (exact x).ratio.2 = den
    have hnumerator : num < 2 ^ 53 := by
      have hmantissa := mantissa_exact_lt (x := x)
      have hzero : (exact x).exponent.toNat = 0 := Int.toNat_of_nonpos hfraction.le
      rw [← hnum]
      show (exact x).mantissa * 2 ^ (exact x).exponent.toNat < _
      rwa [hzero, Nat.pow_zero, Nat.mul_one]
    have hdenominator : 0 < den := by
      rw [← hden]
      exact Nat.two_pow_pos _
    have hround : round x = Float.ofNat ((2 * num + den) / (2 * den)) := by
      unfold round
      rw [hx, h, decide_eq_false (Int.not_le.2 hfraction)]
      simp only [hnum, hden, Bool.not_true, Bool.or_self, Bool.false_eq_true, if_false]
    have hsmall : (2 * num + den) / (2 * den) < 2 ^ 53 := by
      rw [Nat.div_lt_iff_lt_mul (by omega)]
      omega
    have hvalue : value x + 1 / 2 = ((2 * num + den : ℕ) : ℚ) / (2 * den : ℕ) := by
      have hne : (den : ℚ) ≠ 0 := Nat.cast_ne_zero.2 hdenominator.ne'
      rw [value_eq_ratio h, hnum, hden]
      push_cast
      field_simp
    rw [hround, wholeMagnitude_eq (isNegative_ofNat _), value_ofNat hsmall, Nat.floor_natCast,
      hvalue, Nat.floor_div_eq_div]
  case inr =>
    have hround : round x = x := by
      unfold round
      rw [decide_eq_true hwhole, Bool.or_true, if_pos rfl]
    have hden : (exact x).ratio.2 = 1 := by
      show 2 ^ (-(exact x).exponent).toNat = 1
      rw [Int.toNat_of_nonpos (by omega), Nat.pow_zero]
    have hhalf : ⌊(1 / 2 : ℚ)⌋₊ = 0 := Nat.floor_eq_zero.2 (by norm_num)
    rw [hround, wholeMagnitude_eq h, value_eq_ratio h, hden, Nat.cast_one, div_one,
      Nat.floor_natCast, add_comm, Nat.floor_add_natCast (by norm_num), hhalf, Nat.zero_add]

end

end DiagnosticReport.Binary64
