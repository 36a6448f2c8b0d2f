import DiagnosticReport.Proofs.Binary64.Value
import DiagnosticReport.Scalar

/-!
# Exact arithmetic

The geometry of charts is written over any scalars. Over `Extended K` it runs without rounding, on
the numbers of a field with infinities and NaN: what comes in is checked for finiteness by the same
code that runs on floats (`Extended.ofFloat`). A zero has no sign here.
-/

namespace DiagnosticReport

/-- A number of a field, an infinity or no number. -/
inductive Extended (K : Type) where
  | finite (x : K)
  | infinite (negative : Bool)
  | nan

namespace Extended

section

variable {K : Type} [Field K] [LinearOrder K]

def add : Extended K → Extended K → Extended K
  | finite x, finite y => finite (x + y)
  | infinite a, infinite b => if a = b then infinite a else nan
  | infinite a, finite _ | finite _, infinite a => infinite a
  | nan, _ | _, nan => nan

def neg : Extended K → Extended K
  | finite x => finite (-x)
  | infinite negative => infinite !negative
  | nan => nan

def mul : Extended K → Extended K → Extended K
  | finite x, finite y => finite (x * y)
  | finite x, infinite a | infinite a, finite x =>
    if x = 0 then nan else infinite (a ^^ decide (x < 0))
  | infinite a, infinite b => infinite (a ^^ b)
  | nan, _ | _, nan => nan

def div : Extended K → Extended K → Extended K
  | finite x, finite y =>
    if y ≠ 0 then finite (x / y) else if x = 0 then nan else infinite (decide (x < 0))
  | finite _, infinite _ => finite 0
  | infinite a, finite y => infinite (a ^^ decide (y < 0))
  | infinite _, infinite _ => nan
  | nan, _ | _, nan => nan

def less : Extended K → Extended K → Bool
  | finite x, finite y => decide (x < y)
  | finite _, infinite b => !b
  | infinite a, finite _ => a
  | infinite a, infinite b => a && !b
  | nan, _ | _, nan => false

instance : Scalar (Extended K) where
  add := add
  neg := neg
  sub x y := x.add y.neg
  mul := mul
  div := div
  ofScientific m s e := finite (OfScientific.ofScientific m s e)
  ofNat n := finite n
  less := less
  isFinite
    | finite _ => true
    | infinite _ | nan => false
  isNaN
    | nan => true
    | finite _ | infinite _ => false

/-! ## Finite numbers -/

section

variable (x y : K)

/-- The sum of finite numbers is exact. -/
@[simp] theorem finite_add_finite : finite x + finite y = finite (x + y) := rfl

/-- The difference of finite numbers is exact. -/
@[simp] theorem finite_sub_finite : finite x - finite y = finite (x - y) :=
  congrArg finite (sub_eq_add_neg x y).symm

/-- The product of finite numbers is exact. -/
@[simp] theorem finite_mul_finite : finite x * finite y = finite (x * y) := rfl

@[simp] theorem neg_finite : -finite x = finite (-x) := rfl

/-- Finite numbers are compared exactly. -/
@[simp] theorem less_finite : Scalar.less (finite x) (finite y) = decide (x < y) := rfl

@[simp] theorem isFinite_finite : Scalar.isFinite (finite x) = true := rfl

/-- The quotient of finite numbers is exact, but for a zero below. -/
theorem finite_div_finite {x y : K} (h : y ≠ 0) : finite x / finite y = finite (x / y) :=
  if_pos h

/-- A literal is the number that it writes. -/
theorem ofScientific_eq (m : Nat) (s : Bool) (e : Nat) :
    (OfScientific.ofScientific m s e : Extended K) = finite (OfScientific.ofScientific m s e) :=
  rfl

end

/-- Clamping a finite number is taking a maximum and a minimum. -/
theorem clamp_finite (x low high : K) :
    Scalar.clamp (finite x) (finite low) (finite high) = finite (min (max x low) high) := by
  have hlow : (if x < low then finite low else finite x) = finite (max x low) := by
    rw [← apply_ite finite, max_def_lt]
  unfold Scalar.clamp
  simp only [less_finite, decide_eq_true_eq, hlow]
  rw [← apply_ite finite, min_comm, min_def_lt]

theorem larger_finite (x y : K) : Scalar.larger (finite x) (finite y) = finite (max x y) := by
  have hnumber : Scalar.isNaN (finite x) = false := rfl
  rw [Scalar.larger, hnumber, Bool.false_or, less_finite, max_def_lt, ← apply_ite finite]
  simp only [decide_eq_true_eq]

theorem smaller_finite (x y : K) : Scalar.smaller (finite x) (finite y) = finite (min x y) := by
  have hnumber : Scalar.isNaN (finite x) = false := rfl
  rw [Scalar.smaller, hnumber, Bool.false_or, less_finite, min_comm, min_def_lt, ← apply_ite finite]
  simp only [decide_eq_true_eq]

/-! ## Measures and scales -/

/-- An extent that counts from a bound on; anything else is taken for a default. -/
def extent (bound default : K) : Extended K → K
  | finite x => if bound ≤ x then x else default
  | infinite _ | nan => default

omit [Field K] in
/-- An extent is not below its bound. -/
theorem le_extent {bound default : K} (h : bound ≤ default) (x : Extended K) :
    bound ≤ extent bound default x := by
  cases x with
  | finite x =>
    by_cases hx : bound ≤ x
    · exact hx.trans_eq (if_pos hx).symm
    · exact h.trans_eq (if_neg hx).symm
  | infinite _ => exact h
  | nan => exact h

/-- A measure that is not finite or below its bound is replaced by the default. -/
theorem extent_eq (bound default : K) (x : Extended K) :
    (if Scalar.isFinite x && !Scalar.less x (finite bound) then x else finite default) =
      finite (extent bound default x) := by
  cases x with
  | finite x =>
    rw [isFinite_finite, less_finite, Bool.true_and, extent, apply_ite finite]
    simp only [Bool.not_eq_true', decide_eq_false_iff_not, not_lt]
  | infinite _ => rfl
  | nan => rfl

/-- The place of a number on the scale from 0 to a bound; what is not finite lies at 0. -/
def onScale (bound : K) : Extended K → K
  | finite x => min (max x 0) bound
  | infinite _ | nan => 0

/-- A number on a scale lies on it, whatever it was made from. -/
theorem onScale_mem {bound : K} (hbound : 0 ≤ bound) (x : Extended K) :
    0 ≤ onScale bound x ∧ onScale bound x ≤ bound := by
  cases x with
  | finite x => exact ⟨le_min (le_max_right ..) hbound, min_le_right ..⟩
  | infinite _ => exact ⟨le_rfl, hbound⟩
  | nan => exact ⟨le_rfl, hbound⟩

/-- Putting numbers on a scale keeps their order. -/
theorem onScale_mono (bound : K) {x y : K} (h : x ≤ y) :
    onScale bound (finite x) ≤ onScale bound (finite y) :=
  min_le_min (max_le_max h le_rfl) le_rfl

/-- A number on the scale already is left as it is. -/
theorem onScale_of_mem {bound x : K} (hlow : 0 ≤ x) (hhigh : x ≤ bound) :
    onScale bound (finite x) = x := by
  rw [onScale, max_eq_left hlow, min_eq_left hhigh]

variable [IsStrictOrderedRing K]

theorem zero_eq : (0.0 : Extended K) = finite 0 := by
  rw [ofScientific_eq]
  norm_num

/-- Sums of finite numbers are exact. -/
theorem sum_finite (xs : List K) : Scalar.sum (xs.map finite) = finite xs.sum := by
  suffices hfoldl : ∀ start : K,
      (xs.map finite).foldl (· + ·) (finite start) = finite (start + xs.sum) by
    rw [Scalar.sum, zero_eq, hfoldl, zero_add]
  induction xs with
  | nil => simp
  | cons x xs ih =>
    intro start
    rw [List.map_cons, List.foldl_cons, finite_add_finite, ih, List.sum_cons, add_assoc]

/-- A finite number is cut at zero and at its bound. -/
theorem sanitize_finite (x bound : K) :
    Scalar.sanitize (finite x) (finite bound) = finite (min (max x 0) bound) := by
  rw [Scalar.sanitize, isFinite_finite, if_pos rfl, zero_eq, clamp_finite]

/-- What is not finite counts as zero. -/
theorem sanitize_of_not_isFinite {x : Extended K} (h : Scalar.isFinite x = false)
    (bound : Extended K) : Scalar.sanitize x bound = finite 0 := by
  rw [Scalar.sanitize, h, if_neg Bool.false_ne_true, zero_eq]

/-- A clamped score is a finite number on the scale to 100. -/
theorem clampScore_eq (x : Extended K) :
    Scalar.clampScore x = finite (onScale 100 x) := by
  have hbound : (100.0 : Extended K) = finite 100 := by
    rw [ofScientific_eq]
    norm_num
  rw [Scalar.clampScore, hbound]
  cases x with
  | finite x => exact sanitize_finite x 100
  | infinite _ => exact sanitize_of_not_isFinite rfl _
  | nan => exact sanitize_of_not_isFinite rfl _

end

/-! ## Floats -/

/-- The exact number that a float stands for. -/
def ofFloat (x : Float) : Extended ℚ :=
  if Binary64.isNaN x then nan
  else if Binary64.isFinite x then finite (Binary64.value x)
  else infinite (Binary64.isNegative x)

section

open Binary64

/-- A finite float is taken for the number that it stands for. -/
theorem ofFloat_of_isFinite {x : Float} (h : isFinite x) : ofFloat x = finite (value x) := by
  have hnumber : isNaN x = false := by
    rw [isFinite_iff] at h
    rw [← Bool.not_eq_true, isNaN_iff]
    omega
  rw [ofFloat, hnumber, if_neg Bool.false_ne_true, if_pos h]

@[simp] theorem isFinite_ofFloat (x : Float) : Scalar.isFinite (ofFloat x) = isFinite x := by
  cases h : isFinite x with
  | true => rw [ofFloat_of_isFinite h, isFinite_finite]
  | false =>
    rw [ofFloat, h]
    cases isNaN x <;> rfl

/-- No finite float is above the largest one. -/
theorem value_le_value_largestFloat {x : Float} (h : isFinite x) :
    value x ≤ value largestFloat := by
  have hlargest : rank largestFloat = (Binary64.infinite : Int) - 1 := by decide +kernel
  rw [isFinite_iff] at h
  rw [value_le_value_iff, hlargest]
  omega

/-- A positive finite float counts as its value, any other one as 0. -/
theorem sanitize_ofFloat (x : Float) :
    Scalar.sanitize (ofFloat x) (ofFloat largestFloat) =
      finite (if isFinite x && Binary64.less 0.0 x then value x else 0) := by
  cases hfinite : isFinite x with
  | false =>
    rw [sanitize_of_not_isFinite (by rw [isFinite_ofFloat, hfinite]), Bool.false_and,
      if_neg Bool.false_ne_true]
  | true =>
    have hpos : Binary64.less 0.0 x ↔ 0 < value x := by
      rw [less_iff_value (by decide) hfinite, value_zero]
    have hbound : isFinite largestFloat := by decide +kernel
    have hlargest : 0 ≤ value largestFloat :=
      value_zero ▸ value_le_value_largestFloat (by decide)
    rw [ofFloat_of_isFinite hfinite, ofFloat_of_isFinite hbound, sanitize_finite,
      Bool.true_and, min_eq_left (max_le (value_le_value_largestFloat hfinite) hlargest)]
    simp only [hpos, max_comm (value x), max_def_lt]

end

end Extended

end DiagnosticReport
