import DiagnosticReport.Proofs.Binary64.Whole
import DiagnosticReport.Scalar

/-!
# Sums of floats that are not negative

A sum of two floats is their exact sum, rounded. Rounding does not pass over a float: if a float is
no larger than an exact number, it is no larger than what the number is rounded to (`exists_round`).
So a sum of floats that are not negative is no smaller than any of them (`lessEq_sum`), and it is
positive if one of them is; but it may leave the finite floats.
-/

namespace DiagnosticReport.Binary64

open Float.Model Float.Model.UnpackedFloat

/-! ## Rounding -/

section

variable {m : Nat} {e : Int}

theorem targetExponent_of_canonical (hm : 0 < m) (h : Canonical m e) :
    Format.binary64.targetExponent (totalExponent m e) = e := by
  obtain ⟨hmax, hmin, hfull⟩ := h
  have hlow := Nat.le_log2 (k := 52) hm.ne'
  have hhigh := Nat.log2_lt (k := 53) hm.ne'
  show max ((m.log2 : Int) + 1 + e - 53) (-1074) = e
  omega

theorem round_of_canonical (hm : 0 < m) (h : Canonical m e) :
    UnpackedFloat.round Format.binary64 .positive m e = .finite .positive m e hm := by
  have htarget := targetExponent_of_canonical hm h
  have hzero : (e - e).toNat = 0 := by omega
  have hshift : shiftToTargetExponent Format.binary64 m e .exact = (⟨m, false, false⟩, e) := by
    unfold shiftToTargetExponent shiftToExponent
    dsimp only
    rw [htarget, hzero, Nat.cast_zero, Int.add_zero]
    rfl
  unfold UnpackedFloat.round decreaseExponent
  dsimp only
  rw [htarget, hzero, Nat.shiftLeft_zero, Nat.cast_zero, Int.sub_zero]
  exact roundWithAccuracy_of_shift .positive hm hshift hshift

/-- A float up to a number that is a float itself. -/
theorem le_of_canonical {l : Nat} {f : Int} (hl : Canonical l f) (h : Canonical m e) (hf : e ≤ f)
    (hle : l * 2 ^ (f - e).toNat ≤ m) :
    (f + 1074).toNat * 2 ^ 52 + l ≤ (e + 1074).toNat * 2 ^ 52 + m := by
  obtain ⟨hmax, hmin, hfull⟩ := hl
  have hmantissa := h.mantissa
  rcases Int.lt_or_eq_of_le hf with hless | rfl
  · have hpow : 2 ^ 1 ≤ 2 ^ (f - e).toNat := Nat.pow_le_pow_right two_pos (by omega)
    have hproduct := Nat.mul_le_mul_left l hpow
    have hexponent := h.exponent
    omega
  · rw [Int.sub_self, Int.toNat_zero, Nat.pow_zero, Nat.mul_one] at hle
    omega

/-- A float up to a number with `k` bits too many: above the exponent of the number without them
there is no such float, and below it the mantissa does not matter. -/
theorem le_of_mul_pow_le {l k : Nat} {f : Int} (hl : Canonical l f) (he : -1074 ≤ e) (hf : e ≤ f)
    (hlow : 2 ^ 52 * 2 ^ k ≤ m) (hhigh : m < 2 ^ 53 * 2 ^ k) (hle : l * 2 ^ (f - e).toNat ≤ m) :
    (f + 1074).toNat * 2 ^ 52 + l ≤ (e + k + 1074).toNat * 2 ^ 52 + m / 2 ^ k := by
  obtain ⟨hmax, hmin, hfull⟩ := hl
  have hquotient : 2 ^ 52 ≤ m / 2 ^ k := (Nat.le_div_iff_mul_le (Nat.two_pow_pos k)).2 hlow
  obtain ⟨j, hj⟩ : ∃ j, (f - e).toNat = j := ⟨_, rfl⟩
  rw [hj] at hle
  rcases Nat.lt_trichotomy j k with hless | rfl | hgreater
  · omega
  · have hmantissa := (Nat.le_div_iff_mul_le (Nat.two_pow_pos j)).2 hle
    omega
  · have hpow : 2 ^ (k + 1) ≤ 2 ^ j := Nat.pow_le_pow_right two_pos hgreater
    have hproduct : 2 ^ 52 * 2 ^ (k + 1) ≤ l * 2 ^ j := Nat.mul_le_mul (by omega) hpow
    rw [Nat.pow_succ] at hproduct
    omega

/-- A number of at least 53 bits is rounded to a float that is no smaller than any float up to the
number. -/
theorem exists_round (he : -1074 ≤ e) (h : 2 ^ 53 ≤ m) :
    ∃ n d, ∃ hn : 0 < n, Canonical n d ∧
      UnpackedFloat.round Format.binary64 .positive m e = .finite .positive n d hn ∧
      ∀ l f, Canonical l f → e ≤ f → l * 2 ^ (f - e).toNat ≤ m →
        (f + 1074).toNat * 2 ^ 52 + l ≤ (d + 1074).toNat * 2 ^ 52 + n := by
  have hm : m ≠ 0 := by omega
  have hlog : 52 ≤ m.log2 := (Nat.le_log2 hm).2 (by omega)
  obtain ⟨k, hk⟩ := Nat.exists_eq_add_of_le' hlog
  have hlow : 2 ^ 52 * 2 ^ k ≤ m := by
    rw [← Nat.pow_add, Nat.add_comm, ← hk]
    exact Nat.log2_self_le hm
  have hhigh : m < 2 ^ 53 * 2 ^ k := by
    rw [← Nat.pow_add, Nat.add_comm, ← Nat.add_assoc k 52 1, ← hk]
    exact Nat.lt_log2_self
  have hexponent : -1074 ≤ e + k := by omega
  obtain ⟨n, d, hn, hcanonical, hrank, hround⟩ :=
    roundWithAccuracy_eq .positive hlow hhigh hexponent
  refine ⟨n, d, hn, hcanonical, ?_, fun l f hl hf hle => ?_⟩
  · have hshift : (e - (e + k)).toNat = 0 := by omega
    unfold UnpackedFloat.round decreaseExponent
    dsimp only
    rw [targetExponent_eq hlow hhigh hexponent, hshift, Nat.shiftLeft_zero, Nat.cast_zero,
      Int.sub_zero]
    exact hround
  · have hfloor : m / 2 ^ k ≤ ((⟨m, false, false⟩ : ExtendedMantissa) >>> k).roundedMantissa := by
      rw [← mantissa_shift ⟨m, false, false⟩]
      exact le_roundedMantissa _
    rw [hrank]
    exact (le_of_mul_pow_le hl he hf hlow hhigh hle).trans (Nat.add_le_add_left hfloor _)

end

/-! ## Two floats -/

theorem decreaseExponent_eq (m : Nat) {e d : Int} (h : d ≤ e) :
    decreaseExponent m e d = (m * 2 ^ (e - d).toNat, d) := by
  unfold decreaseExponent
  dsimp only
  rw [Nat.shiftLeft_eq]
  congr 1
  omega

/-- Positive floats are added as numbers over the smaller of their exponents. -/
theorem add_finite_finite {m n : Nat} {d e : Int} (hm : 0 < m) (hn : 0 < n) :
    UnpackedFloat.add Format.binary64 (.finite .positive m d hm) (.finite .positive n e hn) =
      UnpackedFloat.round Format.binary64 .positive
        (m * 2 ^ (d - min d e).toNat + n * 2 ^ (e - min d e).toNat) (min d e) := by
  have hpos : 0 < m * 2 ^ (d - min d e).toNat := Nat.mul_pos hm (Nat.two_pow_pos _)
  unfold UnpackedFloat.add
  dsimp only
  rw [decreaseExponent_eq m (min_le_left d e), decreaseExponent_eq n (min_le_right d e)]
  generalize m * 2 ^ (d - min d e).toNat = a at *
  generalize n * 2 ^ (e - min d e).toNat = b at *
  show UnpackedFloat.normalize Format.binary64 ((a : Int) + b) _ .positive = _
  unfold UnpackedFloat.normalize
  rw [Int.compare_eq_gt.2 (by omega), ← Nat.cast_add]
  rfl

theorem exists_add_finite_finite {m n : Nat} {d e : Int} (hm : 0 < m) (hn : 0 < n)
    (hmd : Canonical m d) (hne : Canonical n e) :
    ∃ l f, ∃ hl : 0 < l, Canonical l f ∧
      UnpackedFloat.add Format.binary64 (.finite .positive m d hm) (.finite .positive n e hn) =
        .finite .positive l f hl ∧
      (d + 1074).toNat * 2 ^ 52 + m ≤ (f + 1074).toNat * 2 ^ 52 + l ∧
      (e + 1074).toNat * 2 ^ 52 + n ≤ (f + 1074).toNat * 2 ^ 52 + l := by
  have hleft : m ≤ m * 2 ^ (d - min d e).toNat := Nat.le_mul_of_pos_right m (Nat.two_pow_pos _)
  have hright : n ≤ n * 2 ^ (e - min d e).toNat := Nat.le_mul_of_pos_right n (Nat.two_pow_pos _)
  have hexponent : -1074 ≤ min d e := le_min hmd.exponent hne.exponent
  obtain ⟨sum, hsum⟩ : ∃ sum, m * 2 ^ (d - min d e).toNat + n * 2 ^ (e - min d e).toNat = sum :=
    ⟨_, rfl⟩
  rw [add_finite_finite hm hn, hsum]
  rcases Nat.lt_or_ge sum (2 ^ 53) with hsmall | hlarge
  · have hfull : 2 ^ 52 ≤ sum ∨ min d e = -1074 := by
      have hmfull := hmd.full
      have hnfull := hne.full
      omega
    have hcanonical : Canonical sum (min d e) := ⟨hsmall, hexponent, hfull⟩
    refine ⟨sum, min d e, by omega, hcanonical, round_of_canonical _ hcanonical, ?_, ?_⟩
    · exact le_of_canonical hmd hcanonical (min_le_left d e) (by omega)
    · exact le_of_canonical hne hcanonical (min_le_right d e) (by omega)
  · obtain ⟨l, f, hl, hcanonical, hround, hle⟩ := exists_round hexponent hlarge
    refine ⟨l, f, hl, hcanonical, hround, ?_, ?_⟩
    · exact hle m d hmd (min_le_left d e) (by omega)
    · exact hle n e hne (min_le_right d e) (by omega)

/-- A number that is not negative, with its rank. -/
inductive IsAt : Nat → UnpackedFloat → Prop
  | infinity : IsAt infinite (.infinity .positive)
  | zero (s : Sign) : IsAt 0 (.zero s)
  | finite {m : Nat} {e : Int} (hm : 0 < m) (h : Canonical m e)
      (hfits : (e + 1074).toNat * 2 ^ 52 + m < infinite) :
      IsAt ((e + 1074).toNat * 2 ^ 52 + m) (.finite .positive m e hm)

theorem exists_isAt {x : Float} (h : lessEq 0.0 x) :
    ∃ low : Nat, rank x = low ∧ IsAt low x.toModel.unpack := by
  obtain ⟨s, low, hrank, hdenotes⟩ := exists_denotes x
  rw [lessEq_iff, rank_zero, hrank, natAbs_apply] at h
  obtain ⟨-, hnumber, hnonneg⟩ := h
  refine ⟨low, ?_, ?_⟩
  · rw [hrank]
    cases s with
    | positive => rfl
    | negative =>
      have hneg : Sign.negative.apply (low : Int) = -low := rfl
      omega
  · generalize x.toModel.unpack = u at hdenotes
    cases hdenotes with
    | notANumber hnan => exact absurd hnumber (Nat.not_le.2 hnan)
    | zero => exact .zero s
    | infinity =>
      cases s with
      | positive => exact .infinity
      | negative => exact absurd hnonneg (by decide)
    | finite hm hcanonical hfits =>
      cases s with
      | positive => exact .finite hm hcanonical hfits
      | negative =>
        have hneg (n : Nat) : Sign.negative.apply (n : Int) = -n := rfl
        rw [hneg] at hnonneg
        omega

namespace IsAt

variable {a b : Nat} {u v : UnpackedFloat}

theorem le_infinite (h : IsAt a u) : a ≤ infinite := by
  cases h with
  | infinity => exact le_rfl
  | zero => exact Nat.zero_le _
  | finite _ _ hfits => exact hfits.le

theorem rank_pack (h : IsAt a u) : rank (.ofModel (.pack u)) = a := by
  cases h with
  | infinity => exact rank_pack_infinity _
  | zero => exact rank_pack_zero _
  | finite hm hcanonical hfits =>
    rw [rank_pack_finite _ hm hcanonical, min_eq_right hfits.le]
    rfl

/-- A sum is a number that is no smaller than its summands, infinite if it is too large. -/
theorem exists_rank_add (hu : IsAt a u) (hv : IsAt b v) :
    ∃ c : Nat, rank (.ofModel (.pack (UnpackedFloat.add Format.binary64 u v))) = c ∧
      a ≤ c ∧ b ≤ c ∧ c ≤ infinite := by
  have ha := hu.le_infinite
  have hb := hv.le_infinite
  cases hu with
  | infinity =>
    refine ⟨infinite, ?_, le_rfl, hb, le_rfl⟩
    cases hv <;> exact rank_pack_infinity _
  | zero s =>
    refine ⟨b, ?_, Nat.zero_le b, le_rfl, hb⟩
    have hsecond := hv.rank_pack
    cases hv with
    | infinity | finite => exact hsecond
    | zero t => cases s <;> cases t <;> exact rank_pack_zero _
  | finite hm hcanonical hfits =>
    cases hv with
    | infinity => exact ⟨infinite, rank_pack_infinity _, ha, le_rfl, le_rfl⟩
    | zero t => exact ⟨_, (IsAt.finite hm hcanonical hfits).rank_pack, le_rfl, Nat.zero_le _, ha⟩
    | finite hn hcanonical' hfits' =>
      obtain ⟨l, f, hl, hsum, hadd, hleft, hright⟩ :=
        exists_add_finite_finite hm hn hcanonical hcanonical'
      refine ⟨_, ?_, le_min ha hleft, le_min hb hright, min_le_left _ _⟩
      rw [hadd, rank_pack_finite _ hl hsum]
      rfl

end IsAt

/-- A sum of floats that are not negative is a number, and no smaller than either of them. -/
theorem lessEq_add {x y : Float} (hx : lessEq 0.0 x) (hy : lessEq 0.0 y) :
    lessEq x (x + y) ∧ lessEq y (x + y) := by
  obtain ⟨a, hxa, hu⟩ := exists_isAt hx
  obtain ⟨b, hyb, hv⟩ := exists_isAt hy
  obtain ⟨c, hc, hac, hbc, hcmax⟩ := hu.exists_rank_add hv
  have hadd : rank (x + y) = c := hc
  have hamax := hu.le_infinite
  have hbmax := hv.le_infinite
  rw [lessEq_iff, lessEq_iff]
  omega

/-! ## Many floats -/

theorem lessEq_foldl_add {xs : List Float} (hxs : ∀ x ∈ xs, lessEq 0.0 x) {start : Float}
    (hstart : lessEq 0.0 start) :
    lessEq start (xs.foldl (· + ·) start) ∧ ∀ x ∈ xs, lessEq x (xs.foldl (· + ·) start) := by
  induction xs generalizing start with
  | nil =>
    refine ⟨?_, fun x hx => nomatch hx⟩
    rw [lessEq_iff] at hstart
    rw [List.foldl_nil, lessEq_iff]
    omega
  | cons x xs ih =>
    obtain ⟨hx, hrest⟩ := List.forall_mem_cons.1 hxs
    obtain ⟨hstep, hadded⟩ := lessEq_add hstart hx
    obtain ⟨htotal, hothers⟩ := ih hrest (lessEq_trans hstart hstep)
    refine ⟨lessEq_trans hstep htotal, List.forall_mem_cons.2 ⟨lessEq_trans hadded htotal, hothers⟩⟩

/-- A sum of floats that are not negative is no smaller than any of them. -/
theorem lessEq_sum {xs : List Float} (hxs : ∀ x ∈ xs, lessEq 0.0 x) :
    lessEq 0.0 (Scalar.sum xs) ∧ ∀ x ∈ xs, lessEq x (Scalar.sum xs) :=
  lessEq_foldl_add hxs (by decide)

end DiagnosticReport.Binary64
