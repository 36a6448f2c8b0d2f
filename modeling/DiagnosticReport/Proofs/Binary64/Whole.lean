import DiagnosticReport.Proofs.Binary64.Packing

/-!
# Floats of integers

An integer below `2 ^ 53` in magnitude is a float exactly; a larger one is rounded, but never to a
float of a smaller magnitude than `2 ^ 53`. So an integer below `2 ^ 53` in magnitude shares its
float with no other integer (`rank_ofInt_eq_iff`), and floats count exactly up to there
(`ofNat_add_ofNat`).
-/

namespace DiagnosticReport.Binary64

open Float.Model Float.Model.UnpackedFloat

/-! ## Rounding -/

/-- A shift divides the mantissa. -/
theorem mantissa_shift (em : ExtendedMantissa) (k : Nat) :
    (em >>> k).mantissa = em.mantissa / 2 ^ k := by
  show (k.repeat ExtendedMantissa.shiftRightOne em).mantissa = _
  induction k with
  | zero => simp [Nat.repeat]
  | succ k ih =>
    rw [Nat.repeat, ExtendedMantissa.shiftRightOne, ih, Nat.div_div_eq_div_mul, ← Nat.pow_succ]

theorem shift_mul_pow (m k : Nat) :
    (⟨m * 2 ^ k, false, false⟩ : ExtendedMantissa) >>> k = ⟨m, false, false⟩ := by
  show k.repeat ExtendedMantissa.shiftRightOne _ = _
  induction k generalizing m with
  | zero => simp [Nat.repeat]
  | succ k ih =>
    have hstep := ih (m * 2)
    rw [Nat.mul_assoc, ← Nat.pow_succ'] at hstep
    rw [Nat.repeat, hstep, ExtendedMantissa.shiftRightOne]
    simp

/-- Rounding does not lower the mantissa. -/
theorem le_roundedMantissa (em : ExtendedMantissa) : em.mantissa ≤ em.roundedMantissa := by
  rcases em with ⟨m, round, sticky⟩
  cases round <;> cases sticky <;>
    simp [ExtendedMantissa.roundedMantissa, ExtendedMantissa.accuracy,
      Accuracy.roundToNearestEven]

/-- Rounding adds one to the mantissa at most. -/
theorem roundedMantissa_le (em : ExtendedMantissa) : em.roundedMantissa ≤ em.mantissa + 1 := by
  rcases em with ⟨m, round, sticky⟩
  cases round <;> cases sticky <;>
    simp [ExtendedMantissa.roundedMantissa, ExtendedMantissa.accuracy,
      Accuracy.roundToNearestEven]
  omega

section

variable {m k : Nat} {e : Int}

/-- The target exponent leaves a mantissa of 53 bits. -/
theorem targetExponent_eq (hlow : 2 ^ 52 * 2 ^ k ≤ m) (hhigh : m < 2 ^ 53 * 2 ^ k)
    (he : -1074 ≤ e + k) : Format.binary64.targetExponent (totalExponent m e) = e + k := by
  have hpos : m ≠ 0 := by
    have hpow := Nat.two_pow_pos k
    omega
  have hlog : m.log2 = 52 + k := by
    rw [Nat.log2_eq_iff hpos, Nat.add_right_comm, Nat.pow_add, Nat.pow_add]
    exact ⟨hlow, hhigh⟩
  show max ((m.log2 : Int) + 1 + e - 53) (-1074) = e + k
  omega

theorem shiftToTargetExponent_eq (hlow : 2 ^ 52 * 2 ^ k ≤ m) (hhigh : m < 2 ^ 53 * 2 ^ k)
    (he : -1074 ≤ e + k) :
    shiftToTargetExponent Format.binary64 m e .exact =
      ((⟨m, false, false⟩ : ExtendedMantissa) >>> k, e + k) := by
  have hshift : (e + k - e).toNat = k := by omega
  simp only [shiftToTargetExponent, targetExponent_eq hlow hhigh he, shiftToExponent, hshift]
  rfl

theorem roundWithAccuracy_of_shift (s : Sign) {em : ExtendedMantissa} {n : Nat} {d d' : Int}
    (hn : 0 < n) (hfirst : shiftToTargetExponent Format.binary64 m e .exact = (em, d))
    (hsecond : shiftToTargetExponent Format.binary64 em.roundedMantissa d .exact =
      (⟨n, false, false⟩, d')) :
    roundWithAccuracy Format.binary64 s m e .exact = .finite s n d' hn := by
  unfold roundWithAccuracy
  rw [hfirst]
  dsimp only
  rw [hsecond]
  exact dif_neg hn.ne'

/-- A mantissa with `k` bits too many is rounded once; the carry of the rounding may cost another
bit, which keeps the rank. -/
theorem roundWithAccuracy_eq (s : Sign) (hlow : 2 ^ 52 * 2 ^ k ≤ m) (hhigh : m < 2 ^ 53 * 2 ^ k)
    (he : -1074 ≤ e + k) :
    ∃ n d, ∃ hn : 0 < n, Canonical n d ∧
      (d + 1074).toNat * 2 ^ 52 + n = (e + k + 1074).toNat * 2 ^ 52 +
        ((⟨m, false, false⟩ : ExtendedMantissa) >>> k).roundedMantissa ∧
      roundWithAccuracy Format.binary64 s m e .exact = .finite s n d hn := by
  have hfloor : ((⟨m, false, false⟩ : ExtendedMantissa) >>> k).mantissa = m / 2 ^ k :=
    mantissa_shift _ k
  have hpow := Nat.two_pow_pos k
  have hfloorlow : 2 ^ 52 ≤ m / 2 ^ k := (Nat.le_div_iff_mul_le hpow).2 hlow
  have hfloorhigh : m / 2 ^ k < 2 ^ 53 := (Nat.div_lt_iff_lt_mul hpow).2 hhigh
  have hle := le_roundedMantissa ((⟨m, false, false⟩ : ExtendedMantissa) >>> k)
  have hge := roundedMantissa_le ((⟨m, false, false⟩ : ExtendedMantissa) >>> k)
  have hfirst := shiftToTargetExponent_eq hlow hhigh he
  generalize ((⟨m, false, false⟩ : ExtendedMantissa) >>> k) = em at *
  rcases Nat.lt_or_ge em.roundedMantissa (2 ^ 53) with hfits | hcarry
  case inl =>
    have hsecond : shiftToTargetExponent Format.binary64 em.roundedMantissa (e + k) .exact =
        (⟨em.roundedMantissa, false, false⟩, e + k) := by
      rw [shiftToTargetExponent_eq (k := 0) (by omega) (by omega) (by omega), Nat.cast_zero,
        add_zero]
      rfl
    refine ⟨em.roundedMantissa, e + k, by omega, ⟨hfits, he, .inl (by omega)⟩, rfl, ?_⟩
    exact roundWithAccuracy_of_shift s _ hfirst hsecond
  case inr =>
    have hr : em.roundedMantissa = 2 ^ 52 * 2 ^ 1 := by omega
    have hsecond : shiftToTargetExponent Format.binary64 em.roundedMantissa (e + k) .exact =
        (⟨2 ^ 52, false, false⟩, e + k + 1) := by
      rw [shiftToTargetExponent_eq (k := 1) (by omega) (by omega) (by omega), hr, shift_mul_pow]
      rfl
    refine ⟨2 ^ 52, e + k + 1, by omega, ⟨by omega, by omega, .inl le_rfl⟩, by omega, ?_⟩
    exact roundWithAccuracy_of_shift s _ hfirst hsecond

/-- A mantissa whose bits in excess are zeros is kept. -/
theorem roundWithAccuracy_mul_pow (s : Sign) (hm : 0 < m) (hlow : 2 ^ 52 ≤ m) (hhigh : m < 2 ^ 53)
    (he : -1074 ≤ e + k) :
    roundWithAccuracy Format.binary64 s (m * 2 ^ k) e .exact = .finite s m (e + k) hm := by
  have hpow := Nat.two_pow_pos k
  obtain ⟨n, d, hn, hcanonical, hrank, hround⟩ := roundWithAccuracy_eq s
    (Nat.mul_le_mul_right _ hlow) (Nat.mul_lt_mul_of_pos_right hhigh hpow) he
  rw [shift_mul_pow] at hrank
  obtain ⟨rfl, rfl⟩ := hcanonical.eq_of_rank_eq ⟨hhigh, he, .inl hlow⟩ hrank
  exact hround

end

/-! ## Natural numbers -/

section

variable {n k : Nat}

theorem mul_pow_bounds (hn : 0 < n) (hk : n.log2 + k = 52) :
    2 ^ 52 ≤ n * 2 ^ k ∧ n * 2 ^ k < 2 ^ 53 := by
  have hself := Nat.log2_self_le hn.ne'
  have hnext := Nat.lt_log2_self (n := n)
  constructor
  · calc 2 ^ 52 = 2 ^ n.log2 * 2 ^ k := by rw [← Nat.pow_add, hk]
      _ ≤ n * 2 ^ k := Nat.mul_le_mul_right _ hself
  · calc n * 2 ^ k < 2 ^ (n.log2 + 1) * 2 ^ k :=
          Nat.mul_lt_mul_of_pos_right hnext (Nat.two_pow_pos k)
      _ = 2 ^ 53 := by rw [← Nat.pow_add, Nat.add_right_comm, hk]

/-- Numbers below 2 ^ 53 have a power of two that takes them to 53 bits. -/
theorem exists_log2_add_eq (hn : 0 < n) (h : n < 2 ^ 53) : ∃ k, n.log2 + k = 52 := by
  have hlog : n.log2 < 53 := (Nat.log2_lt hn.ne').2 h
  exact ⟨52 - n.log2, by omega⟩

/-- A positive number below `2 ^ 53` has one canonical form, whatever exponent it is given with. -/
theorem normalize_mul_pow (hn : 0 < n) (hk : n.log2 + k = 52) (l : Nat) :
    UnpackedFloat.normalize Format.binary64 (n * 2 ^ l : Nat) (-l) .positive =
      .finite .positive (n * 2 ^ k) (-k) (Nat.mul_pos hn (Nat.two_pow_pos k)) := by
  obtain ⟨hlow, hhigh⟩ := mul_pow_bounds hn hk
  have hpos : 0 < n * 2 ^ l := Nat.mul_pos hn (Nat.two_pow_pos l)
  have hlog : (n * 2 ^ l).log2 = n.log2 + l := by
    rw [Nat.log2_eq_iff hpos.ne', Nat.add_right_comm, Nat.pow_add, Nat.pow_add]
    exact ⟨Nat.mul_le_mul_right _ (Nat.log2_self_le hn.ne'),
      Nat.mul_lt_mul_of_pos_right Nat.lt_log2_self (Nat.two_pow_pos l)⟩
  have htarget : Format.binary64.targetExponent (totalExponent (n * 2 ^ l) (-l)) = -k := by
    show max (((n * 2 ^ l).log2 : Int) + 1 + -l - 53) (-1074) = -k
    omega
  -- the exponent is lowered to the target, or lies below it already
  have hshift : (-(l : Int) - -(k : Int)).toNat = k - l := by omega
  have hmantissa : n * 2 ^ l * 2 ^ (k - l) = n * 2 ^ k * 2 ^ (l - k) := by
    rw [Nat.mul_assoc, Nat.mul_assoc, ← Nat.pow_add, ← Nat.pow_add]
    congr 2
    omega
  have hround := roundWithAccuracy_mul_pow (k := l - k) (e := -l - (k - l : Nat)) .positive
    (Nat.mul_pos hn (Nat.two_pow_pos k)) hlow hhigh (by omega)
  have hexponent : -(l : Int) - (k - l : Nat) + (l - k : Nat) = -k := by omega
  rw [hexponent] at hround
  unfold UnpackedFloat.normalize
  rw [Int.compare_eq_gt.2 (Int.natCast_pos.2 hpos)]
  show UnpackedFloat.round Format.binary64 .positive (n * 2 ^ l) (-l) = _
  unfold UnpackedFloat.round decreaseExponent
  dsimp only
  rw [htarget, hshift, Nat.shiftLeft_eq, hmantissa]
  exact hround

/-- A natural number below 2 ^ 53 is packed without rounding. -/
theorem unpacked_ofNat (hn : 0 < n) (hk : n.log2 + k = 52) :
    UnpackedFloat.ofNat Format.binary64 n =
      .finite .positive (n * 2 ^ k) (-k) (Nat.mul_pos hn (Nat.two_pow_pos k)) := by
  have hnormal := normalize_mul_pow hn hk 0
  rwa [Nat.pow_zero, Nat.mul_one] at hnormal

/-- A positive number below `2 ^ 53` is a float exactly. -/
theorem ofNat_eq (hn : 0 < n) (hk : n.log2 + k = 52) :
    Float.ofNat n = .ofModel (.pack
      (.finite .positive (n * 2 ^ k) (-k) (Nat.mul_pos hn (Nat.two_pow_pos k)))) := by
  obtain ⟨hlow, hhigh⟩ := mul_pow_bounds hn hk
  have hsmall : n < 2 ^ 53 := (Nat.le_mul_of_pos_right n (Nat.two_pow_pos k)).trans_lt hhigh
  have hword : n.toUInt64.toNat = n := Nat.mod_eq_of_lt (hsmall.trans (by decide))
  have hone : (Float.ofBits 0x3FF0000000000000).toModel.unpack =
      .finite .positive (2 ^ 52) (-52) (by decide) := rfl
  have hcanonical : Canonical (n * 2 ^ k) (-k) := ⟨hhigh, by omega, .inl hlow⟩
  have hfits : (-(k : Int) + 1074).toNat * 2 ^ 52 + n * 2 ^ k < infinite := by
    have hinfinite : infinite = 2047 * 2 ^ 52 := rfl
    omega
  have hround := roundWithAccuracy_mul_pow (k := 52) (e := -k + -52) .positive
    (Nat.mul_pos hn (Nat.two_pow_pos k)) hlow hhigh (by omega)
  show Float.ofScientific n false 0 = _
  rw [Float.ofScientific, dif_pos ⟨hsmall, by decide⟩]
  show Float.ofModel (.pack (UnpackedFloat.mul Format.binary64
    (Float.Model.pack (UnpackedFloat.ofNat Format.binary64 n.toUInt64.toNat)).unpack
    (Float.ofBits 0x3FF0000000000000).toModel.unpack)) = _
  rw [hone, hword, unpacked_ofNat hn hk, unpack_pack_finite _ _ hcanonical hfits]
  show Float.ofModel (.pack (roundWithAccuracy Format.binary64 .positive (n * 2 ^ k * 2 ^ 52)
    (-(k : Int) + -52) .exact)) = _
  have hexponent : -(k : Int) + -52 + (52 : Nat) = -k := by omega
  rw [hround, hexponent]

/-- The rank of a positive number below `2 ^ 53`. -/
theorem rank_ofNat (hn : 0 < n) (hk : n.log2 + k = 52) :
    rank (Float.ofNat n) = ((1074 - k) * 2 ^ 52 + n * 2 ^ k : Nat) := by
  obtain ⟨hlow, hhigh⟩ := mul_pow_bounds hn hk
  have hinfinite : infinite = 2047 * 2 ^ 52 := rfl
  rw [ofNat_eq hn hk, rank_pack_finite _ _ ⟨hhigh, by omega, .inl hlow⟩]
  show ((min infinite _ : Nat) : Int) = _
  congr 1
  omega

/-- A natural number below 2 ^ 53 is unpacked as it was packed. -/
theorem unpack_ofNat (hn : 0 < n) (hk : n.log2 + k = 52) :
    (Float.ofNat n).toModel.unpack =
      .finite .positive (n * 2 ^ k) (-k) (Nat.mul_pos hn (Nat.two_pow_pos k)) := by
  obtain ⟨hlow, hhigh⟩ := mul_pow_bounds hn hk
  have hinfinite : infinite = 2047 * 2 ^ 52 := rfl
  rw [ofNat_eq hn hk]
  exact unpack_pack_finite _ _ ⟨hhigh, by omega, .inl hlow⟩ (by omega)

theorem unpack_ofNat_zero : (Float.ofNat 0).toModel.unpack = .zero .positive :=
  rfl

/-- Lowering an exponent multiplies the mantissa. -/
theorem decreaseExponent_mul_pow {j l : Nat} (h : j ≤ l) (m : Nat) :
    decreaseExponent (m * 2 ^ j) (-j) (-l) = (m * 2 ^ l, -(l : Int)) := by
  have hshift : (-(j : Int) - -(l : Int)).toNat = l - j := by omega
  have hexponent : -(j : Int) - (l - j : Nat) = -l := by omega
  unfold decreaseExponent
  dsimp only
  rw [hshift, hexponent, Nat.shiftLeft_eq, Nat.mul_assoc, ← Nat.pow_add, Nat.add_sub_cancel' h]

/-- **Addition of integers** whose sum is below `2 ^ 53` is exact. -/
theorem ofNat_add_ofNat {m n : Nat} (h : m + n < 2 ^ 53) :
    Float.ofNat m + Float.ofNat n = Float.ofNat (m + n) := by
  show Float.ofModel (.pack (UnpackedFloat.add Format.binary64
    (Float.ofNat m).toModel.unpack (Float.ofNat n).toModel.unpack)) = _
  rcases Nat.eq_zero_or_pos m with rfl | hm <;> rcases Nat.eq_zero_or_pos n with rfl | hn
  · decide
  · obtain ⟨k, hk⟩ := exists_log2_add_eq hn (by omega)
    rw [unpack_ofNat_zero, unpack_ofNat hn hk, Nat.zero_add, ofNat_eq hn hk]
    rfl
  · obtain ⟨j, hj⟩ := exists_log2_add_eq hm (by omega)
    rw [unpack_ofNat_zero, unpack_ofNat hm hj, Nat.add_zero, ofNat_eq hm hj]
    rfl
  · obtain ⟨j, hj⟩ := exists_log2_add_eq hm (by omega)
    obtain ⟨k, hk⟩ := exists_log2_add_eq hn (by omega)
    obtain ⟨i, hi⟩ := exists_log2_add_eq (Nat.add_pos_left hm n) h
    have hmin : min (-(j : Int)) (-(k : Int)) = -((max j k : Nat) : Int) := by omega
    have hsum : ((m * 2 ^ max j k : Nat) : Int) + (n * 2 ^ max j k : Nat) =
        ((m + n) * 2 ^ max j k : Nat) := by rw [Nat.add_mul, Nat.cast_add]
    rw [unpack_ofNat hm hj, unpack_ofNat hn hk]
    unfold UnpackedFloat.add
    dsimp only
    rw [hmin, decreaseExponent_mul_pow (le_max_left j k),
      decreaseExponent_mul_pow (le_max_right j k)]
    show Float.ofModel (.pack (UnpackedFloat.normalize Format.binary64
      (((m * 2 ^ max j k : Nat) : Int) + (n * 2 ^ max j k : Nat)) _ .positive)) = _
    rw [hsum, normalize_mul_pow (Nat.add_pos_left hm n) hi, ofNat_eq (Nat.add_pos_left hm n) hi]

theorem unpacked_ofScientific (hn : 0 < n) :
    UnpackedFloat.ofScientific Format.binary64 n 0 =
      roundWithAccuracy Format.binary64 .positive (n * 2 ^ 53) (-53) .exact := by
  have hhuge : ¬ (0 : Int) > 2 ^ Format.binary64.exponentBits := by decide
  have htiny : ¬ (0 : Int) < -((2 : Int) ^ Format.binary64.exponentBits + n.log2) := by
    show ¬ (0 : Int) < -(2048 + n.log2)
    omega
  rw [UnpackedFloat.ofScientific, dif_neg hn.ne', if_neg hhuge, if_neg htiny, if_pos le_rfl]
  show roundWithAccuracy Format.binary64 .positive (n <<< 53 * 1) (-53) .exact = _
  rw [Nat.shiftLeft_eq, Nat.mul_one]

/-- The rank of a number from `2 ^ 53` on is at least the rank of `2 ^ 53`. -/
theorem le_rank_ofNat (h : 2 ^ 53 ≤ n) :
    ((1076 * 2 ^ 52 : Nat) : Int) ≤ rank (Float.ofNat n) ∧ rank (Float.ofNat n) ≤ infinite := by
  have hn : 0 < n := by omega
  have hlog : 53 ≤ n.log2 := (Nat.le_log2 hn.ne').2 h
  have hself := Nat.log2_self_le hn.ne'
  have hnext := Nat.lt_log2_self (n := n)
  have hlow : 2 ^ 52 * 2 ^ (n.log2 + 1) ≤ n * 2 ^ 53 := by
    calc 2 ^ 52 * 2 ^ (n.log2 + 1) = 2 ^ n.log2 * 2 ^ 53 := by ring
      _ ≤ n * 2 ^ 53 := Nat.mul_le_mul_right _ hself
  have hhigh : n * 2 ^ 53 < 2 ^ 53 * 2 ^ (n.log2 + 1) := by
    rw [Nat.mul_comm]
    exact Nat.mul_lt_mul_of_pos_left hnext (by decide)
  obtain ⟨m, e, hm, hcanonical, hrank, hround⟩ := roundWithAccuracy_eq (e := -53) .positive
    hlow hhigh (by omega)
  have hfloat : Float.ofNat n = .ofModel (.pack (.finite .positive m e hm)) := by
    show Float.ofScientific n false 0 = _
    rw [Float.ofScientific, dif_neg (by omega)]
    show Float.ofModel (.pack (UnpackedFloat.ofScientific Format.binary64 n 0)) = _
    rw [unpacked_ofScientific hn, hround]
  have hfloor : 2 ^ 52 ≤ n * 2 ^ 53 / 2 ^ (n.log2 + 1) :=
    (Nat.le_div_iff_mul_le (Nat.two_pow_pos _)).2 hlow
  have hmantissa : n * 2 ^ 53 / 2 ^ (n.log2 + 1) ≤
      ((⟨n * 2 ^ 53, false, false⟩ : ExtendedMantissa) >>> (n.log2 + 1)).roundedMantissa := by
    rw [← mantissa_shift ⟨n * 2 ^ 53, false, false⟩]
    exact le_roundedMantissa _
  have hinfinite : infinite = 2047 * 2 ^ 52 := rfl
  rw [hfloat, rank_pack_finite _ hm hcanonical, hrank]
  show ((1076 * 2 ^ 52 : Nat) : Int) ≤ ((min infinite _ : Nat) : Int) ∧
    ((min infinite _ : Nat) : Int) ≤ infinite
  exact ⟨Int.ofNat_le.2 (by omega), Int.ofNat_le.2 (Nat.min_le_left _ _)⟩

theorem rank_ofNat_zero : rank (Float.ofNat 0) = 0 := by
  decide

/-- The floats of natural numbers are neither negative nor NaN. -/
theorem rank_ofNat_bounds (n : Nat) :
    0 ≤ rank (Float.ofNat n) ∧ rank (Float.ofNat n) ≤ infinite := by
  have hinfinite : infinite = 2047 * 2 ^ 52 := rfl
  rcases Nat.eq_zero_or_pos n with rfl | hn
  · rw [rank_ofNat_zero]
    omega
  rcases Nat.lt_or_ge n (2 ^ 53) with hsmall | hlarge
  · obtain ⟨k, hk⟩ := exists_log2_add_eq hn hsmall
    have hbounds := mul_pow_bounds hn hk
    rw [rank_ofNat hn hk]
    omega
  · have hrank := le_rank_ofNat hlarge
    omega

/-- A smaller number has a float of smaller rank if it lies below `2 ^ 53`. -/
theorem rank_ofNat_lt {m : Nat} (hmn : m < n) (hm : m < 2 ^ 53) :
    rank (Float.ofNat m) < rank (Float.ofNat n) := by
  have hn : 0 < n := by omega
  rcases Nat.lt_or_ge n (2 ^ 53) with hsmall | hlarge
  case inl =>
    obtain ⟨k, hk⟩ := exists_log2_add_eq hn hsmall
    have hbounds := mul_pow_bounds hn hk
    rw [rank_ofNat hn hk]
    rcases Nat.eq_zero_or_pos m with rfl | hpos
    · rw [rank_ofNat_zero]
      omega
    obtain ⟨j, hj⟩ := exists_log2_add_eq hpos hm
    have hbounds' := mul_pow_bounds hpos hj
    rw [rank_ofNat hpos hj, Int.ofNat_lt]
    have hlog : m.log2 ≤ n.log2 := (Nat.le_log2 hn.ne').2 ((Nat.log2_self_le hpos.ne').trans hmn.le)
    rcases Nat.eq_or_lt_of_le hlog with hsame | hless
    · obtain rfl : j = k := by omega
      have hmul := Nat.mul_lt_mul_of_pos_right hmn (Nat.two_pow_pos j)
      omega
    · omega
  case inr =>
    have hlower := (le_rank_ofNat hlarge).1
    rcases Nat.eq_zero_or_pos m with rfl | hpos
    · rw [rank_ofNat_zero]
      omega
    obtain ⟨j, hj⟩ := exists_log2_add_eq hpos hm
    have hbounds := mul_pow_bounds hpos hj
    rw [rank_ofNat hpos hj]
    omega

/-- The float of a positive number has a positive rank. -/
theorem rank_ofNat_pos (hn : 0 < n) : 0 < rank (Float.ofNat n) :=
  rank_ofNat_zero ▸ rank_ofNat_lt hn (by decide)

/-- A number below `2 ^ 53` shares its float with no other number. -/
theorem rank_ofNat_eq_iff {m : Nat} (h : n < 2 ^ 53) :
    rank (Float.ofNat m) = rank (Float.ofNat n) ↔ m = n := by
  refine ⟨fun hrank => ?_, fun hmn => hmn ▸ rfl⟩
  rcases Nat.lt_trichotomy m n with hlt | heq | hgt
  · exact absurd hrank (rank_ofNat_lt hlt (hlt.trans h)).ne
  · exact heq
  · exact absurd hrank (rank_ofNat_lt hgt h).ne'

end

/-! ## Integers -/

section

variable {m n : Int}

theorem rank_ofInt_of_nonneg (h : 0 ≤ n) : rank (Float.ofInt n) = rank (Float.ofNat n.natAbs) := by
  cases n with
  | ofNat n => rfl
  | negSucc n => cases h

/-- The float of a negative integer has the opposite rank of the float of its magnitude. -/
theorem rank_ofInt_of_neg (h : n < 0) : rank (Float.ofInt n) = -rank (Float.ofNat n.natAbs) := by
  cases n with
  | ofNat n => exact absurd h (Int.not_lt.2 (Int.natCast_nonneg n))
  | negSucc n =>
    have hnumber : ¬ isNaN (Float.ofNat (n + 1)) := by
      have hbounds := rank_ofNat_bounds (n + 1)
      rw [isNaN_iff]
      omega
    exact rank_neg hnumber

/-- An integer below `2 ^ 53` in magnitude shares its float with no other integer. -/
theorem rank_ofInt_eq_iff (h : n.natAbs < 2 ^ 53) :
    rank (Float.ofInt m) = rank (Float.ofInt n) ↔ m = n := by
  refine ⟨fun hrank => ?_, fun hmn => hmn ▸ rfl⟩
  have hm := (rank_ofNat_bounds m.natAbs).1
  have hn := (rank_ofNat_bounds n.natAbs).1
  have hmagnitude := rank_ofNat_eq_iff h (m := m.natAbs)
  have hpos {a : Int} (ha : a < 0) : 0 < rank (Float.ofNat a.natAbs) :=
    rank_ofNat_pos (Int.natAbs_pos.2 ha.ne)
  rcases Int.lt_or_le m 0 with hmneg | hmnonneg <;> rcases Int.lt_or_le n 0 with hnneg | hnnonneg
  · rw [rank_ofInt_of_neg hmneg, rank_ofInt_of_neg hnneg, neg_inj, hmagnitude] at hrank
    omega
  · rw [rank_ofInt_of_neg hmneg, rank_ofInt_of_nonneg hnnonneg] at hrank
    have hmpos := hpos hmneg
    omega
  · rw [rank_ofInt_of_nonneg hmnonneg, rank_ofInt_of_neg hnneg] at hrank
    have hnpos := hpos hnneg
    omega
  · rw [rank_ofInt_of_nonneg hmnonneg, rank_ofInt_of_nonneg hnnonneg, hmagnitude] at hrank
    omega

end

end DiagnosticReport.Binary64
