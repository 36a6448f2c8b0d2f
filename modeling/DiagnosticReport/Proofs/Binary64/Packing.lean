import DiagnosticReport.Proofs.Binary64.Order
import Mathlib.Tactic.Ring

/-!
# Ranks of packed floats

A finite float is `± m * 2 ^ e` with `m < 2 ^ 53`, where `m` uses all 53 bits or `e` is the smallest
exponent. Its rank is then `± ((e + 1074) * 2 ^ 52 + m)`, for normal and subnormal floats alike;
from the rank of the infinities on it is capped (`rank_pack_finite`). Negation turns the rank around
(`rank_neg`).
-/

namespace DiagnosticReport.Binary64

open Float.Model Float.Model.UnpackedFloat

/-! ## Components -/

/-- The rank of a float by its sign bit and what stands below it. -/
theorem rank_of_bits {x : Float} {s : Sign} {low : Nat}
    (h : x.toBits.toNat = s.toBitVec.toNat * 2 ^ 63 + low) (hlow : low < 2 ^ 63) :
    rank x = s.apply low := by
  have hpow : Nat.pow 2 63 = 2 ^ 63 := rfl
  unfold rank isNegative magnitude
  rw [h, hpow]
  cases s with
  | negative =>
    have hsign : Sign.negative.toBitVec.toNat = 1 := rfl
    rw [hsign, one_mul, decide_eq_true (Nat.le_add_right _ _), if_pos rfl, Nat.add_mod_left,
      Nat.mod_eq_of_lt hlow]
    rfl
  | positive =>
    have hsign : Sign.positive.toBitVec.toNat = 0 := rfl
    rw [hsign, zero_mul, zero_add, decide_eq_false (Nat.not_le.2 hlow), if_neg Bool.false_ne_true,
      Nat.mod_eq_of_lt hlow]
    rfl

section

variable (s : Sign) (e : BitVec 11) (m : BitVec 52)

theorem toNat_packComponents :
    (packComponents Format.binary64 s e m).toNat =
      s.toBitVec.toNat * 2 ^ 63 + (e.toNat * 2 ^ 52 + m.toNat) := by
  unfold packComponents
  rw [BitVec.toNat_append, ← Nat.shiftLeft_add_eq_or_of_lt m.isLt, BitVec.toNat_append,
    ← Nat.shiftLeft_add_eq_or_of_lt e.isLt, Nat.shiftLeft_eq, Nat.shiftLeft_eq]
  ring

end

/-- The rank of a float by its components. -/
theorem rank_of_components {x : Float} {s : Sign} {e : BitVec 11} {m : BitVec 52}
    (h : x.toModel.toBits.toBitVec = packComponents Format.binary64 s e m) :
    rank x = s.apply (e.toNat * 2 ^ 52 + m.toNat : Nat) := by
  refine rank_of_bits ?_ ?_
  · rw [← toNat_packComponents, ← h]
    rfl
  · have he := e.isLt
    have hm := m.isLt
    omega

theorem toBitVec_ofBitVec (b : BitVec 1) : (Sign.ofBitVec b).toBitVec = b := by
  revert b
  decide

/-- A packed float is put together from its components. -/
theorem packComponents_unpack (b : BitVec Format.binary64.numBits) :
    packComponents Format.binary64 (.ofBitVec (unpackSign b)) (unpackExponent b)
      (unpackMantissa b) = b := by
  unfold packComponents
  rw [toBitVec_ofBitVec]
  show b.extractLsb' (52 + 11) 1 ++ b.extractLsb' 52 11 ++ b.extractLsb' 0 52 = b
  rw [BitVec.extractLsb'_append_extractLsb'_eq_extractLsb' (by rfl),
    BitVec.extractLsb'_append_extractLsb'_eq_extractLsb' (by rfl)]
  exact BitVec.extractLsb'_eq_self

/-! ## Packed values -/

/-- Mantissa and exponent of a finite float: the mantissa uses all of its 53 bits, or the exponent
is the smallest one. -/
structure Canonical (m : Nat) (e : Int) : Prop where
  mantissa : m < 2 ^ 53
  exponent : -1074 ≤ e
  full : 2 ^ 52 ≤ m ∨ e = -1074

theorem log2_add_one_eq_iff {m : Nat} (hm : 0 < m) (hmax : m < 2 ^ 53) :
    m.log2 + 1 = 53 ↔ 2 ^ 52 ≤ m := by
  have hlow := Nat.le_log2 (k := 52) hm.ne'
  have hhigh := Nat.log2_lt (k := 53) hm.ne'
  omega

theorem rank_pack_zero (s : Sign) : rank (.ofModel (.pack (.zero s))) = 0 := by
  cases s <;> decide

theorem rank_pack_infinity (s : Sign) :
    rank (.ofModel (.pack (.infinity s))) = s.apply infinite := by
  cases s <;> decide

theorem pack_finite (s : Sign) {m : Nat} {e : Int} (hm : 0 < m) :
    UnpackedFloat.pack Format.binary64 (.finite s m e hm) =
      if 2 ^ 11 ≤ (e + 1075).toNat + 1 then packedInfinity Format.binary64 s
      else if m.log2 + 1 = 53 then
        packComponents Format.binary64 s (.ofNat 11 (e + 1075).toNat) (.ofNat 52 m)
      else packComponents Format.binary64 s 0 (.ofNat 52 m) := by
  have hbiased : (e + Format.binary64.exponentBias +
      Format.binary64.mantissaBitsWithoutImplicit).toNat = (e + 1075).toNat :=
    congrArg Int.toNat (Int.add_assoc e 1023 52)
  unfold UnpackedFloat.pack
  rw [hbiased]
  rfl

/-- The rank of a finite float. -/
theorem rank_pack_finite (s : Sign) {m : Nat} {e : Int} (hm : 0 < m) (h : Canonical m e) :
    rank (.ofModel (.pack (.finite s m e hm))) =
      s.apply (min infinite ((e + 1074).toNat * 2 ^ 52 + m) : Nat) := by
  obtain ⟨hmax, hmin, hfull⟩ := h
  have hinfinite : infinite = 2047 * 2 ^ 52 := rfl
  have hbits : (Float.ofModel (.pack (.finite s m e hm))).toModel.toBits.toBitVec =
      UnpackedFloat.pack Format.binary64 (.finite s m e hm) := rfl
  rw [pack_finite] at hbits
  by_cases hover : 2 ^ 11 ≤ (e + 1075).toNat + 1
  case pos =>
    rw [if_pos hover] at hbits
    rw [rank_of_components hbits]
    congr 2
    show 2047 * 2 ^ 52 + 0 = _
    omega
  case neg =>
    rw [if_neg hover] at hbits
    have hlog := log2_add_one_eq_iff hm hmax
    by_cases hnormal : m.log2 + 1 = 53
    case pos =>
      rw [if_pos hnormal] at hbits
      rw [hlog] at hnormal
      rw [rank_of_components hbits, BitVec.toNat_ofNat, BitVec.toNat_ofNat,
        Nat.mod_eq_of_lt (by omega)]
      congr 2
      omega
    case neg =>
      rw [if_neg hnormal] at hbits
      rw [hlog] at hnormal
      rw [rank_of_components hbits, BitVec.toNat_ofNat]
      congr 2
      show 0 * 2 ^ 52 + _ = _
      omega

/-! ## Unpacked values -/

/-- What the bits of a float below its sign stand for. -/
inductive Denotes (s : Sign) : Nat → UnpackedFloat → Prop
  | infinity : Denotes s infinite (.infinity s)
  | notANumber {low : Nat} (h : infinite < low) : Denotes s low .notANumber
  | zero : Denotes s 0 (.zero s)
  | finite {m : Nat} {e : Int} (hm : 0 < m) (h : Canonical m e)
      (hfits : (e + 1074).toNat * 2 ^ 52 + m < infinite) :
      Denotes s ((e + 1074).toNat * 2 ^ 52 + m) (.finite s m e hm)

theorem toNat_append_implicit (m : BitVec 52) : (1#1 ++ m).toNat = 2 ^ 52 + m.toNat := by
  rw [BitVec.toNat_append, ← Nat.shiftLeft_add_eq_or_of_lt m.isLt]
  rfl

theorem Denotes.of_eq {s : Sign} {low m : Nat} {e : Int} (hm : 0 < m) (h : Canonical m e)
    (hlow : low = (e + 1074).toNat * 2 ^ 52 + m) (hfits : low < infinite) :
    Denotes s low (.finite s m e hm) := by
  subst hlow
  exact .finite hm h hfits

theorem denotes_unpack (b : BitVec Format.binary64.numBits) :
    Denotes (.ofBitVec (unpackSign b))
      ((unpackExponent b).toNat * 2 ^ 52 + (unpackMantissa b).toNat)
      (UnpackedFloat.unpack Format.binary64 b) := by
  have hinfinite : infinite = 2047 * 2 ^ 52 := rfl
  have hbias : (Format.binary64.exponentBias : Int) = 1023 := rfl
  have hexponent : (unpackExponent b).toNat < 2 ^ 11 := (unpackExponent b).isLt
  have hmantissa : (unpackMantissa b).toNat < 2 ^ 52 := (unpackMantissa b).isLt
  unfold UnpackedFloat.unpack
  dsimp only
  by_cases hones : unpackExponent b = -1#11
  case pos =>
    have htop : (unpackExponent b).toNat = 2047 := congrArg BitVec.toNat hones
    rw [if_pos hones]
    by_cases hzero : unpackMantissa b = 0#52
    case pos =>
      have hlow : (unpackMantissa b).toNat = 0 := congrArg BitVec.toNat hzero
      rw [if_pos hzero, htop, hlow]
      exact .infinity
    case neg =>
      have hpos := (BitVec.toNat_pos _).2 ((BitVec.pos_iff_ne_zero _).2 hzero)
      rw [if_neg hzero]
      exact .notANumber (by omega)
  case neg =>
    have htop : (unpackExponent b).toNat ≠ 2047 := fun h => hones (BitVec.eq_of_toNat_eq h)
    rw [if_neg hones]
    by_cases hzeros : unpackExponent b = 0#11
    case pos =>
      have hlowest : (unpackExponent b).toNat = 0 := congrArg BitVec.toNat hzeros
      rw [if_pos hzeros]
      by_cases hzero : unpackMantissa b = 0#52
      case pos =>
        have hlow : (unpackMantissa b).toNat = 0 := congrArg BitVec.toNat hzero
        rw [dif_pos hzero, hlowest, hlow]
        exact .zero
      case neg =>
        rw [dif_neg hzero]
        exact .of_eq _ ⟨by omega, by omega, .inr (by omega)⟩ (by omega) (by omega)
    case neg =>
      have hpos : (unpackExponent b).toNat ≠ 0 := fun h => hzeros (BitVec.eq_of_toNat_eq h)
      have himplicit := toNat_append_implicit (unpackMantissa b)
      rw [if_neg hzeros]
      exact .of_eq _ ⟨by omega, by omega, .inl (by omega)⟩ (by omega) (by omega)

theorem natAbs_apply (s : Sign) (n : Nat) : (s.apply n).natAbs = n := by
  cases s
  · exact Int.natAbs_neg n
  · rfl

/-- The rank of a float is its sign and what its unpacked form stands for. -/
theorem exists_denotes (x : Float) :
    ∃ s low, rank x = s.apply (low : Nat) ∧ Denotes s low x.toModel.unpack :=
  ⟨_, _, rank_of_components (packComponents_unpack _).symm, denotes_unpack _⟩

theorem Canonical.eq_of_rank_eq {m n : Nat} {d e : Int} (hm : Canonical m d) (hn : Canonical n e)
    (h : (d + 1074).toNat * 2 ^ 52 + m = (e + 1074).toNat * 2 ^ 52 + n) : m = n ∧ d = e := by
  obtain ⟨hmmax, hmmin, hmfull⟩ := hm
  obtain ⟨hnmax, hnmin, hnfull⟩ := hn
  omega

theorem apply_eq_apply {s t : Sign} {m n : Nat} (hm : 0 < m) (h : s.apply m = t.apply n) :
    s = t ∧ m = n := by
  cases s <;> cases t <;> simp only [Sign.apply] at h <;> first | exact ⟨rfl, by omega⟩ | omega

/-- A float that is packed from a canonical form in range is unpacked to that form. -/
theorem unpack_pack_finite (s : Sign) {m : Nat} {e : Int} (hm : 0 < m) (h : Canonical m e)
    (hfits : (e + 1074).toNat * 2 ^ 52 + m < infinite) :
    (Float.Model.pack (.finite s m e hm)).unpack = .finite s m e hm := by
  obtain ⟨t, low, hrank, hdenotes⟩ := exists_denotes (.ofModel (.pack (.finite s m e hm)))
  rw [rank_pack_finite s hm h, min_eq_right hfits.le] at hrank
  obtain ⟨rfl, rfl⟩ := apply_eq_apply (by omega) hrank
  generalize hlow : (e + 1074).toNat * 2 ^ 52 + m = low at hdenotes hfits
  generalize hunpacked : (Float.Model.pack (.finite s m e hm)).unpack = u at hdenotes
  cases hdenotes with
  | infinity => exact absurd hfits (lt_irrefl _)
  | notANumber hnan => exact absurd hfits hnan.asymm
  | zero => omega
  | finite hn hcanonical _ =>
    obtain ⟨rfl, rfl⟩ := h.eq_of_rank_eq hcanonical hlow
    rfl

theorem apply_neg (s : Sign) (n : Int) : (-s).apply n = -s.apply n := by
  cases s
  · exact (Int.neg_neg n).symm
  · rfl

/-- Negation turns the order around. -/
theorem rank_neg {x : Float} (h : ¬ isNaN x) : rank (-x) = -rank x := by
  obtain ⟨s, low, hrank, hdenotes⟩ := exists_denotes x
  rw [isNaN_iff, hrank, natAbs_apply] at h
  rw [hrank, ← apply_neg]
  show rank (.ofModel (.pack x.toModel.unpack.neg)) = _
  generalize x.toModel.unpack = u at hdenotes
  cases hdenotes with
  | infinity => exact rank_pack_infinity _
  | notANumber hnan => exact absurd hnan h
  | zero =>
    show rank (.ofModel (.pack (.zero (-s)))) = _
    rw [rank_pack_zero]
    cases s <;> rfl
  | @finite m e hm hcanonical hfits =>
    show rank (.ofModel (.pack (.finite (-s) m e hm))) = _
    rw [rank_pack_finite _ hm hcanonical, min_eq_right hfits.le]

end DiagnosticReport.Binary64
