import DiagnosticReport.Proofs.Binary64.Order
import DiagnosticReport.Scalar

/-!
# Numbers on a scale

A scale goes from 0 to some bound. A finite number is moved to the nearer end of it, and any other
counts as 0, so what is on the scale stays as it is. For scores the bound is 100; a bound below it
is reached by a score just if it is reached on the scale.
-/

namespace DiagnosticReport

open Binary64

variable {x : Float}

section

variable {bound : Float} (hbound : isFinite bound) (hnonneg : 0 ≤ rank bound)

include hbound hnonneg

theorem sanitize_eq (h : isFinite x) :
    Scalar.sanitize x bound =
      if rank x < 0 then 0.0 else if rank bound < rank x then bound else x := by
  have hlow : Scalar.less x 0.0 ↔ rank x < 0 := by
    show less x 0.0 ↔ _
    rw [isFinite_iff] at h
    rw [less_iff, rank_zero]
    omega
  have hhigh {y : Float} (hy : isFinite y) : Scalar.less bound y ↔ rank bound < rank y := by
    show less bound y ↔ _
    rw [isFinite_iff] at hy hbound
    rw [less_iff]
    omega
  have hclamp : Scalar.sanitize x bound = Scalar.clamp x 0.0 bound := if_pos h
  simp only [hclamp, Scalar.clamp, hlow]
  split
  · exact if_neg (by rw [hhigh isFinite_zero, rank_zero]; omega)
  · simp only [hhigh h]

theorem sanitize_of_between (h : isFinite x) (hlow : 0 ≤ rank x) (hhigh : rank x ≤ rank bound) :
    Scalar.sanitize x bound = x := by
  rw [sanitize_eq hbound hnonneg h, if_neg (by omega), if_neg (by omega)]

theorem sanitize_zero : Scalar.sanitize 0.0 bound = 0.0 :=
  sanitize_of_between hbound hnonneg isFinite_zero (Int.le_of_eq rank_zero.symm)
    (by rwa [rank_zero])

/-- What is not finite or below 0 counts as 0. -/
theorem sanitize_of_invalid (h : isFinite x = false ∨ less x 0.0) :
    Scalar.sanitize x bound = 0.0 := by
  cases hfinite : isFinite x with
  | false => exact if_neg (Bool.eq_false_iff.1 hfinite)
  | true =>
    have hless : less x 0.0 := h.resolve_left (by simp [hfinite])
    rw [less_iff, rank_zero] at hless
    rw [sanitize_eq hbound hnonneg hfinite, if_pos hless.2.2]

/-- What is on the scale already stays there. -/
theorem sanitize_sanitize :
    Scalar.sanitize (Scalar.sanitize x bound) bound = Scalar.sanitize x bound := by
  cases hfinite : isFinite x with
  | false =>
    rw [sanitize_of_invalid hbound hnonneg (.inl hfinite), sanitize_zero hbound hnonneg]
  | true =>
    rw [sanitize_eq hbound hnonneg hfinite]
    split
    · exact sanitize_zero hbound hnonneg
    · split
      · exact sanitize_of_between hbound hnonneg hbound hnonneg (Int.le_refl _)
      · exact sanitize_of_between hbound hnonneg hfinite (by omega) (by omega)

end

theorem clampScore_eq (h : isFinite x) :
    Scalar.clampScore x =
      if rank x < 0 then 0.0 else if rank 100.0 < rank x then 100.0 else x :=
  sanitize_eq (by decide) (by decide) h

theorem rank_clampScore (h : isFinite x) :
    isFinite (Scalar.clampScore x) ∧
      rank (Scalar.clampScore x) = max 0 (min (rank x) (rank 100.0)) := by
  have hhundred : isFinite 100.0 ∧ 0 < rank 100.0 := by decide
  rw [clampScore_eq h]
  split
  · exact ⟨isFinite_zero, by rw [rank_zero]; omega⟩
  · split
    · exact ⟨hhundred.1, by omega⟩
    · exact ⟨h, by omega⟩

theorem clampScore_of_between (hlow : lessEq 0.0 x) (hhigh : lessEq x 100.0) :
    Scalar.clampScore x = x := by
  have hfinite : isFinite x := isFinite_of_between isFinite_zero (by decide) hlow hhigh
  rw [lessEq_iff, rank_zero] at hlow
  rw [lessEq_iff] at hhigh
  exact sanitize_of_between (by decide) (by decide) hfinite hlow.2.2 hhigh.2.2

theorem lessEq_clampScore {bound : Float} (hlow : less 0.0 bound) (hhigh : lessEq bound 100.0)
    (hx : isFinite x) : lessEq bound (Scalar.clampScore x) = lessEq bound x := by
  obtain ⟨hfinite, hrank⟩ := rank_clampScore hx
  rw [Bool.eq_iff_iff, lessEq_iff, lessEq_iff]
  rw [isFinite_iff] at hx hfinite
  rw [less_iff, rank_zero] at hlow
  rw [lessEq_iff] at hhigh
  omega

end DiagnosticReport
