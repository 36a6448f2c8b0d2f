import DiagnosticReport.Binary64

/-!
# The order of floats

NaN and finiteness are bounds on the rank of a float, and the comparisons are comparisons of ranks.
So every law of the order is one of linear arithmetic on ranks.
-/

namespace DiagnosticReport.Binary64

theorem natAbs_rank (x : Float) : (rank x).natAbs = magnitude x := by
  unfold rank
  split
  · rw [Int.natAbs_neg, Int.natAbs_natCast]
  · rw [Int.natAbs_natCast]

/-- The ranks above that of infinity stand for no number. -/
theorem isNaN_iff {x : Float} : isNaN x ↔ infinite < (rank x).natAbs := by
  rw [natAbs_rank, isNaN, decide_eq_true_eq]

/-- The ranks below that of infinity stand for finite numbers. -/
theorem isFinite_iff {x : Float} : isFinite x ↔ (rank x).natAbs < infinite := by
  rw [natAbs_rank, isFinite, decide_eq_true_eq]

/-- Floats that are numbers are ordered by their ranks. -/
theorem less_iff {x y : Float} :
    less x y ↔
      (rank x).natAbs ≤ infinite ∧ (rank y).natAbs ≤ infinite ∧ rank x < rank y := by
  simp only [less, Bool.and_eq_true, Bool.not_eq_true', ← Bool.not_eq_true, isNaN_iff,
    decide_eq_true_eq, Nat.not_lt, and_assoc]

theorem lessEq_iff {x y : Float} :
    lessEq x y ↔
      (rank x).natAbs ≤ infinite ∧ (rank y).natAbs ≤ infinite ∧ rank x ≤ rank y := by
  simp only [lessEq, Bool.and_eq_true, Bool.not_eq_true', ← Bool.not_eq_true, isNaN_iff,
    decide_eq_true_eq, Nat.not_lt, and_assoc]

theorem rank_zero : rank 0.0 = 0 := by
  decide

theorem isFinite_zero : isFinite 0.0 := by
  decide

section

variable {x y z : Float}

/-- The order of floats is transitive. -/
theorem less_trans (hxy : less x y) (hyz : less y z) : less x z := by
  rw [less_iff] at *
  omega

theorem less_of_less_of_lessEq (hxy : less x y) (hyz : lessEq y z) : less x z := by
  rw [less_iff] at *
  rw [lessEq_iff] at hyz
  omega

theorem lessEq_trans (hxy : lessEq x y) (hyz : lessEq y z) : lessEq x z := by
  rw [lessEq_iff] at *
  omega

theorem lessEq_of_less (h : less x y) : lessEq x y := by
  rw [less_iff] at h
  rw [lessEq_iff]
  omega

theorem lessEq_of_less_of_lessEq (hxy : less x y) (hyz : lessEq y z) : lessEq x z :=
  lessEq_of_less (less_of_less_of_lessEq hxy hyz)

theorem lessEq_of_lessEq_of_less (hxy : lessEq x y) (hyz : less y z) : lessEq x z := by
  rw [less_iff] at hyz
  rw [lessEq_iff] at *
  omega

/-- Numbers are in order one way or the other. -/
theorem not_lessEq_iff (hx : ¬ isNaN x) (hy : ¬ isNaN y) : ¬ lessEq y x ↔ less x y := by
  rw [isNaN_iff] at hx hy
  rw [less_iff, lessEq_iff]
  omega

theorem not_isNaN_of_less (h : less x y) : ¬ isNaN y := by
  rw [less_iff] at h
  rw [isNaN_iff]
  omega

theorem not_isNaN_of_lessEq (h : lessEq x y) : ¬ isNaN y := by
  rw [lessEq_iff] at h
  rw [isNaN_iff]
  omega

/-- What lies between finite bounds is finite. -/
theorem isFinite_of_between (hx : isFinite x) (hz : isFinite z) (hxy : lessEq x y)
    (hyz : lessEq y z) : isFinite y := by
  rw [lessEq_iff] at hxy hyz
  rw [isFinite_iff] at *
  omega

end

end DiagnosticReport.Binary64
