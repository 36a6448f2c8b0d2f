import DiagnosticReport.Json.Coercion

/-!
# The alphabetic order is an order

The order by code points is the order of the library on texts (`compareCodePoints_toList`). The
alphabetic order takes it along the lower-casing and breaks ties by its reverse, so it is oriented
and transitive whatever the lower-casing is, and ties no two texts (`compareTextBy_total`).
-/

namespace DiagnosticReport

open Std

/-! ## Code points -/

theorem compareCodePoints_eq_lt_iff {as bs : List Char} :
    compareCodePoints as bs = .lt ↔ as < bs := by
  induction as generalizing bs with
  | nil => cases bs <;> simp [compareCodePoints]
  | cons a as ih =>
    cases bs with
    | nil => simp [compareCodePoints]
    | cons b bs =>
      rw [compareCodePoints, Ordering.then_eq_lt, Nat.compare_eq_lt, Nat.compare_eq_eq, ih,
        List.cons_lt_cons_iff, Char.toNat_inj]
      rfl

theorem compareCodePoints_eq_eq_iff {as bs : List Char} :
    compareCodePoints as bs = .eq ↔ as = bs := by
  induction as generalizing bs with
  | nil => cases bs <;> simp [compareCodePoints]
  | cons a as ih =>
    cases bs with
    | nil => simp [compareCodePoints]
    | cons b bs =>
      rw [compareCodePoints, Ordering.then_eq_eq, Nat.compare_eq_eq, ih, Char.toNat_inj,
        List.cons.injEq]

/-- On texts, the order by code points is the order of the library. -/
theorem compareCodePoints_toList (s t : String) :
    compareCodePoints s.toList t.toList = compare s t := by
  show _ = compareOfLessAndEq s t
  unfold compareOfLessAndEq
  split
  case isTrue hlt => exact compareCodePoints_eq_lt_iff.2 (String.lt_iff.1 hlt)
  case isFalse hlt =>
    split
    case isTrue heq => exact compareCodePoints_eq_eq_iff.2 (congrArg String.toList heq)
    case isFalse hne =>
      cases h : compareCodePoints s.toList t.toList with
      | lt => exact absurd (String.lt_iff.2 (compareCodePoints_eq_lt_iff.1 h)) hlt
      | eq => exact absurd (String.toList_injective (compareCodePoints_eq_eq_iff.1 h)) hne
      | gt => rfl

/-! ## Texts -/

section

variable (lower : String → String)

/-- The alphabetic order goes by lower-case forms first. -/
theorem compareTextBy_eq_compareLex :
    compareTextBy lower = compareLex (compareOn lower) fun a b => compare b a := by
  funext a b
  rw [compareTextBy, compareCodePoints_toList, compareCodePoints_toList]
  rfl

instance compareTextBy_trans : TransCmp (compareTextBy lower) := by
  rw [compareTextBy_eq_compareLex]
  infer_instance

instance compareTextBy_lawfulEq : LawfulEqCmp (compareTextBy lower) where
  eq_of_compare {a b} h := by
    rw [compareTextBy_eq_compareLex, compareLex_eq_eq] at h
    exact (LawfulEqCmp.eq_of_compare h.2).symm

/-- **The alphabetic order is a total order on texts**, whatever the lower-casing is: turned around
it gives the reverse, it is transitive, and a text is tied with itself only. Texts with different
lower-case forms are in the order of these, any others in the reverse of their own. -/
theorem compareTextBy_total :
    (∀ a b, compareTextBy lower b a = (compareTextBy lower a b).swap) ∧
    (∀ a b c, (compareTextBy lower a b).isLE → (compareTextBy lower b c).isLE →
      (compareTextBy lower a c).isLE) ∧
    (∀ a b, compareTextBy lower a b = .eq ↔ a = b) ∧
    ∀ a b, compareTextBy lower a b =
      if lower a = lower b then compare b a else compare (lower a) (lower b) := by
  refine ⟨fun a b => OrientedCmp.eq_swap, fun a b c => TransCmp.isLE_trans,
    fun a b => LawfulEqCmp.compare_eq_iff_eq, fun a b => ?_⟩
  have hcmp : compareTextBy lower a b = (compare (lower a) (lower b)).then (compare b a) :=
    congrFun (congrFun (compareTextBy_eq_compareLex lower) a) b
  have htie : compare (lower a) (lower b) = .eq ↔ lower a = lower b :=
    LawfulEqCmp.compare_eq_iff_eq
  rw [hcmp]
  split
  case isTrue heq => rw [htie.2 heq, Ordering.eq_then]
  case isFalse hne =>
    cases h : compare (lower a) (lower b) with
    | lt => rfl
    | eq => exact absurd (htie.1 h) hne
    | gt => rfl

/-- A small letter stands before its capital, between words that differ in more than case. -/
theorem compareTextBy_total_of_capital :
    let cmp := compareTextBy Text.lower
    (cmp "apple" "banana").isLE ∧ (cmp "banana" "Banana").isLE ∧ (cmp "apple" "Banana").isLE := by
  intro cmp
  have hwords : (cmp "apple" "banana").isLE := by decide
  have hcapital : (cmp "banana" "Banana").isLE := by decide
  exact ⟨hwords, hcapital, (compareTextBy_total Text.lower).2.1 _ _ _ hwords hcapital⟩

end

instance compareText_trans : TransCmp compareText :=
  inferInstanceAs (TransCmp (compareTextBy Text.lower))

end DiagnosticReport
