import Mathlib.Algebra.BigOperators.Ring.List
import Mathlib.Algebra.Order.BigOperators.Group.List
import Mathlib.Tactic.Linarith

/-!
# Pieces one after the other

The segments of a ring and the columns of a stack are pieces of which each starts where the one
before ends (`Contiguous`), and of which each takes its share of a whole (`sum_share`).
-/

namespace DiagnosticReport

/-- Pieces one after the other, the first of which starts at a place. -/
inductive Contiguous {σ : Type} (start finish : σ → ℚ) : ℚ → List σ → Prop
  | nil {place : ℚ} : Contiguous start finish place []
  | cons {place : ℚ} {s : σ} {rest : List σ} (head : start s = place)
      (tail : Contiguous start finish (finish s) rest) :
      Contiguous start finish place (s :: rest)

namespace Contiguous

/-- Pieces that are laid out by their position alone. -/
theorem mapIdx {α σ : Type} {start finish : σ → ℚ} (f : Nat → α → σ) (place : Nat → ℚ)
    (hstart : ∀ i a, start (f i a) = place i) (hfinish : ∀ i a, finish (f i a) = place (i + 1))
    (xs : List α) : Contiguous start finish (place 0) (xs.mapIdx f) := by
  induction xs generalizing f place with
  | nil => exact .nil
  | cons x xs ih =>
    rw [List.mapIdx_cons]
    refine .cons (hstart 0 x) ?_
    rw [hfinish]
    exact ih _ (fun i => place (i + 1)) (fun i a => hstart (i + 1) a) (fun i a => hfinish (i + 1) a)

variable {σ : Type} {start finish : σ → ℚ} {place : ℚ} {pieces : List σ}
  (h : Contiguous start finish place pieces)

include h

theorem head?_eq (hne : pieces ≠ []) : pieces.head?.map start = some place := by
  cases h with
  | nil => exact absurd rfl hne
  | cons head _ => exact congrArg some head

theorem isChain : pieces.IsChain fun s t => start t = finish s := by
  induction h with
  | nil => exact .nil
  | cons _ tail ih =>
    cases tail with
    | nil => exact .singleton _
    | cons head _ => exact .cons_cons head ih

/-- The pieces have covered the sum of their lengths. -/
theorem getLast?_eq (hne : pieces ≠ []) :
    pieces.getLast?.map finish = some (place + (pieces.map fun s => finish s - start s).sum) := by
  induction h with
  | nil => exact absurd rfl hne
  | @cons place s rest head tail ih =>
    rw [List.map_cons, List.sum_cons, head, ← add_assoc, add_sub_cancel]
    rcases rest with _ | ⟨t, rest⟩
    · rw [List.map_nil, List.sum_nil, add_zero]
      rfl
    · rw [List.getLast?_cons_cons]
      exact ih (List.cons_ne_nil t rest)

/-- Pieces of one length have covered as many of it as there are pieces. -/
theorem getLast?_eq_of_length {length : ℚ} (hlength : ∀ s ∈ pieces, finish s - start s = length)
    (hne : pieces ≠ []) :
    pieces.getLast?.map finish = some (place + pieces.length * length) := by
  rw [h.getLast?_eq hne, List.map_congr_left hlength, List.map_const', List.sum_replicate,
    nsmul_eq_mul]

/-- Pieces that do not go back lie between the first start and the last end. -/
theorem bounds (hle : ∀ s ∈ pieces, start s ≤ finish s) :
    ∀ s ∈ pieces, place ≤ start s ∧
      finish s ≤ place + (pieces.map fun s => finish s - start s).sum := by
  induction h with
  | nil => exact fun s hs => absurd hs List.not_mem_nil
  | @cons place t rest head tail ih =>
    obtain ⟨ht, hrest⟩ := List.forall_mem_cons.1 hle
    have hsum : 0 ≤ (rest.map fun s => finish s - start s).sum := by
      refine List.sum_nonneg (List.forall_mem_map.2 fun s hs => ?_)
      exact sub_nonneg.2 (hrest s hs)
    intro s hs
    rw [List.map_cons, List.sum_cons]
    rcases List.mem_cons.1 hs with rfl | hs
    · constructor <;> linarith
    · obtain ⟨hstart, hfinish⟩ := ih hrest s hs
      constructor <;> linarith

end Contiguous

/-- What is in proportion to some parts adds up in proportion to them. -/
theorem sum_share {σ : Type} {pieces : List σ} {part share : σ → ℚ} {whole total : ℚ}
    (h : ∀ s ∈ pieces, share s = whole * (part s / total)) :
    (pieces.map share).sum = whole * ((pieces.map part).sum / total) := by
  simp only [List.map_congr_left h, div_eq_mul_inv, List.sum_map_mul_left, List.sum_map_mul_right]

end DiagnosticReport
