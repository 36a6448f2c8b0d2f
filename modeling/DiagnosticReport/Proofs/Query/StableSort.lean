import DiagnosticReport.Query.Sort
import Mathlib.Data.List.Induction

/-!
# The sort is stable

A stable sort of a list holds its items, each with the place where it stood, so that no item comes
before one that strictly precedes it and tied items keep the order of their places
(`IsStableSort`). Places are distinct, so there is at most one such list
(`IsStableSort.unique`), and insertion finds it (`isStableSort_stableSort`). The order has to be
transitive on the items of the list only.
-/

namespace DiagnosticReport

open Std
open scoped List

variable {α β : Type}

/-- The first item may come before the second one: it is not strictly preceded by it, and on a tie
it is the earlier one. -/
def MayPrecede (order : α → α → Ordering) (earlier : α → α → Prop) (a b : α) : Prop :=
  order b a ≠ .lt ∧ (order a b = .eq → earlier a b)

/-- `sorted` is the stable sort of `items`. -/
def IsStableSort (order : α → α → Ordering) (items sorted : List α) : Prop :=
  ∃ placed : List (α × Nat), placed.Perm items.zipIdx ∧ placed.map Prod.fst = sorted ∧
    placed.Pairwise (MayPrecede (fun a b => order a.1 b.1) fun a b => a.2 < b.2)

/-- Among the items, one that is not strictly before a second one is not strictly before any that
the second one is not strictly before. -/
def TransitiveOn (order : α → α → Ordering) (items : List α) : Prop :=
  ∀ a ∈ items, ∀ b ∈ items, ∀ c ∈ items, order a b ≠ .lt → order b c ≠ .lt → order a c ≠ .lt

theorem TransitiveOn.subset {order : α → α → Ordering} {items others : List α}
    (h : TransitiveOn order items) (hsub : others ⊆ items) : TransitiveOn order others :=
  fun a ha b hb c hc => h a (hsub ha) b (hsub hb) c (hsub hc)

/-- An order that agrees with a transitive one on the items is transitive on them. -/
theorem TransitiveOn.of_agree {order cmp : α → α → Ordering} [TransCmp cmp] {items : List α}
    (h : ∀ a ∈ items, ∀ b ∈ items, order a b = cmp a b) : TransitiveOn order items := by
  intro a ha b hb c hc hab hbc
  rw [h a ha b hb] at hab
  rw [h b hb c hc] at hbc
  rw [h a ha c hc]
  have hab' : (cmp a b).isGE := by cases e : cmp a b <;> simp_all
  have hbc' : (cmp b c).isGE := by cases e : cmp b c <;> simp_all
  have hac := TransCmp.isGE_trans hab' hbc'
  intro hlt
  rw [hlt] at hac
  cases hac

/-! ## Insertion keeps the items -/

theorem perm_insertReversed (order : α → α → Ordering) (item : α) (done : List α) :
    (insertReversed order item done).Perm (item :: done) := by
  induction done with
  | nil => exact .refl _
  | cons last rest ih =>
    rw [insertReversed]
    split
    · exact (ih.cons last).trans (.swap item last rest)
    · exact .refl _

/-- Sorting one more item inserts it into the sorted list, seen from its end. -/
theorem reverse_stableSort_concat (order : α → α → Ordering) (items : List α) (item : α) :
    (stableSort order (items ++ [item])).reverse =
      insertReversed order item (stableSort order items).reverse := by
  simp [stableSort]

theorem perm_stableSort (order : α → α → Ordering) (items : List α) :
    (stableSort order items).Perm items := by
  induction items using List.reverseRecOn with
  | nil => exact .refl _
  | append_singleton items item ih =>
    have h := perm_insertReversed order item (stableSort order items).reverse
    rw [← reverse_stableSort_concat] at h
    calc stableSort order (items ++ [item])
      _ ~ (stableSort order (items ++ [item])).reverse := (List.reverse_perm _).symm
      _ ~ item :: (stableSort order items).reverse := h
      _ ~ item :: items := ((List.reverse_perm _).trans ih).cons item
      _ ~ items ++ [item] := (List.perm_append_singleton item items).symm

/-! ## Insertion sees the order only -/

theorem map_insertReversed (order : α → α → Ordering) (f : β → α) (item : β) (done : List β) :
    (insertReversed (fun a b => order (f a) (f b)) item done).map f =
      insertReversed order (f item) (done.map f) := by
  induction done with
  | nil => rfl
  | cons last rest ih =>
    rw [insertReversed, List.map_cons, insertReversed]
    split
    · rw [List.map_cons, ih]
    · rfl

theorem map_stableSort (order : α → α → Ordering) (f : β → α) (items : List β) :
    (stableSort (fun a b => order (f a) (f b)) items).map f = stableSort order (items.map f) := by
  induction items using List.reverseRecOn with
  | nil => rfl
  | append_singleton items item ih =>
    apply List.reverse_inj.1
    rw [List.map_append, List.map_singleton, reverse_stableSort_concat, ← ih, ← List.map_reverse,
      reverse_stableSort_concat, map_insertReversed, List.map_reverse]

/-! ## Insertion keeps the order -/

section

variable {order : α → α → Ordering} [OrientedCmp order] {earlier : α → α → Prop}

/-- Inserting the latest item keeps a list in order, seen from its end. -/
theorem pairwise_insertReversed {item : α} {done : List α}
    (htrans : TransitiveOn order (item :: done)) (hlate : ∀ a ∈ done, earlier a item)
    (hdone : done.Pairwise fun a b => MayPrecede order earlier b a) :
    (insertReversed order item done).Pairwise fun a b => MayPrecede order earlier b a := by
  induction done with
  | nil => exact List.pairwise_singleton _ _
  | cons last rest ih =>
    obtain ⟨hlast, hrest⟩ := List.pairwise_cons.1 hdone
    rw [insertReversed]
    split
    · next hlt =>
      refine List.pairwise_cons.2 ⟨fun a ha => ?_, ih ?_ ?_ hrest⟩
      · rcases List.mem_cons.1 ((perm_insertReversed order item rest).mem_iff.1 ha) with rfl | ha
        · refine ⟨fun h => ?_, fun h => ?_⟩
          · exact OrientedCmp.not_lt_of_lt hlt h
          · rw [hlt] at h; cases h
        · exact hlast a ha
      · exact htrans.subset (List.cons_subset_cons _ (List.subset_cons_self ..))
      · exact fun a ha => hlate a (List.mem_cons_of_mem _ ha)
    · next hge =>
      refine List.pairwise_cons.2 ⟨fun a ha => ⟨?_, fun _ => hlate a ha⟩, hdone⟩
      -- everything before `last` is no later than it, so `item` stays behind all of it
      rcases List.mem_cons.1 ha with rfl | ha'
      · exact hge
      · exact htrans item (by simp) last (by simp) a (by simp [ha']) hge (hlast a ha').1

theorem pairwise_stableSort {items : List α} (htrans : TransitiveOn order items)
    (hitems : items.Pairwise earlier) :
    (stableSort order items).Pairwise (MayPrecede order earlier) := by
  rw [← List.pairwise_reverse]
  induction items using List.reverseRecOn with
  | nil => exact .nil
  | append_singleton items item ih =>
    obtain ⟨hinit, -, hlate⟩ := List.pairwise_append.1 hitems
    have hmem : ∀ a, a ∈ (stableSort order items).reverse → a ∈ items := fun a ha =>
      (perm_stableSort order items).mem_iff.1 (List.mem_reverse.1 ha)
    rw [reverse_stableSort_concat]
    refine pairwise_insertReversed (htrans.subset fun a ha => ?_)
      (fun a ha => hlate a (hmem a ha) item (by simp))
      (ih (htrans.subset (List.subset_append_left ..)) hinit)
    rcases List.mem_cons.1 ha with rfl | ha
    · simp
    · exact List.mem_append_left _ (hmem a ha)

end

/-! ## The stable sort -/

theorem pairwise_zipIdx (items : List α) : items.zipIdx.Pairwise fun a b => a.2 < b.2 := by
  have h := List.pairwise_lt_range (n := items.length)
  rw [← List.pairwise_map, List.zipIdx_map_snd]
  simpa [List.range_eq_range'] using h

section

variable {order : α → α → Ordering} [OrientedCmp order] {items sorted : List α}

/-- **A sort by insertion is the stable sort**, if the order is transitive on the items. -/
theorem isStableSort_stableSort (htrans : TransitiveOn order items) :
    IsStableSort order items (stableSort order items) := by
  let onItems : α × Nat → α × Nat → Ordering := fun a b => order a.1 b.1
  have : OrientedCmp onItems := ⟨(inferInstance : OrientedCmp order).eq_swap⟩
  refine ⟨stableSort onItems items.zipIdx, perm_stableSort _ _, ?_, ?_⟩
  · rw [map_stableSort, List.zipIdx_map_fst]
  · refine pairwise_stableSort (fun a ha b hb c hc => ?_) (pairwise_zipIdx items)
    exact htrans a.1 (List.fst_mem_of_mem_zipIdx ha) b.1 (List.fst_mem_of_mem_zipIdx hb) c.1
      (List.fst_mem_of_mem_zipIdx hc)

namespace IsStableSort

/-- There is one stable sort of a list. -/
theorem unique {other : List α} (h : IsStableSort order items sorted)
    (h' : IsStableSort order items other) : other = sorted := by
  obtain ⟨placed, hperm, rfl, hpair⟩ := h
  obtain ⟨placed', hperm', rfl, hpair'⟩ := h'
  have e : placed' = placed := by
    refine List.Perm.eq_of_pairwise (fun a b _ _ hab hba => ?_) hpair' hpair
      (hperm'.trans hperm.symm)
    -- neither strictly precedes the other, so they are tied and both would be the earlier one
    have htie : order a.1 b.1 = .eq := by
      cases e : order a.1 b.1 with
      | lt => exact absurd e hba.1
      | eq => rfl
      | gt => exact absurd (OrientedCmp.lt_of_gt e) hab.1
    have hlt := hab.2 htie
    have hgt := hba.2 (OrientedCmp.eq_symm htie)
    omega
  rw [e]

end IsStableSort

end

end DiagnosticReport
