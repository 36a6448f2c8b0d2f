import DiagnosticReport.Proofs.Query.StableSort
import DiagnosticReport.Query.MergeSort

/-!
# Sorting by merging is the stable sort

If the order is transitive on a list, the sort of the list does not break down and gives the stable
sort, whichever way it goes (`sort?_eq_stableSort`). A list is sorted stably if it is in order and
tied items stand as they stood (`StablySorts`), and there is one such list. So each part of the sort
only has to keep the items, their order and the order of ties.
-/

namespace DiagnosticReport

open Std
open scoped List

variable {α : Type} {order : α → α → Ordering}

/-! ## The order -/

instance orientedCmp_flip [OrientedCmp order] : OrientedCmp (flip order) :=
  inferInstanceAs (OrientedCmp fun a b => order b a)

theorem inOrder_iff {a b : α} : inOrder order a b ↔ order b a ≠ .lt := by
  simp [inOrder]

section

variable [OrientedCmp order]

theorem inOrder_refl (a : α) : inOrder order a a := by
  simp [inOrder_iff, ReflCmp.compare_self]

theorem inOrder_of_not {a b : α} (h : ¬ inOrder order a b) : inOrder order b a := by
  rw [inOrder_iff, not_not] at h
  rw [inOrder_iff, OrientedCmp.gt_of_lt h]
  decide

end

/-- Two items are tied. -/
def isTied (order : α → α → Ordering) (a b : α) : Bool :=
  inOrder order a b && inOrder order b a

theorem isTied_iff {a b : α} : isTied order a b ↔ inOrder order a b ∧ inOrder order b a := by
  simp [isTied]

namespace TransitiveOn

variable {all : List α} {a b c : α} (h : TransitiveOn order all)
include h

/-- On items that the order is transitive on, what stands in order does so across a third item. -/
theorem inOrder_trans (ha : a ∈ all) (hb : b ∈ all) (hc : c ∈ all) (hab : inOrder order a b)
    (hbc : inOrder order b c) : inOrder order a c := by
  rw [inOrder_iff] at *
  exact h c hc b hb a ha hbc hab

theorem flip : TransitiveOn (flip order) all :=
  fun a ha b hb c hc hab hbc => h c hc b hb a ha hbc hab

/-- On such items, being tied is transitive as well. -/
theorem isTied_trans (ha : a ∈ all) (hb : b ∈ all) (hc : c ∈ all) (hab : isTied order a b)
    (hbc : isTied order b c) : isTied order a c := by
  rw [isTied_iff] at *
  exact ⟨h.inOrder_trans ha hb hc hab.1 hbc.1, h.inOrder_trans hc hb ha hbc.2 hab.2⟩

end TransitiveOn

theorem isTied_comm (a b : α) : isTied order a b = isTied order b a :=
  Bool.and_comm _ _

/-! ## Stable sorts -/

/-- The list holds the items in order, and tied items as they stood. -/
structure StablySorts (order : α → α → Ordering) (all items sorted : List α) : Prop where
  perm : sorted.Perm items
  pairwise : sorted.Pairwise fun a b => inOrder order a b
  ties : ∀ c ∈ all, sorted.filter (isTied order c) = items.filter (isTied order c)

section

variable [OrientedCmp order] {all : List α}

/-- The first item of a list in order precedes all of its items. -/
theorem inOrder_head {a b : α} {items : List α}
    (hpair : (a :: items).Pairwise fun a b => inOrder order a b) (hb : b ∈ a :: items) :
    inOrder order a b := by
  rcases List.mem_cons.1 hb with rfl | hb
  · exact inOrder_refl b
  · exact (List.pairwise_cons.1 hpair).1 b hb

/-- Lists in order with the same ties are equal. -/
theorem eq_of_ties {items others : List α} (hitems : items ⊆ all) (hothers : others ⊆ all)
    (hpair : items.Pairwise fun a b => inOrder order a b)
    (hpair' : others.Pairwise fun a b => inOrder order a b)
    (h : ∀ c ∈ all, items.filter (isTied order c) = others.filter (isTied order c)) :
    items = others := by
  have hself (a : α) : isTied order a a := isTied_iff.2 ⟨inOrder_refl a, inOrder_refl a⟩
  induction items generalizing others with
  | nil =>
    cases others with
    | nil => rfl
    | cons b others =>
      have hb := h b (hothers (List.mem_cons_self ..))
      rw [List.filter_cons_of_pos (hself b)] at hb
      cases hb
  | cons a items ih =>
    have ha : a ∈ all := hitems (List.mem_cons_self ..)
    have hfirst := h a ha
    rw [List.filter_cons_of_pos (hself a)] at hfirst
    cases others with
    | nil => cases hfirst
    | cons b others =>
      have hb : b ∈ all := hothers (List.mem_cons_self ..)
      -- each of the first items stands in the other list, so they are tied
      have ha' : a ∈ b :: others := (List.mem_filter.1 (hfirst ▸ List.mem_cons_self ..)).1
      have hb' : b ∈ a :: items := by
        have hmem : b ∈ (b :: others).filter (isTied order b) :=
          List.mem_filter.2 ⟨List.mem_cons_self .., hself b⟩
        exact (List.mem_filter.1 ((h b hb).symm ▸ hmem)).1
      have htied : isTied order a b :=
        isTied_iff.2 ⟨inOrder_head hpair hb', inOrder_head hpair' ha'⟩
      rw [List.filter_cons_of_pos htied] at hfirst
      obtain rfl : a = b := (List.cons.inj hfirst).1
      congr 1
      refine ih (fun x hx => hitems (List.mem_cons_of_mem _ hx))
        (fun x hx => hothers (List.mem_cons_of_mem _ hx)) (List.pairwise_cons.1 hpair).2
        (List.pairwise_cons.1 hpair').2 fun c hc => ?_
      have hc' := h c hc
      rw [List.filter_cons, List.filter_cons] at hc'
      split at hc'
      · exact (List.cons.inj hc').2
      · exact hc'

omit [OrientedCmp order] in
/-- An item is inserted behind all items that it is tied with. -/
theorem filter_insertReversed {item : α} {done : List α} (htrans : TransitiveOn order all)
    (hitem : item ∈ all) (hdone : done ⊆ all) {c : α} (hc : c ∈ all) :
    (insertReversed order item done).filter (isTied order c) =
      (item :: done).filter (isTied order c) := by
  induction done with
  | nil => rfl
  | cons last rest ih =>
    obtain ⟨hlast, hrest⟩ := List.cons_subset.1 hdone
    rw [insertReversed]
    split
    · next hlt =>
      rw [List.filter_cons, ih hrest, List.filter_cons, List.filter_cons, List.filter_cons]
      by_cases htied : isTied order c item
      · -- an item that is passed is not tied with the one that passes it
        have hnot : ¬ isTied order c last := fun hlast' => by
          have h := htrans.isTied_trans hlast hc hitem (isTied_comm c last ▸ hlast') htied
          exact inOrder_iff.1 (isTied_iff.1 h).1 hlt
        simp [hnot]
      · simp [htied]
    · rfl

/-- The stable sort of items is a sort of them that keeps ties as they are. -/
theorem stablySorts_stableSort {items : List α} (htrans : TransitiveOn order all)
    (hitems : items ⊆ all) : StablySorts order all items (stableSort order items) := by
  refine ⟨perm_stableSort order items, ?_, fun c hc => ?_⟩
  · have h : (stableSort order items).Pairwise (MayPrecede order fun _ _ => True) :=
      pairwise_stableSort (htrans.subset hitems) (List.pairwise_of_forall fun _ _ => trivial)
    exact h.imp fun hab => inOrder_iff.2 hab.1
  · rw [← List.reverse_inj, ← List.filter_reverse, ← List.filter_reverse]
    induction items using List.reverseRecOn with
    | nil => rfl
    | append_singleton items item ih =>
      obtain ⟨hinit, hitem⟩ := List.append_subset.1 hitems
      have hdone : (stableSort order items).reverse ⊆ all := fun a ha =>
        hinit ((perm_stableSort order items).mem_iff.1 (List.mem_reverse.1 ha))
      rw [reverse_stableSort_concat, filter_insertReversed htrans (by simpa using hitem) hdone hc,
        List.reverse_append, List.filter_cons, List.reverse_singleton, List.singleton_append,
        List.filter_cons, ih hinit]

namespace StablySorts

variable {items sorted left right first second : List α}

/-- There is one way to sort stably. -/
theorem eq_stableSort (h : StablySorts order all items sorted) (htrans : TransitiveOn order all)
    (hitems : items ⊆ all) : sorted = stableSort order items := by
  have hstable := stablySorts_stableSort htrans hitems
  exact eq_of_ties (fun a ha => hitems (h.perm.mem_iff.1 ha))
    (fun a ha => hitems (hstable.perm.mem_iff.1 ha)) h.pairwise hstable.pairwise
    fun c hc => (h.ties c hc).trans (hstable.ties c hc).symm

omit [OrientedCmp order] in
theorem subset (h : StablySorts order all items sorted) (hitems : items ⊆ all) : sorted ⊆ all :=
  fun _ ha => hitems (h.perm.mem_iff.1 ha)

omit [OrientedCmp order] in
/-- The reverse of a sort sorts the reversed items by the flipped order. -/
theorem reverse (h : StablySorts order all items sorted) :
    StablySorts (flip order) all items.reverse sorted.reverse := by
  refine ⟨(List.reverse_perm _).trans (h.perm.trans (List.reverse_perm _).symm),
    List.pairwise_reverse.2 h.pairwise, fun c hc => ?_⟩
  have htied : isTied (flip order) c = isTied order c := funext fun a => isTied_comm a c ▸ rfl
  rw [htied, List.filter_reverse, List.filter_reverse, h.ties c hc]

end StablySorts

/-! ## Merging -/

section

variable {left right : List α}

/-- Merging keeps the order. -/
theorem pairwise_merge (htrans : TransitiveOn order all) (hleft : left ⊆ all) (hright : right ⊆ all)
    (hl : left.Pairwise fun a b => inOrder order a b)
    (hr : right.Pairwise fun a b => inOrder order a b) :
    (List.merge left right (inOrder order)).Pairwise fun a b => inOrder order a b := by
  induction left generalizing right with
  | nil => rwa [List.nil_merge]
  | cons a left ihl =>
    obtain ⟨ha, hleft'⟩ := List.cons_subset.1 hleft
    obtain ⟨hfirst, hl'⟩ := List.pairwise_cons.1 hl
    induction right with
    | nil => rwa [List.merge_right]
    | cons b right ihr =>
      obtain ⟨hb, hright'⟩ := List.cons_subset.1 hright
      obtain ⟨hsecond, hr'⟩ := List.pairwise_cons.1 hr
      rw [List.cons_merge_cons]
      split
      · next hab =>
        refine List.pairwise_cons.2 ⟨fun x hx => ?_, ihl hleft' hright hl' hr⟩
        rcases List.mem_merge.1 hx with hx | hx
        · exact hfirst x hx
        · rcases List.mem_cons.1 hx with rfl | hx
          · exact hab
          · exact htrans.inOrder_trans ha hb (hright' hx) hab (hsecond x hx)
      · next hab =>
        have hba := inOrder_of_not hab
        refine List.pairwise_cons.2 ⟨fun x hx => ?_, ihr hright' hr'⟩
        rcases List.mem_merge.1 hx with hx | hx
        · rcases List.mem_cons.1 hx with rfl | hx
          · exact hba
          · exact htrans.inOrder_trans hb ha (hleft' hx) hba (hfirst x hx)
        · exact hsecond x hx

/-- Merging puts tied items of the first list before those of the second one. -/
theorem filter_merge (htrans : TransitiveOn order all) (hleft : left ⊆ all) (hright : right ⊆ all)
    (hl : left.Pairwise fun a b => inOrder order a b) {c : α} (hc : c ∈ all) :
    (List.merge left right (inOrder order)).filter (isTied order c) =
      left.filter (isTied order c) ++ right.filter (isTied order c) := by
  induction left generalizing right with
  | nil => rw [List.nil_merge, List.filter_nil, List.nil_append]
  | cons a left ihl =>
    obtain ⟨ha, hleft'⟩ := List.cons_subset.1 hleft
    obtain ⟨hfirst, hl'⟩ := List.pairwise_cons.1 hl
    induction right with
    | nil => rw [List.merge_right, List.filter_nil, List.append_nil]
    | cons b right ihr =>
      obtain ⟨hb, hright'⟩ := List.cons_subset.1 hright
      rw [List.cons_merge_cons]
      split
      · rw [List.filter_cons, ihl hleft' hright hl', List.filter_cons (x := a)]
        split <;> rfl
      · next hab =>
        rw [List.filter_cons, ihr hright', List.filter_cons (x := b)]
        split
        · next htied =>
          -- all items of the first list are behind `b`, so none of them is tied with it
          have hnone : (a :: left).filter (isTied order c) = [] := by
            rw [List.filter_eq_nil_iff]
            intro x hx hx'
            have hax : inOrder order a x := by
              rcases List.mem_cons.1 hx with rfl | hx
              · exact inOrder_refl x
              · exact hfirst x hx
            have hxb : isTied order x b :=
              htrans.isTied_trans (hleft hx) hc hb (isTied_comm c x ▸ hx') htied
            exact hab (htrans.inOrder_trans ha (hleft hx) hb hax (isTied_iff.1 hxb).1)
          rw [hnone, List.nil_append, List.nil_append]
        · rfl

end

section

variable {items others left right : List α} (htrans : TransitiveOn order all)
include htrans

/-- Merging two sorted pieces sorts both together, the first piece being in front at a tie. -/
theorem StablySorts.merge (hl : StablySorts order all items left)
    (hr : StablySorts order all others right) (hitems : items ⊆ all) (hothers : others ⊆ all) :
    StablySorts order all (items ++ others) (List.merge left right (inOrder order)) where
  perm := (List.merge_perm_append _).trans (hl.perm.append hr.perm)
  pairwise :=
    pairwise_merge htrans (hl.subset hitems) (hr.subset hothers) hl.pairwise hr.pairwise
  ties c hc := by
    rw [filter_merge htrans (hl.subset hitems) (hr.subset hothers) hl.pairwise hc, hl.ties c hc,
      hr.ties c hc, List.filter_append]

/-- Merging from the end is merging the other way round. -/
theorem StablySorts.backward (hl : StablySorts order all items left)
    (hr : StablySorts order all others right) (hitems : items ⊆ all) (hothers : others ⊆ all) :
    StablySorts order all (items ++ others) (mergeBackward order left right) := by
  have h := hr.reverse.merge htrans.flip hl.reverse (by simpa using hothers) (by simpa using hitems)
  simpa [mergeBackward] using h.reverse

/-- Merging the sorts of two pieces is sorting both together. -/
theorem merge_stableSort (hitems : items ⊆ all) (hothers : others ⊆ all) :
    List.merge (stableSort order items) (stableSort order others) (inOrder order) =
      stableSort order (items ++ others) := by
  have hmerge := (stablySorts_stableSort htrans hitems).merge htrans
    (stablySorts_stableSort htrans hothers) hitems hothers
  exact hmerge.eq_stableSort htrans (List.append_subset.2 ⟨hitems, hothers⟩)

/-- Whichever end it starts from, merging the sorts of two runs is sorting both together. -/
theorem mergeRuns_stableSort (hitems : items ⊆ all) (hothers : others ⊆ all) :
    mergeRuns order (stableSort order items) (stableSort order others) =
      stableSort order (items ++ others) := by
  unfold mergeRuns
  split
  · exact merge_stableSort htrans hitems hothers
  · have hback := (stablySorts_stableSort htrans hitems).backward htrans
      (stablySorts_stableSort htrans hothers) hitems hothers
    exact hback.eq_stableSort htrans (List.append_subset.2 ⟨hitems, hothers⟩)

end

/-! ## Merging from both ends -/

/-- `front` is the start of the merge of two lists, with `i` items from the first list and `j` from
the second one. -/
structure IsMergeStart (order : α → α → Ordering) (left right front : List α) (i j : Nat) :
    Prop where
  le_left : i ≤ left.length
  le_right : j ≤ right.length
  merge_eq : List.merge left right (inOrder order) =
    front ++ List.merge (left.drop i) (right.drop j) (inOrder order)
  perm : front.Perm (left.take i ++ right.take j)
  taken_left : ∀ a ∈ left.take i, ∀ b ∈ right.drop j, inOrder order a b
  taken_right : ∀ a ∈ left.drop i, ∀ b ∈ right.take j, ¬ inOrder order a b

namespace IsMergeStart

variable {left right front : List α} {a b : α} {i j : Nat}

omit [OrientedCmp order] in
theorem zero (left right : List α) : IsMergeStart order left right [] 0 0 :=
  ⟨Nat.zero_le _, Nat.zero_le _, rfl, .refl _, nofun, nofun⟩

omit [OrientedCmp order] in
theorem cons_left (h : IsMergeStart order left (b :: right) front i j) (hab : inOrder order a b)
    (htrans : TransitiveOn order all) (ha : a ∈ all) (hb : b ∈ all) (hright : right ⊆ all)
    (hpair : (b :: right).Pairwise fun a b => inOrder order a b) :
    IsMergeStart order (a :: left) (b :: right) (a :: front) (i + 1) j where
  le_left := Nat.succ_le_succ h.le_left
  le_right := h.le_right
  merge_eq := by rw [List.cons_merge_cons_pos _ _ _ hab, h.merge_eq]; rfl
  perm := h.perm.cons a
  taken_left := by
    refine List.forall_mem_cons.2 ⟨fun x hx => ?_, h.taken_left⟩
    rcases List.mem_cons.1 (List.mem_of_mem_drop hx) with rfl | hx
    · exact hab
    · exact htrans.inOrder_trans ha hb (hright hx) hab ((List.pairwise_cons.1 hpair).1 x hx)
  taken_right := h.taken_right

omit [OrientedCmp order] in
theorem cons_right (h : IsMergeStart order (a :: left) right front i j) (hab : ¬ inOrder order a b)
    (htrans : TransitiveOn order all) (ha : a ∈ all) (hb : b ∈ all) (hleft : left ⊆ all)
    (hpair : (a :: left).Pairwise fun a b => inOrder order a b) :
    IsMergeStart order (a :: left) (b :: right) (b :: front) i (j + 1) where
  le_left := h.le_left
  le_right := Nat.succ_le_succ h.le_right
  merge_eq := by rw [List.cons_merge_cons_neg _ _ _ hab, h.merge_eq]; rfl
  perm := (h.perm.cons b).trans List.perm_middle.symm
  taken_left := h.taken_left
  taken_right := by
    intro x hx
    refine List.forall_mem_cons.2 ⟨fun hxb => ?_, h.taken_right x hx⟩
    rcases List.mem_cons.1 (List.mem_of_mem_drop hx) with rfl | hx
    · exact hab hxb
    · exact hab (htrans.inOrder_trans ha (hleft hx) hb ((List.pairwise_cons.1 hpair).1 x hx) hxb)

end IsMergeStart

omit [OrientedCmp order] in
/-- As many steps from the front as both pieces allow give the start of their merge. -/
theorem isMergeStart_mergeStart (htrans : TransitiveOn order all) (n : Nat) (left right : List α)
    (hleft : left ⊆ all) (hright : right ⊆ all)
    (hl : left.Pairwise fun a b => inOrder order a b)
    (hr : right.Pairwise fun a b => inOrder order a b) (hn : n ≤ left.length)
    (hn' : n ≤ right.length) :
    (mergeStart order n left right).2 ≤ n ∧
      IsMergeStart order left right (mergeStart order n left right).1
        (mergeStart order n left right).2 (n - (mergeStart order n left right).2) := by
  induction n generalizing left right with
  | zero => exact ⟨by simp [mergeStart], by simpa [mergeStart] using .zero left right⟩
  | succ n ih =>
    cases left with
    | nil => simp at hn
    | cons a left =>
      cases right with
      | nil => simp at hn'
      | cons b right =>
        obtain ⟨ha, hleft'⟩ := List.cons_subset.1 hleft
        obtain ⟨hb, hright'⟩ := List.cons_subset.1 hright
        rw [List.length_cons] at hn hn'
        rw [mergeStart]
        split
        · next hab =>
          obtain ⟨hle, hstart⟩ := ih left (b :: right) hleft' hright
            (List.pairwise_cons.1 hl).2 hr (by omega) (by rw [List.length_cons]; omega)
          refine ⟨by simpa using hle, ?_⟩
          rw [Nat.add_sub_add_right]
          exact hstart.cons_left hab htrans ha hb hright' hr
        · next hab =>
          obtain ⟨hle, hstart⟩ := ih (a :: left) right hleft hright' hl
            (List.pairwise_cons.1 hr).2 (by rw [List.length_cons]; omega) (by omega)
          refine ⟨by simp; omega, ?_⟩
          rw [Nat.succ_sub hle]
          exact hstart.cons_right hab htrans ha hb hleft' hl

theorem perm_append_append_comm (a b c d : List α) : a ++ b ++ (c ++ d) ~ a ++ c ++ (b ++ d) := by
  simpa using ((List.perm_append_comm : b ++ c ~ c ++ b).append_right d).append_left a

/-- A list is cut at two places. -/
theorem take_append_middle (items : List α) {i j : Nat} (h : i ≤ j) :
    items.take i ++ ((items.take j).drop i ++ items.drop j) = items := by
  have htake : items.take i = (items.take j).take i := by rw [List.take_take, Nat.min_eq_left h]
  rw [← List.append_assoc, htake, List.take_append_drop, List.take_append_drop]

theorem getElem_mem_take {items : List α} {i k : Nat} (hk : k < items.length) (h : k < i) :
    items[k] ∈ items.take i :=
  List.mem_take_iff_getElem.2 ⟨k, by omega, rfl⟩

theorem getElem_mem_drop {items : List α} {i k : Nat} (hk : k < items.length) (h : i ≤ k) :
    items[k] ∈ items.drop i :=
  List.mem_drop_iff_getElem.2 ⟨k - i, by omega, by congr 1; omega⟩

section

variable {left right front back : List α} {i j : Nat}

omit [OrientedCmp order] in
/-- What both ends take of the lists does not overlap: an item that both take of one list would
stand on both sides of an item that none takes of the other list. -/
theorem ends_disjoint (hlength : left.length ≤ right.length) (hi : i ≤ left.length)
    (hj : j ≤ left.length)
    (hfront : IsMergeStart order left right front i (left.length - i))
    (hback : IsMergeStart (flip order) right.reverse left.reverse back j (left.length - j)) :
    i ≤ j ∧ left.length - i ≤ right.length - j := by
  have hbefore : ∀ a ∈ left.take j, ∀ b ∈ right.drop (right.length - j), inOrder order a b := by
    intro a ha b hb
    refine hback.taken_left b ?_ a ?_
    · rwa [List.take_reverse, List.mem_reverse]
    · rwa [List.drop_reverse, List.mem_reverse, Nat.sub_sub_self hj]
  have hbehind : ∀ a ∈ left.drop j, ∀ b ∈ right.take (right.length - j), ¬ inOrder order a b := by
    intro a ha b hb
    refine hback.taken_right b ?_ a ?_
    · rwa [List.drop_reverse, List.mem_reverse]
    · rwa [List.take_reverse, List.mem_reverse, Nat.sub_sub_self hj]
  constructor
  · by_contra hlt
    refine hbehind left[j] (getElem_mem_drop (by omega) (by omega)) right[left.length - i]
      (getElem_mem_take (by omega) (by omega)) ?_
    exact hfront.taken_left _ (getElem_mem_take (by omega) (by omega)) _
      (getElem_mem_drop (by omega) (by omega))
  · by_contra hlt
    refine hfront.taken_right left[i] (getElem_mem_drop (by omega) (by omega))
      right[right.length - j] (getElem_mem_take (by omega) (by omega)) ?_
    exact hbefore _ (getElem_mem_take (by omega) (by omega)) _
      (getElem_mem_drop (by omega) (by omega))

/-- A list of one item at most has no other order. -/
theorem eq_of_perm_of_length_le_one {items others : List α} (h : items ~ others)
    (hlength : items.length ≤ 1) : items = others := by
  match items, hlength with
  | [], _ => exact h.symm.eq_nil.symm
  | [a], _ => exact (List.perm_singleton.1 h.symm).symm

omit [OrientedCmp order] in
/-- The start of a merge has as many items as it has taken from both pieces. -/
theorem length_eq_of_isMergeStart {n : Nat} (h : IsMergeStart order left right front i (n - i))
    (hi : i ≤ n) : front.length = n := by
  have hlength := h.perm.length_eq
  have hleft := h.le_left
  have hright := h.le_right
  simp only [List.length_append, List.length_take] at hlength
  omega

omit [OrientedCmp order] in
/-- What both ends take and what is left between them are all items of both lists. -/
theorem perm_ends (hj : j ≤ left.length) (hij : i ≤ j)
    (hrest : left.length - i ≤ right.length - j)
    (hfront : IsMergeStart order left right front i (left.length - i))
    (hback : IsMergeStart (flip order) right.reverse left.reverse back j (left.length - j)) :
    front ++ ((left.take j).drop i ++ (right.take (right.length - j)).drop (left.length - i)) ++
      back.reverse ~ left ++ right := by
  have hbackward : back.reverse ~ left.drop j ++ right.drop (right.length - j) := by
    have h := (List.reverse_perm back).trans hback.perm
    rw [List.take_reverse, List.take_reverse, Nat.sub_sub_self hj] at h
    exact h.trans (((List.reverse_perm _).append (List.reverse_perm _)).trans
      List.perm_append_comm)
  have hleft := take_append_middle left hij
  have hright := take_append_middle right hrest
  calc front ++ (_ ++ _) ++ back.reverse
    _ ~ left.take i ++ right.take (left.length - i) ++ (_ ++ _) ++
        (left.drop j ++ right.drop (right.length - j)) :=
      (hfront.perm.append_right _).append hbackward
    _ ~ left.take i ++ right.take (left.length - i) ++ ((left.take j).drop i ++ left.drop j ++
        ((right.take (right.length - j)).drop (left.length - i) ++
          right.drop (right.length - j))) := by
      rw [List.append_assoc]
      exact (perm_append_append_comm _ _ _ _).append_left _
    _ ~ left.take i ++ ((left.take j).drop i ++ left.drop j) ++
        (right.take (left.length - i) ++ ((right.take (right.length - j)).drop (left.length - i) ++
          right.drop (right.length - j))) := perm_append_append_comm _ _ _ _
    _ = left ++ right := by rw [hleft, hright]

omit [OrientedCmp order] in
/-- The merge is what both ends take with what is left between them, which is at most one item. -/
theorem merge_eq_ends (hlength : left.length ≤ right.length)
    (hlength' : right.length ≤ left.length + 1) (hi : i ≤ left.length) (hj : j ≤ left.length)
    (hfront : IsMergeStart order left right front i (left.length - i))
    (hback : IsMergeStart (flip order) right.reverse left.reverse back j (left.length - j))
    (hbackward : mergeBackward order left right = List.merge left right (inOrder order)) :
    front ++ ((left.take j).drop i ++ (right.take (right.length - j)).drop (left.length - i)) ++
      back.reverse = List.merge left right (inOrder order) := by
  obtain ⟨hij, hrest⟩ := ends_disjoint hlength hi hj hfront hback
  have hmergeLength := List.length_merge (inOrder order) left right
  have hfrontLength := length_eq_of_isMergeStart hfront hi
  have hbackLength := length_eq_of_isMergeStart hback hj
  obtain ⟨middle, hmiddle⟩ : ∃ middle,
      List.merge left right (inOrder order) = front ++ middle ++ back.reverse := by
    obtain ⟨before, hbefore⟩ : ∃ before,
        before ++ back.reverse = List.merge left right (inOrder order) := by
      rw [← hbackward, mergeBackward, hback.merge_eq, List.reverse_append]
      exact ⟨_, rfl⟩
    have hbeforeLength := congrArg List.length hbefore
    rw [hmergeLength, List.length_append, List.length_reverse] at hbeforeLength
    obtain ⟨middle, rfl⟩ : front <+: before :=
      List.prefix_of_prefix_length_le ⟨_, hfront.merge_eq.symm⟩ ⟨_, hbefore⟩ (by omega)
    exact ⟨middle, hbefore.symm⟩
  have hperm := (perm_ends hj hij hrest hfront hback).trans
    (List.merge_perm_append (inOrder order)).symm
  rw [hmiddle, List.perm_append_right_iff, List.perm_append_left_iff] at hperm
  have hmiddleLength : middle.length ≤ 1 := by
    have h := congrArg List.length hmiddle
    simp only [hmergeLength, List.length_append, List.length_reverse] at h
    omega
  rw [hmiddle, eq_of_perm_of_length_le_one hperm.symm hmiddleLength]

end

/-- Two sorted lists of nearly one length are merged from both ends. -/
theorem mergeBothEnds?_eq (htrans : TransitiveOn order all) {items others left right : List α}
    (hl : StablySorts order all items left) (hr : StablySorts order all others right)
    (hitems : items ⊆ all) (hothers : others ⊆ all) (hle : left.length ≤ right.length)
    (hle' : right.length ≤ left.length + 1) :
    mergeBothEnds? order left right = some (List.merge left right (inOrder order)) := by
  have hleft := hl.subset hitems
  have hright := hr.subset hothers
  have hsub := List.append_subset.2 ⟨hitems, hothers⟩
  obtain ⟨hi, hfront⟩ := isMergeStart_mergeStart htrans left.length left right hleft hright
    hl.pairwise hr.pairwise (Nat.le_refl _) hle
  obtain ⟨hj, hback⟩ := isMergeStart_mergeStart htrans.flip left.length right.reverse left.reverse
    (by simpa using hright) (by simpa using hleft) (List.pairwise_reverse.2 hr.pairwise)
    (List.pairwise_reverse.2 hl.pairwise) (by simpa using hle) (by simp)
  have hbackward : mergeBackward order left right = List.merge left right (inOrder order) := by
    rw [(hl.backward htrans hr hitems hothers).eq_stableSort htrans hsub,
      (hl.merge htrans hr hitems hothers).eq_stableSort htrans hsub]
  simp only [mergeBothEnds?]
  rw [if_pos (ends_disjoint hle hi hj hfront hback),
    merge_eq_ends hle hle' hi hj hfront hback hbackward]

end

end DiagnosticReport
