import DiagnosticReport.Proofs.Query.Merging

/-!
# Sorting by merging is the stable sort

If the order is transitive on a list, the sort of the list does not break down and gives the stable
sort, whichever way it goes (`sort?_eq_stableSort`).
-/

namespace DiagnosticReport

open Std
open scoped List

variable {α : Type} {order : α → α → Ordering} [OrientedCmp order] {all : List α}
  (htrans : TransitiveOn order all)
include htrans

/-! ## Short pieces -/

omit htrans [OrientedCmp order] in
/-- Two items are sorted as they should be. -/
theorem sortTwo_eq (a b : α) :
    [(sortTwo order a b).1, (sortTwo order a b).2] = stableSort order [a, b] := by
  have hlt : order b a = .lt ↔ ¬ inOrder order a b := by simp [inOrder]
  by_cases hab : inOrder order a b
  · simp [sortTwo, stableSort, insertReversed, hlt, hab]
  · simp [sortTwo, stableSort, insertReversed, hlt, hab]

omit htrans in
theorem inOrder_sortTwo (a b : α) :
    inOrder order (sortTwo order a b).1 (sortTwo order a b).2 := by
  unfold sortTwo
  split
  · next hab => exact hab
  · next hab => exact inOrder_of_not hab

omit htrans [OrientedCmp order] in
theorem mem_sortTwo {a b : α} (ha : a ∈ all) (hb : b ∈ all) :
    (sortTwo order a b).1 ∈ all ∧ (sortTwo order a b).2 ∈ all := by
  unfold sortTwo
  split
  · exact ⟨ha, hb⟩
  · exact ⟨hb, ha⟩

/-- Four items are sorted by merging two pairs. -/
theorem sortFour_eq_merge {a b c d : α} (hsub : [a, b, c, d] ⊆ all) :
    sortFour order a b c d =
      List.merge (stableSort order [a, b]) (stableSort order [c, d]) (inOrder order) := by
  have ⟨hp, hq⟩ : (sortTwo order a b).1 ∈ all ∧ (sortTwo order a b).2 ∈ all :=
    mem_sortTwo (hsub (by simp)) (hsub (by simp))
  have ⟨hr, hs⟩ : (sortTwo order c d).1 ∈ all ∧ (sortTwo order c d).2 ∈ all :=
    mem_sortTwo (hsub (by simp)) (hsub (by simp))
  rw [← sortTwo_eq, ← sortTwo_eq, sortFour]
  have hpq : inOrder order (sortTwo order a b).1 (sortTwo order a b).2 := inOrder_sortTwo a b
  have hrs : inOrder order (sortTwo order c d).1 (sortTwo order c d).2 := inOrder_sortTwo c d
  generalize (sortTwo order a b) = first at *
  generalize (sortTwo order c d) = second at *
  obtain ⟨p, q⟩ := first
  obtain ⟨r, s⟩ := second
  -- each of the pairs is in order, so the comparisons that are not made follow from those that are
  grind [sortTwo, List.cons_merge_cons, List.merge_right, List.nil_merge,
    TransitiveOn.inOrder_trans]

/-- A half of a short piece is sorted as it should be. -/
theorem sortHalf_eq (isLong : Bool) {items : List α} (hitems : items ⊆ all) :
    sortHalf order isLong items = stableSort order items := by
  unfold sortHalf
  split
  · next a b c d rest =>
    have hfour : [a, b, c, d] ⊆ all := fun x hx => hitems (by simp at hx ⊢; tauto)
    have hleft : [a, b] ⊆ all := fun x hx => hfour (by simp at hx ⊢; tauto)
    have hright : [c, d] ⊆ all := fun x hx => hfour (by simp at hx ⊢; tauto)
    rw [sortFour_eq_merge htrans hfour, merge_stableSort htrans hleft hright]
    simp [insertAll, stableSort]
  · rfl

/-- A short piece is sorted; its ends do not meet in the wrong place. -/
theorem sortPiece?_eq {items : List α} (hitems : items ⊆ all) :
    sortPiece? order items = some (stableSort order items) := by
  have hfirst : items.take (items.length / 2) ⊆ all :=
    fun x hx => hitems (List.mem_of_mem_take hx)
  have hsecond : items.drop (items.length / 2) ⊆ all :=
    fun x hx => hitems (List.mem_of_mem_drop hx)
  have hl := stablySorts_stableSort htrans hfirst
  have hr := stablySorts_stableSort htrans hsecond
  have hlength := hl.perm.length_eq
  have hlength' := hr.perm.length_eq
  rw [List.length_take] at hlength
  rw [List.length_drop] at hlength'
  simp only [sortPiece?]
  rw [sortHalf_eq htrans _ hfirst, sortHalf_eq htrans _ hsecond,
    mergeBothEnds?_eq htrans hl hr hfirst hsecond (by omega) (by omega),
    merge_stableSort htrans hfirst hsecond, List.take_append_drop]

/-! ## Runs -/

omit [OrientedCmp order] htrans in
/-- In a chain of neighbours, any two items are related. -/
theorem pairwise_take_chainLength {related : α → α → Bool} {items : List α}
    (hrelated : ∀ a ∈ items, ∀ b ∈ items, ∀ c ∈ items, related a b → related b c → related a c) :
    (items.take (chainLength related items)).Pairwise fun a b => related a b := by
  induction items with
  | nil => exact .nil
  | cons a items ih =>
    cases items with
    | nil => exact List.pairwise_singleton ..
    | cons b rest =>
      rw [chainLength]
      split
      · next hab =>
        have hpair := ih fun x hx y hy z hz => hrelated x (.tail _ hx) y (.tail _ hy) z (.tail _ hz)
        refine List.pairwise_cons.2 ⟨fun x hx => ?_, hpair⟩
        -- `x` is `b` or stands behind it in the chain
        cases hlength : chainLength related (b :: rest) with
        | zero => rw [hlength] at hx; cases hx
        | succ n =>
          rw [hlength, List.take_succ_cons] at hpair hx
          rcases List.mem_cons.1 hx with rfl | hx
          · exact hab
          · exact hrelated a (by simp) b (by simp) x (by simp [List.mem_of_mem_take hx]) hab
              ((List.pairwise_cons.1 hpair).1 x hx)
      · exact List.pairwise_singleton ..

omit [OrientedCmp order] htrans in
theorem stablySorts_self {items : List α} (h : items.Pairwise fun a b => inOrder order a b) :
    StablySorts order all items items :=
  ⟨.refl _, h, fun _ _ => rfl⟩

/-- No two items of a list in strictly reverse order are tied, so it may be reversed. -/
theorem stablySorts_reverse {items : List α} (hitems : items ⊆ all)
    (h : items.Pairwise fun a b => ¬ inOrder order a b) :
    StablySorts order all items items.reverse := by
  refine ⟨List.reverse_perm _, List.pairwise_reverse.2 (h.imp inOrder_of_not), fun c hc => ?_⟩
  rw [List.filter_reverse]
  have hpair := h.filter (isTied order c)
  have hmem : ∀ a ∈ items.filter (isTied order c), a ∈ all ∧ isTied order c a :=
    fun a ha => ⟨hitems (List.mem_filter.1 ha).1, (List.mem_filter.1 ha).2⟩
  match items.filter (isTied order c), hpair, hmem with
  | [], _, _ => rfl
  | [a], _, _ => rfl
  | a :: b :: rest, hpair, hmem =>
    obtain ⟨ha, hca⟩ := hmem a (by simp)
    obtain ⟨hb, hcb⟩ := hmem b (by simp)
    have htied := htrans.isTied_trans ha hc hb (isTied_comm c a ▸ hca) hcb
    exact absurd (isTied_iff.1 htied).1 ((List.pairwise_cons.1 hpair).1 b (by simp))

/-- On items that the order is transitive on, strict descents are transitive. -/
theorem not_inOrder_trans {a b c : α} (ha : a ∈ all) (hb : b ∈ all) (hc : c ∈ all)
    (hab : ¬ inOrder order a b) (hbc : ¬ inOrder order b c) : ¬ inOrder order a c :=
  fun hac => hab (htrans.inOrder_trans ha hc hb hac (inOrder_of_not hbc))

/-- A natural run is the start of the list, sorted. -/
theorem exists_naturalRun_eq {items : List α} (hitems : items ⊆ all) :
    ∃ raw, raw <+: items ∧ naturalRun order items = stableSort order raw := by
  unfold naturalRun
  split
  · next a b rest =>
    split
    · let raw := (a :: b :: rest).take (chainLength (inOrder order) (a :: b :: rest))
      have hraw : raw ⊆ all := fun x hx => hitems (List.mem_of_mem_take hx)
      have hpair : raw.Pairwise fun a b => inOrder order a b :=
        pairwise_take_chainLength fun x hx y hy z hz =>
          htrans.inOrder_trans (hitems hx) (hitems hy) (hitems hz)
      exact ⟨raw, List.take_prefix .., (stablySorts_self hpair).eq_stableSort htrans hraw⟩
    · let raw := (a :: b :: rest).take
        (chainLength (fun a b => !inOrder order a b) (a :: b :: rest))
      have hraw : raw ⊆ all := fun x hx => hitems (List.mem_of_mem_take hx)
      have hpair : raw.Pairwise fun a b => !inOrder order a b :=
        pairwise_take_chainLength fun x hx y hy z hz => by
          simpa using not_inOrder_trans htrans (hitems hx) (hitems hy) (hitems hz)
      have hreverse := stablySorts_reverse htrans hraw (hpair.imp fun h => by simpa using h)
      exact ⟨raw, List.take_prefix .., hreverse.eq_stableSort htrans hraw⟩
  · next hshort =>
    have hpair : items.Pairwise fun a b => inOrder order a b := by
      match items, hshort with
      | [], _ => exact .nil
      | [a], _ => exact List.pairwise_singleton ..
      | a :: b :: rest, hshort => exact absurd rfl (hshort a b rest)
    exact ⟨items, List.prefix_refl _, (stablySorts_self hpair).eq_stableSort htrans hitems⟩

/-- The run stands for a stretch of the list: sorted, or as it was. An eager sort has none that is
not sorted. -/
def Run.Holds (order : α → α → Ordering) (isEager : Bool) (run : Run α) (raw : List α) : Prop :=
  if run.isSorted then run.items = stableSort order raw else run.items = raw ∧ isEager = false

omit htrans [OrientedCmp order] in
theorem Run.Holds.length_eq {isEager : Bool} {run : Run α} {raw : List α}
    (h : run.Holds order isEager raw) : run.items.length = raw.length := by
  unfold Run.Holds at h
  split at h
  · rw [h, (perm_stableSort order raw).length_eq]
  · rw [h.1]

/-- The first run takes items from the front, at least one of them. -/
theorem exists_firstRun?_eq (isEager : Bool) {enough : Nat} (henough : 0 < enough)
    {items : List α} (hitems : items ⊆ all) (hne : items ≠ []) :
    ∃ run raw, firstRun? order isEager enough items = some run ∧ raw <+: items ∧ raw ≠ [] ∧
      run.Holds order isEager raw := by
  obtain ⟨natural, hprefix, hnatural⟩ := exists_naturalRun_eq htrans hitems
  have htake (n : Nat) (hn : 0 < n) : items.take n ≠ [] := by
    simp [List.take_eq_nil_iff, hne]
    omega
  simp only [firstRun?]
  split
  · next hlong =>
    refine ⟨_, natural, rfl, hprefix, ?_, by simp [Run.Holds, hnatural]⟩
    rintro rfl
    rw [hnatural] at hlong
    simp [stableSort] at hlong
    omega
  · split
    · have hpiece : items.take pieceLength ⊆ all := fun x hx => hitems (List.mem_of_mem_take hx)
      rw [sortPiece?_eq htrans hpiece]
      exact ⟨_, items.take pieceLength, rfl, List.take_prefix .., htake _ (by decide),
        by simp [Run.Holds]⟩
    · next heager =>
      exact ⟨_, _, rfl, List.take_prefix .., htake _ henough, by simp [Run.Holds, heager]⟩

/-- The runs stand for a list, one stretch after the other. -/
inductive Covers (order : α → α → Ordering) (isEager : Bool) : List (Run α) → List α → Prop
  | nil : Covers order isEager [] []
  | cons {run : Run α} {runs : List (Run α)} {raw rest : List α}
      (first : run.Holds order isEager raw) (others : Covers order isEager runs rest) :
      Covers order isEager (run :: runs) (raw ++ rest)

/-- The runs cover all items, in their order. -/
theorem exists_runs?_eq (isEager : Bool) {enough : Nat} (henough : 0 < enough) {items : List α}
    (hitems : items ⊆ all) :
    ∃ runs, runs? order isEager enough items = some runs ∧ Covers order isEager runs items := by
  induction items using runs?.induct with
  | case1 => exact ⟨[], by rw [runs?], .nil⟩
  | case2 item rest ih =>
    obtain ⟨run, raw, hrun, hprefix, hraw, hholds⟩ :=
      exists_firstRun?_eq htrans isEager henough hitems (by simp)
    have hlater : rest.drop (run.items.length - 1) = (item :: rest).drop raw.length := by
      obtain ⟨n, hn⟩ := Nat.exists_eq_succ_of_ne_zero (mt List.length_eq_zero_iff.1 hraw)
      rw [hholds.length_eq, hn, List.drop_succ_cons, Nat.succ_sub_one]
    obtain ⟨others, hothers, hcovers⟩ := ih run
      fun x hx => hitems (List.mem_cons_of_mem _ (List.mem_of_mem_drop hx))
    refine ⟨run :: others, ?_, ?_⟩
    · rw [runs?, hrun, Option.bind_eq_bind, Option.bind_some, hothers]
      rfl
    · rw [hlater] at hcovers
      rw [← List.prefix_iff_eq_append.1 hprefix]
      exact .cons hholds hcovers

omit htrans [OrientedCmp order] in
theorem roughRoot_pos {n : Nat} (h : 2 ≤ n) : 0 < roughRoot n := by
  have hlog : 0 < n.log2 := (Nat.le_log2 (by omega)).2 (by simpa using h)
  have hpow : Nat.pow 2 1 ≤ Nat.pow 2 ((1 + n.log2) / 2) :=
    Nat.pow_le_pow_right (by decide) (by omega)
  exact Nat.div_pos (Nat.le_add_right_of_le hpow) (by decide)

omit htrans [OrientedCmp order] in
theorem enoughFor_pos {n : Nat} (h : 0 < n) : 0 < enoughFor n := by
  unfold enoughFor
  split
  · omega
  · exact roughRoot_pos (by omega)

/-! ## The tree of merges -/

/-- The runs that wait, the latest first, stand for a list. -/
inductive Waits (order : α → α → Ordering) (isEager : Bool) : List (Run α × Nat) → List α → Prop
  | nil : Waits order isEager [] []
  | cons {run : Run α} {depth : Nat} {waiting : List (Run α × Nat)} {before raw : List α}
      (others : Waits order isEager waiting before) (last : run.Holds order isEager raw) :
      Waits order isEager ((run, depth) :: waiting) (before ++ raw)

section

variable {isEager : Bool} {sort? : List α → Option (List α)} (capacity : Nat)
  (hsort : isEager = false → ∀ part, part ⊆ all → sort? part = some (stableSort order part))
include hsort

omit htrans [OrientedCmp order] in
/-- A run that was not sorted yet is sorted where it is needed. -/
theorem sorted?_eq {run : Run α} {raw : List α} (hraw : raw ⊆ all)
    (h : run.Holds order isEager raw) : run.sorted? sort? = some (stableSort order raw) := by
  unfold Run.Holds at h
  unfold Run.sorted?
  split at h
  · next hsorted => rw [if_pos hsorted, h]
  · next hsorted => rw [if_neg hsorted, h.1, hsort h.2 raw hraw]

/-- Two runs next to each other are joined to one run of the items of both. -/
theorem exists_joinRuns?_eq {left right : Run α} {first second : List α}
    (hfirst : first ⊆ all) (hsecond : second ⊆ all) (hl : left.Holds order isEager first)
    (hr : right.Holds order isEager second) :
    ∃ run, joinRuns? order sort? capacity left right = some run ∧
      run.Holds order isEager (first ++ second) := by
  unfold joinRuns?
  split
  · rw [sorted?_eq hsort hfirst hl, sorted?_eq hsort hsecond hr, Option.bind_eq_bind,
      Option.bind_some, Option.bind_some, mergeRuns_stableSort htrans hfirst hsecond]
    exact ⟨_, rfl, by simp [Run.Holds]⟩
  · next hplain =>
    simp only [Bool.or_eq_true, not_or] at hplain
    rw [Run.Holds, if_neg hplain.1.1] at hl
    rw [Run.Holds, if_neg hplain.1.2] at hr
    exact ⟨_, rfl, by simp [Run.Holds, hl, hr]⟩

/-- Joining runs that wait keeps all items that they stand for. -/
theorem exists_collapse?_eq (depth : Nat) {waiting : List (Run α × Nat)} {last : Run α}
    {before raw : List α} (hbefore : before ⊆ all) (hraw : raw ⊆ all)
    (hwaits : Waits order isEager waiting before) (hlast : last.Holds order isEager raw) :
    ∃ waiting' last' before' raw',
      collapse? order sort? capacity depth waiting last = some (waiting', last') ∧
      Waits order isEager waiting' before' ∧ last'.Holds order isEager raw' ∧
      before' ++ raw' = before ++ raw ∧ (depth = 0 → before' = []) := by
  induction hwaits generalizing last raw with
  | nil => exact ⟨[], last, [], raw, rfl, .nil, hlast, rfl, fun _ => rfl⟩
  | @cons run leftDepth waiting before left others hleft ih =>
    obtain ⟨hbefore', hleft'⟩ := List.append_subset.1 hbefore
    rw [collapse?]
    split
    · obtain ⟨joined, hjoined, hholds⟩ :=
        exists_joinRuns?_eq htrans capacity hsort hleft' hraw hleft hlast
      obtain ⟨waiting', last', before', raw', hcollapse, hwaits, hlast', happend, hzero⟩ :=
        ih hbefore' (List.append_subset.2 ⟨hleft', hraw⟩) hholds
      refine ⟨waiting', last', before', raw', ?_, hwaits, hlast', ?_, hzero⟩
      · rw [hjoined, Option.bind_eq_bind, Option.bind_some, hcollapse]
      · rw [happend, List.append_assoc]
    · exact ⟨_, _, _, _, rfl, .cons others hleft, hlast, rfl, by omega⟩

/-- The runs that wait and the ones to come are joined to one run of all items. -/
theorem exists_joinAll?_eq (length stop : Nat) {waiting : List (Run α × Nat)} {last : Run α}
    {runs : List (Run α)} {before raw after : List α} (hbefore : before ⊆ all) (hraw : raw ⊆ all)
    (hafter : after ⊆ all) (hwaits : Waits order isEager waiting before)
    (hlast : last.Holds order isEager raw) (hcovers : Covers order isEager runs after) :
    ∃ run, joinAll? order sort? capacity length waiting last stop runs = some run ∧
      run.Holds order isEager (before ++ raw ++ after) := by
  induction hcovers generalizing waiting last before raw stop with
  | nil =>
    obtain ⟨waiting', last', before', raw', hcollapse, -, hlast', happend, hzero⟩ :=
      exists_collapse?_eq htrans capacity hsort 0 hbefore hraw hwaits hlast
    rw [joinAll?, hcollapse]
    rw [hzero rfl, List.nil_append] at happend
    exact ⟨last', rfl, by rwa [List.append_nil, ← happend]⟩
  | @cons next runs stretch rest hnext hcovers ih =>
    obtain ⟨hstretch, hrest⟩ := List.append_subset.1 hafter
    rw [joinAll?]
    obtain ⟨waiting', last', before', raw', hcollapse, hwaits', hlast', happend, -⟩ :=
      exists_collapse?_eq htrans capacity hsort (nodeDepth length (stop - last.items.length) stop
        (stop + next.items.length)) hbefore hraw hwaits hlast
    have hsub : before' ++ raw' ⊆ all := happend ▸ List.append_subset.2 ⟨hbefore, hraw⟩
    obtain ⟨run, hrun, hholds⟩ := ih (stop + next.items.length) hsub hstretch hrest
      (hwaits'.cons hlast') hnext
    refine ⟨run, ?_, ?_⟩
    · simp only [hcollapse, Option.bind_eq_bind, Option.bind_some]
      exact hrun
    · rwa [happend, List.append_assoc (before ++ raw)] at hholds

/-- Sorting by runs is the stable sort. -/
theorem sortRuns?_eq {items : List α} (hitems : items ⊆ all) :
    sortRuns? order sort? capacity isEager items = some (stableSort order items) := by
  unfold sortRuns?
  by_cases hempty : items = []
  · rw [hempty, runs?]
    rfl
  · obtain ⟨runs, hruns, hcovers⟩ := exists_runs?_eq htrans isEager
      (enoughFor_pos (List.length_pos_iff.2 hempty)) hitems
    rw [hruns, Option.bind_eq_bind, Option.bind_some]
    cases hcovers with
    | nil => exact absurd rfl hempty
    | @cons first others raw rest hfirst hothers =>
      obtain ⟨hraw, hrest⟩ := List.append_subset.1 hitems
      obtain ⟨run, hrun, hholds⟩ := exists_joinAll?_eq htrans capacity hsort
        (raw ++ rest).length first.items.length (List.nil_subset all) hraw hrest .nil hfirst hothers
      simp only [hrun, Option.bind_eq_bind, Option.bind_some]
      exact sorted?_eq hsort hitems hholds

end

/-- Sorting by short runs that are sorted at once is the stable sort. -/
theorem sortEagerly?_eq {items : List α} (hitems : items ⊆ all) :
    sortEagerly? order items = some (stableSort order items) :=
  sortRuns?_eq htrans items.length (by simp) hitems

/-! ## Partition -/

/-- A stable sort in two parts, each item of the first one strictly before those of the second. -/
theorem stableSort_append {items : List α} (hitems : items ⊆ all) (isFirst : α → Bool)
    (hfirst : ∀ a ∈ items, ∀ b ∈ items, isFirst a → ¬ isFirst b → ¬ inOrder order b a) :
    stableSort order (items.filter isFirst) ++
        stableSort order (items.filter fun item => !isFirst item) =
      stableSort order items := by
  have hsub (p : α → Bool) : items.filter p ⊆ all := fun x hx => hitems (List.mem_filter.1 hx).1
  have hl := stablySorts_stableSort htrans (hsub isFirst)
  have hr := stablySorts_stableSort htrans (hsub fun item => !isFirst item)
  refine StablySorts.eq_stableSort ⟨?_, ?_, fun c hc => ?_⟩ htrans hitems
  · exact (hl.perm.append hr.perm).trans (List.filter_append_perm isFirst items)
  · refine List.pairwise_append.2 ⟨hl.pairwise, hr.pairwise, fun a ha b hb => ?_⟩
    obtain ⟨ha, ha'⟩ := List.mem_filter.1 (hl.perm.mem_iff.1 ha)
    obtain ⟨hb, hb'⟩ := List.mem_filter.1 (hr.perm.mem_iff.1 hb)
    exact inOrder_of_not (hfirst a ha b hb ha' (by simpa using hb'))
  · have hsame : ∀ a ∈ items, ∀ b ∈ items, isTied order c a → isTied order c b → isFirst a →
        isFirst b := by
      intro a ha b hb hca hcb hfirst'
      by_contra hb'
      have htied := htrans.isTied_trans (hitems hb) hc (hitems ha) (isTied_comm c b ▸ hcb) hca
      exact hfirst a ha b hb hfirst' hb' (isTied_iff.1 htied).1
    rw [List.filter_append, hl.ties c hc, hr.ties c hc, List.filter_filter, List.filter_filter]
    by_cases h : ∃ a ∈ items, isTied order c a ∧ isFirst a
    · obtain ⟨a, ha, hca, hfirst'⟩ := h
      have hall : ∀ b ∈ items, isTied order c b → isFirst b :=
        fun b hb hcb => hsame a ha b hb hca hcb hfirst'
      have hnil : items.filter (fun b => isTied order c b && !isFirst b) = [] := by
        simpa [List.filter_eq_nil_iff] using hall
      rw [hnil, List.append_nil]
      exact List.filter_congr fun b hb => by simpa using hall b hb
    · have hnone : ∀ b ∈ items, isTied order c b → isFirst b = false := by simpa using h
      have hnil : items.filter (fun b => isTied order c b && isFirst b) = [] := by
        simpa [List.filter_eq_nil_iff] using hnone
      rw [hnil, List.nil_append]
      exact List.filter_congr fun b hb => by simpa using hnone b hb

omit htrans [OrientedCmp order] in
theorem medianPlace_lt {isBefore : Nat → Nat → Bool} {a b c bound : Nat} (ha : a < bound)
    (hb : b < bound) (hc : c < bound) : medianPlace isBefore a b c < bound := by
  unfold medianPlace
  split
  · split
    · exact hb
    · exact hc
  · exact ha

omit htrans [OrientedCmp order] in
theorem pseudoMedian_lt {isBefore : Nat → Nat → Bool} {a b c n bound : Nat} (hn : 0 < n)
    (ha : a + n ≤ bound) (hb : b + n ≤ bound) (hc : c + n ≤ bound) :
    pseudoMedian isBefore a b c n < bound := by
  induction n using Nat.strongRecOn generalizing a b c with
  | ind n ih =>
    rw [pseudoMedian]
    split
    · have hpart {start : Nat} (h : start + n ≤ bound) :
          pseudoMedian isBefore start (start + n / 8 * 4) (start + n / 8 * 7) (n / 8) < bound :=
        ih (n / 8) (by omega) (by omega) (by omega) (by omega) (by omega)
      exact medianPlace_lt (hpart ha) (hpart hb) (hpart hc)
    · exact medianPlace_lt (by omega) (by omega) (by omega)

omit htrans [OrientedCmp order] in
/-- The pivot is one of the items. -/
theorem exists_pivot?_eq {items : List α} (h : 8 ≤ items.length) :
    ∃ pivot ∈ items, pivot? order items = some pivot := by
  simp only [pivot?]
  rw [List.getElem?_eq_getElem
    (pseudoMedian_lt (by omega) (by omega) (by omega) (by omega))]
  exact ⟨_, List.getElem_mem _, rfl⟩

section

variable {items : List α} {pivot : α}

/-- The items before a pivot and the others. -/
theorem stableSort_before_pivot (hitems : items ⊆ all) (hpivot : pivot ∈ items) :
    stableSort order (items.filter fun item => !inOrder order pivot item) ++
        stableSort order (items.filter (inOrder order pivot)) =
      stableSort order items := by
  have h := stableSort_append htrans hitems (fun item => !inOrder order pivot item) ?_
  · simpa using h
  · intro a ha b hb hfirst hsecond hba
    simp only [Bool.not_eq_true', Bool.not_eq_false] at hfirst hsecond
    have hpb : inOrder order pivot b := by simpa using hsecond
    have hpa := htrans.inOrder_trans (hitems hpivot) (hitems hb) (hitems ha) hpb hba
    simp [hpa] at hfirst

/-- If no item is before a pivot, the items that are not behind it are tied, and stay as they
stand. -/
theorem stableSort_behind_pivot (hitems : items ⊆ all) (hpivot : pivot ∈ items)
    (hfirst : ∀ item ∈ items, inOrder order pivot item) :
    (items.filter fun item => inOrder order item pivot) ++
        stableSort order (items.filter fun item => !inOrder order item pivot) =
      stableSort order items := by
  rw [← stableSort_append htrans hitems (fun item => inOrder order item pivot)]
  · congr 1
    have htied : (items.filter fun item => inOrder order item pivot).Pairwise
        fun a b => inOrder order a b := by
      refine List.pairwise_of_forall_mem_list fun a ha b hb => ?_
      obtain ⟨ha, ha'⟩ := List.mem_filter.1 ha
      obtain ⟨hb, -⟩ := List.mem_filter.1 hb
      exact htrans.inOrder_trans (hitems ha) (hitems hpivot) (hitems hb) ha' (hfirst b hb)
    exact (stablySorts_self htied).eq_stableSort htrans fun x hx => hitems (List.mem_filter.1 hx).1
  · intro a ha b hb hap hbp hba
    exact hbp (htrans.inOrder_trans (hitems hb) (hitems ha) (hitems hpivot) hba hap)

end

/-- **Partitioning is a stable sort**, whatever the limit: the ancestor bounds all items from below,
so those that are tied with it are in order already. -/
theorem sortParts?_eq (limit : Nat) {ancestor : Option α} {items : List α} (hitems : items ⊆ all)
    (hancestor : ∀ a, ancestor = some a → a ∈ all ∧ ∀ item ∈ items, inOrder order a item) :
    sortParts? order limit ancestor items = some (stableSort order items) := by
  induction limit generalizing ancestor items with
  | zero =>
    rw [sortParts?]
    split
    · exact sortPiece?_eq htrans hitems
    · exact sortEagerly?_eq htrans hitems
  | succ limit ih =>
    have hsub (p : α → Bool) : items.filter p ⊆ all := fun x hx => hitems (List.mem_filter.1 hx).1
    rw [sortParts?]
    split
    · exact sortPiece?_eq htrans hitems
    · next hlong =>
      have hlength : 8 ≤ items.length := by
        unfold pieceLength at hlong
        omega
      obtain ⟨pivot, hpivot, heq⟩ : ∃ pivot ∈ items, pivot? order items = some pivot :=
        exists_pivot?_eq hlength
      rw [heq, Option.bind_eq_bind, Option.bind_some]
      dsimp only
      split
      · next hequal =>
        have hfirst : ∀ item ∈ items, inOrder order pivot item := by
          rcases Bool.or_eq_true_iff.1 hequal with hnone | htied
          · simpa using hnone
          · -- the pivot is tied with the ancestor, which no item precedes
            cases ancestor with
            | none => cases htied
            | some a =>
              obtain ⟨ha, hbehind⟩ := hancestor a rfl
              exact fun item hitem =>
                htrans.inOrder_trans (hitems hpivot) ha (hitems hitem) htied (hbehind item hitem)
        rw [ih (hsub _) (by simp), Option.bind_eq_bind, Option.bind_some,
          ← stableSort_behind_pivot htrans hitems hpivot hfirst]
        rfl
      · rw [ih (hsub _) ?_, Option.bind_eq_bind, Option.bind_some, ih (hsub _) ?_,
          Option.bind_some, ← stableSort_before_pivot htrans hitems hpivot]
        · rfl
        · intro a ha
          exact ⟨(hancestor a ha).1, fun item hitem =>
            (hancestor a ha).2 item (List.mem_filter.1 hitem).1⟩
        · rintro a h
          obtain rfl : pivot = a := Option.some.inj h
          exact ⟨hitems hpivot, fun item hitem => (List.mem_filter.1 hitem).2⟩

/-! ## Sorting -/

omit [OrientedCmp order] htrans in
/-- The sort of at most 20 items goes by insertion, which never breaks down. -/
theorem sort?_of_length_le {items : List α} (h : items.length ≤ 20) :
    sort? order items = some (stableSort order items) :=
  if_pos h

omit htrans in
/-- **The sort is the stable sort** of a list on which the order is transitive, and does not break
down there. -/
theorem sort?_eq_stableSort {items : List α} (htrans : TransitiveOn order items) :
    sort? order items = some (stableSort order items) := by
  have hself : items ⊆ items := List.Subset.refl _
  simp only [sort?]
  split
  · rfl
  · exact sortRuns?_eq htrans _ (fun _ part hpart => sortParts?_eq htrans _ hpart (by simp)) hself

end DiagnosticReport
