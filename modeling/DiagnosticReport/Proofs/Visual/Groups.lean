import DiagnosticReport.Proofs.Binary64.Whole
import DiagnosticReport.Visual.Series
import Mathlib.Algebra.BigOperators.Group.List.Lemmas
import Mathlib.Data.List.Basic
import Mathlib.Data.List.Induction

/-!
# Groups of items

Counting one more key keeps a list of groups a histogram of the keys so far, so the slices of a
grouped donut chart are the histogram of its items (`Visual.slices_histogram`). The counts are
floats; they are exact below `2 ^ 53`.
-/

namespace DiagnosticReport

open Binary64

/-! ## Sums of counts -/

theorem Scalar.sum_ofNat {ns : List Nat} (h : ns.sum < 2 ^ 53) :
    Scalar.sum (ns.map Float.ofNat) = Float.ofNat ns.sum := by
  suffices hfoldl : ∀ start, start + ns.sum < 2 ^ 53 →
      (ns.map Float.ofNat).foldl (· + ·) (Float.ofNat start) = Float.ofNat (start + ns.sum) by
    have hzero : (0.0 : Float) = Float.ofNat 0 := rfl
    rw [Scalar.sum, hzero, hfoldl 0 (by omega), Nat.zero_add]
  clear h
  induction ns with
  | nil => exact fun start _ => rfl
  | cons n ns ih =>
    intro start h
    rw [List.sum_cons] at h
    rw [List.map_cons, List.foldl_cons, ofNat_add_ofNat (by omega), ih _ (by omega), List.sum_cons,
      Nat.add_assoc]

namespace Visual

/-! ## Counting one more -/

section

variable {groups : List (String × Float)} {key : String}

theorem map_fst_countInto :
    (countInto groups key).map Prod.fst =
      if key ∈ groups.map Prod.fst then groups.map Prod.fst else groups.map Prod.fst ++ [key] := by
  induction groups with
  | nil => rfl
  | cons group groups ih =>
    obtain ⟨name, n⟩ := group
    rw [countInto]
    by_cases h : name = key
    · simp [h]
    · rw [if_neg h, List.map_cons, ih]
      simp only [List.map_cons, List.mem_cons, Ne.symm h, false_or]
      split <;> rfl

/-- After one more key a group is another one as it was, or the group of the key with one more
member, or a new group. -/
theorem mem_countInto (hnodup : (groups.map Prod.fst).Nodup) {group : String × Float}
    (h : group ∈ countInto groups key) :
    (group.1 ≠ key ∧ group ∈ groups) ∨
      (∃ n, (key, n) ∈ groups ∧ group = (key, n + 1.0)) ∨
      (key ∉ groups.map Prod.fst ∧ group = (key, 1.0)) := by
  induction groups with
  | nil => exact .inr (.inr ⟨List.not_mem_nil, List.mem_singleton.1 h⟩)
  | cons first groups ih =>
    obtain ⟨name, n⟩ := first
    obtain ⟨hname, hnodup⟩ := List.nodup_cons.1 hnodup
    rw [countInto] at h
    by_cases hkey : name = key
    case pos =>
      subst hkey
      rw [if_pos rfl] at h
      rcases List.mem_cons.1 h with rfl | h
      · exact .inr (.inl ⟨n, List.mem_cons_self, rfl⟩)
      · exact .inl ⟨fun heq => hname (List.mem_map.2 ⟨_, h, heq⟩), List.mem_cons_of_mem _ h⟩
    case neg =>
      rw [if_neg hkey] at h
      rcases List.mem_cons.1 h with rfl | h
      · exact .inl ⟨hkey, List.mem_cons_self⟩
      · rcases ih hnodup h with ⟨hne, hmem⟩ | ⟨m, hmem, heq⟩ | ⟨hnew, heq⟩
        · exact .inl ⟨hne, List.mem_cons_of_mem _ hmem⟩
        · exact .inr (.inl ⟨m, List.mem_cons_of_mem _ hmem, heq⟩)
        · refine .inr (.inr ⟨?_, heq⟩)
          simpa [Ne.symm hkey] using hnew

end

/-! ## Histograms -/

/-- Groups are a histogram of keys: they have the keys as their names, in the order in which the
keys first occur, and the sizes are exact as far as floats count exactly. -/
structure IsHistogram (keys : List String) (groups : List (String × Float)) : Prop where
  mem_iff (key : String) : key ∈ groups.map Prod.fst ↔ key ∈ keys
  ordered : (groups.map Prod.fst).Pairwise fun a b => keys.idxOf a < keys.idxOf b
  counted : ∀ group ∈ groups, keys.count group.1 < 2 ^ 53 →
    group.2 = Float.ofNat (keys.count group.1)

namespace IsHistogram

variable {keys : List String} {groups : List (String × Float)}

theorem empty : IsHistogram [] [] where
  mem_iff _ := Iff.rfl
  ordered := .nil
  counted _ h := nomatch h

theorem nodup (h : IsHistogram keys groups) : (groups.map Prod.fst).Nodup :=
  h.ordered.imp fun hlt heq => hlt.ne (congrArg keys.idxOf heq)

/-- Counting one more key keeps a histogram. -/
theorem countInto (h : IsHistogram keys groups) (key : String) :
    IsHistogram (keys ++ [key]) (countInto groups key) where
  mem_iff other := by
    rw [map_fst_countInto, List.mem_append, List.mem_singleton, ← h.mem_iff]
    split
    next hkey => exact ⟨.inl, fun hother => hother.elim id fun heq => heq ▸ hkey⟩
    next => rw [List.mem_append, List.mem_singleton]
  ordered := by
    have hidx {name : String} (hname : name ∈ groups.map Prod.fst) :
        (keys ++ [key]).idxOf name = keys.idxOf name :=
      List.idxOf_append_of_mem ((h.mem_iff name).1 hname)
    have hold : (groups.map Prod.fst).Pairwise fun a b =>
        (keys ++ [key]).idxOf a < (keys ++ [key]).idxOf b := by
      refine h.ordered.imp_of_mem fun ha hb hlt => ?_
      rwa [hidx ha, hidx hb]
    rw [map_fst_countInto]
    split
    next => exact hold
    next hkey =>
      refine List.pairwise_append.2 ⟨hold, List.pairwise_singleton _ _, ?_⟩
      intro name hname new hnew
      obtain rfl := List.mem_singleton.1 hnew
      rw [hidx hname, List.idxOf_append_of_notMem fun hmem => hkey ((h.mem_iff _).2 hmem)]
      exact Nat.lt_add_right _ (List.idxOf_lt_length_of_mem ((h.mem_iff name).1 hname))
  counted group hgroup hsmall := by
    rw [List.count_append] at hsmall ⊢
    rcases mem_countInto h.nodup hgroup with ⟨hne, hmem⟩ | ⟨n, hmem, rfl⟩ | ⟨hnew, rfl⟩
    · have hzero : [key].count group.1 = 0 := List.count_eq_zero.2 (by simpa using hne)
      rw [hzero, Nat.add_zero] at hsmall ⊢
      exact h.counted group hmem hsmall
    · have hone : (1.0 : Float) = Float.ofNat 1 := rfl
      simp only [List.count_singleton_self] at hsmall ⊢
      have hn : n = Float.ofNat (keys.count key) := h.counted _ hmem (Nat.lt_of_succ_lt hsmall)
      rw [hn, hone, ofNat_add_ofNat hsmall]
    · have hzero : keys.count key = 0 :=
        List.count_eq_zero.2 fun hmem => hnew ((h.mem_iff _).2 hmem)
      simp only [hzero, List.count_singleton_self]
      rfl

/-- Counting keys one after the other gives their histogram. -/
theorem foldl_countInto (keys : List String) :
    IsHistogram keys (keys.foldl Visual.countInto []) := by
  induction keys using List.reverseRecOn with
  | nil => exact empty
  | append_singleton keys key ih =>
    rw [List.foldl_append]
    exact ih.countInto key

/-- The sizes of a histogram add up to the number of keys. -/
theorem sum_counts (h : IsHistogram keys groups) :
    ((groups.map Prod.fst).map fun name => keys.count name).sum = keys.length := by
  have hperm : (groups.map Prod.fst).Perm keys.dedup :=
    (List.perm_ext_iff_of_nodup h.nodup keys.nodup_dedup).2 fun name =>
      (h.mem_iff name).trans List.mem_dedup.symm
  rw [(hperm.map _).sum_eq]
  exact List.sum_map_count_dedup_eq_length keys

theorem sum_sizes (h : IsHistogram keys groups) (hsmall : keys.length < 2 ^ 53) :
    Scalar.sum (groups.map Prod.snd) = Float.ofNat keys.length := by
  have hsizes : groups.map Prod.snd =
      ((groups.map Prod.fst).map fun name => keys.count name).map Float.ofNat := by
    rw [List.map_map, List.map_map]
    exact List.map_congr_left fun group hgroup =>
      h.counted group hgroup (List.count_le_length.trans_lt hsmall)
  rw [hsizes, Scalar.sum_ofNat (h.sum_counts ▸ hsmall), h.sum_counts]

end IsHistogram

/-! ## Slices -/

theorem groupOf_eq (field : String) (item : Json) :
    groupOf field item = match item.get? field with
      | .none | some .null => "Other"
      | some value => value.text := by
  unfold groupOf Json.present?
  cases item.get? field with
  | none => rfl
  | some value => cases value <;> rfl

theorem groupCounts_isHistogram (field : String) (items : List Json) :
    IsHistogram (items.map (groupOf field)) (groupCounts field items) :=
  .foldl_countInto _

/-- **Grouped slices** are the histogram of the items. The key of an item is the text of its field,
or `Other` if it is missing or null. The labels are the keys, each once and in the order in which
they first occur; the value of a slice is the number of items with its label as their key, and the
values add up to the number of items. -/
theorem slices_histogram (bindings : Bindings) {s : Section} {field : String}
    (hfield : s.textOption? "group_by" = some field) :
    let items := Item.all s bindings.primary?
    let keys := items.map (groupOf field)
    let labels := (slices bindings s).map fun slice => slice.label
    let size (label : String) := items.countP fun item => groupOf field item = label
    (∀ item, groupOf field item = match item.get? field with
      | .none | some .null => "Other"
      | some value => value.text) ∧
    labels.Nodup ∧
    (labels.Pairwise fun a b => keys.idxOf a < keys.idxOf b) ∧
    (∀ label, label ∈ labels ↔ ∃ item ∈ items, groupOf field item = label) ∧
    (∀ slice ∈ slices bindings s, size slice.label < 2 ^ 53 →
      slice.value = Float.ofNat (size slice.label)) ∧
    (items.length < 2 ^ 53 →
      Scalar.sum ((slices bindings s).map fun slice => slice.value) =
        Float.ofNat items.length) := by
  intro items keys labels size
  have hslices : slices bindings s = groupSlices field items := by
    rw [slices, hfield]
  have hgroups : IsHistogram keys (groupCounts field items) := groupCounts_isHistogram field items
  have hlabels : labels = (groupCounts field items).map Prod.fst := by
    simp only [labels, hslices, groupSlices, List.map_map, Function.comp_def]
  have hsize (label : String) : size label = keys.count label := by
    simp only [size, keys, List.count, List.countP_map, Function.comp_def, beq_eq_decide]
  refine ⟨groupOf_eq field, hlabels ▸ hgroups.nodup, hlabels ▸ hgroups.ordered, ?_, ?_, ?_⟩
  · intro label
    rw [hlabels, hgroups.mem_iff, List.mem_map]
  · intro slice hslice hsmall
    rw [hslices] at hslice
    obtain ⟨group, hgroup, rfl⟩ := List.mem_map.1 hslice
    rw [hsize] at hsmall ⊢
    exact hgroups.counted group hgroup hsmall
  · intro hsmall
    have hlength : keys.length = items.length := List.length_map ..
    rw [hslices, groupSlices, List.map_map, ← hlength]
    exact hgroups.sum_sizes (hlength ▸ hsmall)

/-- Keys of different types with one text, a missing and a null field, and a field that says
`Other` itself. -/
theorem slices_histogram_of_mixed_types :
    let item (type : Json) : Json := .object [("type", type)]
    let items : List Json := [item (.string "1"), item .null, item (.number (.int 1)),
      item (.string "Other"), .object []]
    let bindings : Bindings := ⟨[("d", some (.array items))]⟩
    let s : Section := { id := "s", options := .object [("group_by", .string "type")] }
    let slices := slices bindings s
    slices.map (fun slice => slice.label) = ["1", "Other"] ∧
    (∀ slice ∈ slices, slice.label = "Other" → slice.value = Float.ofNat 3) ∧
    Scalar.sum (slices.map fun slice => slice.value) = Float.ofNat 5 := by
  intro item items bindings s slices
  have hfield : s.textOption? "group_by" = some "type" := rfl
  obtain ⟨-, -, -, -, hvalues, hsum⟩ := slices_histogram bindings hfield
  refine ⟨by decide +kernel, fun slice hslice hlabel => ?_, hsum (by decide)⟩
  have hsize : items.countP (fun item => groupOf "type" item = slice.label) = 3 := by
    rw [hlabel]
    decide +kernel
  exact (hvalues slice hslice (hsize.trans_lt (by decide))).trans (congrArg Float.ofNat hsize)

end Visual

end DiagnosticReport
