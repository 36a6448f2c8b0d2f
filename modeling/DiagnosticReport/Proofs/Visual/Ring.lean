import DiagnosticReport.Proofs.Binary64.Addition
import DiagnosticReport.Proofs.Binary64.Scale
import DiagnosticReport.Proofs.Binary64.Value
import DiagnosticReport.Proofs.Chart.Donut
import DiagnosticReport.Proofs.Chart.Elements
import DiagnosticReport.Proofs.Markup.Openings
import DiagnosticReport.Visual.Series

/-!
# Whether a donut chart shows its data

A section draws its donut chart if one of the values is positive and finite, while the chart has
segments if the total is. In floats the total is no smaller than any of the values, so the two tests
differ only where it leaves the finite floats: then there are values to show, but the ring has no
segments and stays grey (`drawDonutChart_ring`).
-/

namespace DiagnosticReport

namespace Donut

open Binary64 Markup

/-! ## Values -/

theorem nonNegative_eq (x : Float) :
    nonNegative x = if isFinite x ∧ lessEq 0.0 x then x else 0.0 := by
  have hlargest : isFinite largestFloat ∧ rank largestFloat = (infinite : Int) - 1 := by
    decide +kernel
  have hinfinite : infinite = 2047 * 2 ^ 52 := rfl
  by_cases hfinite : isFinite x
  · have hrank := isFinite_iff.1 hfinite
    have hsanitize := sanitize_eq hlargest.1 (by omega) hfinite
    rw [nonNegative, hsanitize]
    simp only [hfinite, true_and, lessEq_iff, rank_zero]
    split
    · exact (if_neg (by omega)).symm
    · rw [if_neg (by omega), if_pos (by omega)]
  · rw [if_neg fun h => hfinite h.1]
    exact if_neg hfinite

theorem lessEq_nonNegative (x : Float) : lessEq 0.0 (nonNegative x) := by
  rw [nonNegative_eq]
  split
  · next h => exact h.2
  · decide

/-- A value that is shown counts as it is, and any other one as nothing. -/
theorem less_nonNegative (slice : Slice Float) :
    less 0.0 (nonNegative slice.value) = isShown slice ∧
      (isShown slice → nonNegative slice.value = slice.value) := by
  have hshown : isShown slice ↔ isFinite slice.value ∧ less 0.0 slice.value :=
    Bool.and_eq_true_iff
  rw [nonNegative_eq]
  split
  · next h => exact ⟨Bool.eq_iff_iff.2 (by simp [hshown, h.1]), fun _ => rfl⟩
  · next h =>
    have hnot : ¬ isShown slice := fun hs => h ((hshown.1 hs).imp_right lessEq_of_less)
    exact ⟨(Bool.eq_false_iff.2 hnot).symm ▸ by decide, fun hs => absurd hs hnot⟩

/-! ## Segments -/

/-- The total of a series, as the chart computes it. -/
def floatTotal (data : List (Slice Float)) : Float :=
  Scalar.sum (data.map fun slice => nonNegative slice.value)

theorem less_zero_floatTotal {data : List (Slice Float)} {slice : Slice Float}
    (hslice : slice ∈ data) (hshown : isShown slice) : less 0.0 (floatTotal data) := by
  have hvalues : ∀ x ∈ data.map fun slice => nonNegative slice.value, lessEq 0.0 x :=
    List.forall_mem_map.2 fun slice _ => lessEq_nonNegative slice.value
  have hle := (lessEq_sum hvalues).2 _ (List.mem_map_of_mem hslice)
  obtain ⟨hless, heq⟩ := less_nonNegative slice
  exact less_of_less_of_lessEq (hless.trans hshown) hle

theorem map_segmentsFrom (total angle : Float) (i : Nat) (data : List (Slice Float)) :
    (segmentsFrom largestFloat total angle i data).map (fun s => (s.label, s.value)) =
      (data.filter isShown).map fun slice => (slice.label, slice.value) := by
  induction data generalizing angle i with
  | nil => rfl
  | cons slice data ih =>
    obtain ⟨hless, heq⟩ := less_nonNegative slice
    rw [segmentsFrom, List.filter_cons]
    show List.map _ (if less 0.0 (nonNegative slice.value) then _ else _) = _
    rw [hless]
    by_cases hshown : isShown slice
    · rw [if_pos hshown, if_pos hshown, List.map_cons, List.map_cons, ih]
      exact congrArg (fun value => (slice.label, value) :: _) (heq hshown)
    · rw [if_neg hshown, if_neg hshown, ih]

/-- A chart has one segment for each value that is shown, or none if the total is not finite. -/
theorem map_floatSegments (data : List (Slice Float)) :
    (floatSegments data).map (fun s => (s.label, s.value)) =
      if isFinite (floatTotal data) then
        (data.filter isShown).map fun slice => (slice.label, slice.value)
      else [] := by
  show List.map _ (if isFinite (floatTotal data) && less 0.0 (floatTotal data) then
    segmentsFrom largestFloat (floatTotal data) (-90.0) 0 data else []) = _
  by_cases hfinite : isFinite (floatTotal data)
  · rw [if_pos hfinite, hfinite, Bool.true_and]
    by_cases hpos : less 0.0 (floatTotal data)
    · rw [if_pos hpos, map_segmentsFrom]
    · have hnone : data.filter isShown = [] :=
        List.filter_eq_nil_iff.2 fun slice hslice hshown =>
          hpos (less_zero_floatTotal hslice hshown)
      rw [if_neg hpos, hnone]
      rfl
  · rw [if_neg hfinite, Bool.eq_false_iff.2 hfinite, Bool.false_and, if_neg Bool.false_ne_true]
    rfl

/-! ## The grey ring -/

theorem occurrences_emptyRing (data : List (Slice Float)) (config : Config Float)
    (center : Option String) :
    occurrences "<circle class=\"donut-empty\"" (draw data config center).render =
      if floatSegments data = [] then 1 else 0 := by
  have hsegments (segments : List (Segment Float)) :
      (concat (segments.map (drawSegment config))).opened "circle class=\"donut-empty\"" = [] :=
    opened_concat_eq_nil (List.forall_mem_map.2 fun _ _ => rfl)
  have hcenter : (Markup.optional (center.map (centerText config))).opened
      "circle class=\"donut-empty\"" = [] := by
    cases center <;> rfl
  have hlegend (segments : List (Segment Float)) :
      (concat (segments.mapIdx (legendRow config))).opened "circle class=\"donut-empty\"" = [] := by
    refine opened_concat_eq_nil fun piece hpiece => ?_
    obtain ⟨i, hi, rfl⟩ := List.mem_mapIdx.1 hpiece
    rfl
  have hcount := (uses_draw data config center).occurrences_eq
    (show IsOpening "circle class=\"donut-empty\"" by decide)
  rw [draw, canvas, opened_element_of_not_opens rfl] at hcount
  refine hcount.trans ?_
  simp only [opened_append, hsegments, hcenter, hlegend, List.append_nil, List.isEmpty_iff]
  split <;> rfl

end Donut

namespace Visual

open Binary64 Donut

/-- **The guard and the ring agree up to overflow.** Without a positive finite value a section draws
a message, with one it draws the chart. The chart then has a segment for each such value, in their
order, and no grey ring, just if the total of the floats is finite; if it is not, there is no
segment and the ring is grey. -/
theorem drawDonutChart_ring (data : List (Slice Float)) :
    let shown := data.filter isShown
    let total := floatTotal data
    (∀ bindings s options, slices bindings s = data →
      drawDonutChart bindings s options =
        if shown = [] then emptyState "No data available"
        else draw data (.withSize ((s.numberOption? "size").getD 220.0))
          (s.textOption? "center_label")) ∧
    (floatSegments data).map (fun s => (s.label, s.value)) =
      (if isFinite total then shown.map fun slice => (slice.label, slice.value) else []) ∧
    (shown ≠ [] → (floatSegments data ≠ [] ↔ isFinite total)) ∧
    ∀ config center, occurrences "<circle class=\"donut-empty\"" (draw data config center).render =
      if floatSegments data = [] then 1 else 0 := by
  intro shown total
  have hsegments := map_floatSegments data
  refine ⟨fun bindings s options hslices => ?_, hsegments, fun hshown => ?_,
    occurrences_emptyRing data⟩
  · have hguard : data.any isShown ↔ ¬ shown = [] := by
      rw [List.any_eq_true, List.filter_eq_nil_iff]
      simp
    rw [drawDonutChart, hslices]
    by_cases hnone : shown = []
    · rw [if_pos hnone]
      exact if_neg fun hany => hguard.1 hany hnone
    · rw [if_neg hnone]
      exact if_pos (hguard.2 hnone)
  · have hnone : floatSegments data = [] ↔ ¬ isFinite total := by
      rw [← List.map_eq_nil_iff, hsegments]
      split
      · next hfinite => exact iff_of_false (mt List.map_eq_nil_iff.1 hshown) (not_not.2 hfinite)
      · next hfinite => exact iff_of_true rfl hfinite
    rw [Ne, hnone, not_not]

/-- Two values of 1e308 are both shown, but they add up to more than the largest float. -/
theorem drawDonutChart_ring_grey_of_overflow :
    let slice (label : String) : Slice Float := { label, value := 1e308 }
    let data := [slice "A", slice "B"]
    (∀ slice ∈ data, isShown slice) ∧ floatSegments data = [] := by
  intro slice data
  refine ⟨by decide +kernel, List.isEmpty_iff.1 (by decide +kernel)⟩

end Visual

end DiagnosticReport
