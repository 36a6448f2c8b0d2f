import DiagnosticReport.Chart.Donut
import DiagnosticReport.Proofs.Chart.Contiguous
import DiagnosticReport.Proofs.Chart.Exact
import Mathlib.Algebra.BigOperators.Ring.List
import Mathlib.Algebra.Order.BigOperators.Group.List

/-!
# The ring of a donut chart

Without rounding the segments of a chart go once around the ring: each starts where the one before
ends, and the running angle has advanced by 360 times the share of the values so far (`IsWalk`).
What is drawn of a segment never spans the whole ring (`segments_exact`).
-/

namespace DiagnosticReport.Donut

open Binary64

/-! ## Exact segments -/

section

variable {α β : Type} (f : α → β)

def Slice.map (slice : Slice α) : Slice β :=
  { label := slice.label, value := f slice.value, color := slice.color }

def Arc.map (arc : Arc α) : Arc β :=
  ⟨f arc.start, f arc.finish, arc.isLarge⟩

def Segment.map (s : Segment α) : Segment β :=
  { label := s.label, value := f s.value, percent := f s.percent, startAngle := f s.startAngle,
    endAngle := f s.endAngle, sweep := f s.sweep, color := s.color, arcs := s.arcs.map (Arc.map f) }

end

/-- A positive finite value. -/
def isShown (slice : Slice Float) : Bool :=
  isFinite slice.value && less 0.0 slice.value

/-- A slice that is shown has a positive value. -/
theorem value_pos_of_isShown {slice : Slice Float} (h : isShown slice) : 0 < value slice.value := by
  obtain ⟨hfinite, hpos⟩ := Bool.and_eq_true_iff.1 h
  rwa [less_iff_value (by decide) hfinite, value_zero] at hpos

/-- The arc between two angles. -/
def arcBetween (start finish : ℚ) : Arc ℚ :=
  ⟨start, finish, decide (180 < finish - start)⟩

/-- The segment of a value that starts at an angle. -/
structure IsPart (total angle : ℚ) (slice : Slice Float) (s : Segment ℚ) : Prop where
  label_eq : s.label = slice.label
  value_eq : s.value = value slice.value
  startAngle_eq : s.startAngle = angle
  sweep_eq : s.sweep = 360 * (s.value / total)
  endAngle_eq : s.endAngle = s.startAngle + s.sweep
  percent_eq : s.percent = 100 * (s.value / total)
  arcs_eq : s.arcs =
    if s.sweep < 359.999 then [arcBetween s.startAngle s.endAngle]
    else [arcBetween s.startAngle (s.startAngle + 180), arcBetween (s.startAngle + 180) s.endAngle]

/-- The segments of values one after the other, the first of which starts at an angle. -/
inductive IsWalk (total : ℚ) : ℚ → List (Slice Float) → List (Segment ℚ) → Prop
  | nil {angle : ℚ} : IsWalk total angle [] []
  | cons {angle : ℚ} {slice : Slice Float} {s : Segment ℚ} {slices : List (Slice Float)}
      {parts : List (Segment ℚ)} (first : IsPart total angle slice s)
      (rest : IsWalk total s.endAngle slices parts) :
      IsWalk total angle (slice :: slices) (s :: parts)

/-! ## The code runs the walk -/

theorem finite_literals :
    (100.0 : Extended ℚ) = .finite 100 ∧ (180.0 : Extended ℚ) = .finite 180 ∧
      (360.0 : Extended ℚ) = .finite 360 ∧ (-90.0 : Extended ℚ) = .finite (-90) := by
  simp only [Extended.ofScientific_eq, Extended.neg_finite]
  norm_num

/-- In exact numbers, the code draws the arc between two angles. -/
theorem arc_finite (start finish : ℚ) :
    arc (Extended.finite start) (.finite finish) = (arcBetween start finish).map .finite := by
  rw [arc, finite_literals.2.1, Extended.finite_sub_finite, Extended.less_finite]
  rfl

/-- A segment of nearly the whole circle is drawn as two halves, any other as one arc. -/
theorem arcs_finite (start sweep finish : ℚ) :
    arcs (Extended.finite start) (.finite sweep) (.finite finish) =
      (if sweep < 359.999 then [arcBetween start finish]
      else [arcBetween start (start + 180), arcBetween (start + 180) finish]).map
        (Arc.map .finite) := by
  have hnear : (359.999 : Extended ℚ) = .finite 359.999 := rfl
  unfold arcs
  simp only [hnear, finite_literals.2.1, Extended.less_finite, Extended.finite_add_finite,
    arc_finite, decide_eq_true_eq]
  split <;> rfl

/-- In exact numbers, the code draws the part of a slice. -/
theorem exists_segment {total : ℚ} (htotal : 0 < total) (angle : ℚ) (i : Nat)
    (slice : Slice Float) :
    ∃ s, segment (.finite total) (.finite angle) i (.finite (value slice.value))
      (slice.map Extended.ofFloat) = s.map .finite ∧ IsPart total angle slice s := by
  generalize hv : value slice.value = v
  let sweep := v / total * 360
  let s : Segment ℚ :=
    { label := slice.label, value := v, percent := v / total * 100, startAngle := angle,
      endAngle := angle + sweep, sweep, color := colorAt i slice.color,
      arcs := if sweep < 359.999 then [arcBetween angle (angle + sweep)]
        else [arcBetween angle (angle + 180), arcBetween (angle + 180) (angle + sweep)] }
  refine ⟨s, ?_, ⟨rfl, hv.symm, rfl, mul_comm .., rfl, mul_comm .., rfl⟩⟩
  simp only [segment, finite_literals.1, finite_literals.2.2.1,
    Extended.finite_div_finite htotal.ne', Extended.finite_mul_finite,
    Extended.finite_add_finite, arcs_finite]
  rfl

/-- One value more: a value that is shown adds its segment, any other one adds nothing. -/
theorem exists_segmentsFrom {total : ℚ} (htotal : 0 < total) (data : List (Slice Float))
    (angle : ℚ) (i : Nat) :
    ∃ parts, segmentsFrom (.ofFloat largestFloat) (.finite total) (.finite angle) i
        (data.map (Slice.map Extended.ofFloat)) = parts.map (Segment.map .finite) ∧
      IsWalk total angle (data.filter isShown) parts := by
  induction data generalizing angle i with
  | nil => exact ⟨[], rfl, .nil⟩
  | cons slice data ih =>
    rw [List.map_cons, segmentsFrom, List.filter_cons]
    have hvalue : Scalar.sanitize (slice.map Extended.ofFloat).value (.ofFloat largestFloat) =
        .finite (if isShown slice then value slice.value else 0) :=
      Extended.sanitize_ofFloat slice.value
    simp only [hvalue, Extended.zero_eq, Extended.less_finite]
    by_cases hshown : isShown slice
    · obtain ⟨s, hs, hpart⟩ := exists_segment htotal angle i slice
      obtain ⟨parts, hparts, hwalk⟩ := ih s.endAngle (i + 1)
      refine ⟨s :: parts, ?_, ?_⟩
      · simp only [hshown, if_true, decide_eq_true (value_pos_of_isShown hshown), hs]
        exact congrArg (_ :: ·) hparts
      · rw [if_pos hshown]
        exact .cons hpart hwalk
    · simp only [hshown, Bool.false_eq_true, if_false, lt_irrefl, decide_false]
      exact ih ..

/-- The total of the values that are shown. -/
def shownTotal (data : List (Slice Float)) : ℚ :=
  ((data.filter isShown).map fun slice => value slice.value).sum

theorem sum_sanitize (data : List (Slice Float)) :
    Scalar.sum ((data.map (Slice.map Extended.ofFloat)).map fun slice =>
      Scalar.sanitize slice.value (.ofFloat largestFloat)) = .finite (shownTotal data) := by
  have hvalue : (data.map (Slice.map Extended.ofFloat)).map (fun slice =>
      Scalar.sanitize slice.value (.ofFloat largestFloat)) =
      (data.map fun slice => if isShown slice then value slice.value else 0).map .finite := by
    rw [List.map_map, List.map_map]
    exact List.map_congr_left fun slice _ => Extended.sanitize_ofFloat slice.value
  have hsum : (data.map fun slice => if isShown slice then value slice.value else 0).sum =
      shownTotal data := by
    rw [List.sum_map_ite, shownTotal]
    simp
  rw [hvalue, Extended.sum_finite, hsum]

/-- If a slice is shown, the total is positive. -/
theorem shownTotal_pos {data : List (Slice Float)} (h : data.any isShown) :
    0 < shownTotal data := by
  obtain ⟨slice, hslice, hshown⟩ := List.any_eq_true.1 h
  refine List.sum_pos _ (List.forall_mem_map.2 fun other hother => ?_) ?_
  · exact value_pos_of_isShown (List.mem_filter.1 hother).2
  · rw [Ne, List.map_eq_nil_iff]
    exact List.ne_nil_of_mem (List.mem_filter.2 ⟨hslice, hshown⟩)

/-- In exact numbers, the code walks around the circle. -/
theorem exists_segments {data : List (Slice Float)} (h : data.any isShown) :
    ∃ parts, segments (.ofFloat largestFloat) (data.map (Slice.map Extended.ofFloat)) =
        parts.map (Segment.map .finite) ∧
      IsWalk (shownTotal data) (-90) (data.filter isShown) parts := by
  have htotal := shownTotal_pos h
  have hguard : (Scalar.isFinite (Extended.finite (shownTotal data)) &&
      Scalar.less 0.0 (Extended.finite (shownTotal data))) = true := by
    rw [Extended.isFinite_finite, Extended.zero_eq, Extended.less_finite, decide_eq_true htotal]
    rfl
  obtain ⟨parts, hparts, hwalk⟩ := exists_segmentsFrom htotal data (-90) 0
  refine ⟨parts, ?_, hwalk⟩
  unfold segments
  dsimp only
  rw [sum_sanitize, if_pos hguard, finite_literals.2.2.2]
  exact hparts

/-! ## Where the walk leads -/

namespace IsWalk

variable {total angle : ℚ} {slices : List (Slice Float)} {parts : List (Segment ℚ)}
  (h : IsWalk total angle slices parts)

include h

/-- A walk has a segment for each slice, with its label and value. -/
theorem map_value : parts.map (fun s => (s.label, s.value)) =
    slices.map fun slice => (slice.label, value slice.value) := by
  induction h with
  | nil => rfl
  | cons first _ ih => rw [List.map_cons, List.map_cons, ih, first.label_eq, first.value_eq]

/-- A walk passes over the values of all slices. -/
theorem sum_value :
    (parts.map fun s => s.value).sum = (slices.map fun slice => value slice.value).sum := by
  have hvalues := congrArg (List.map Prod.snd) h.map_value
  rw [List.map_map, List.map_map] at hvalues
  exact congrArg List.sum hvalues

theorem exists_isPart {s : Segment ℚ} (hs : s ∈ parts) :
    ∃ angle, ∃ slice ∈ slices, IsPart total angle slice s := by
  induction h with
  | nil => cases hs
  | cons first _ ih =>
    rcases List.mem_cons.1 hs with rfl | hs
    · exact ⟨_, _, List.mem_cons_self, first⟩
    · obtain ⟨angle, slice, hslice, hpart⟩ := ih hs
      exact ⟨angle, slice, List.mem_cons_of_mem _ hslice, hpart⟩

/-- Each segment of a walk starts where the one before ends. -/
theorem contiguous : Contiguous Segment.startAngle Segment.endAngle angle parts := by
  induction h with
  | nil => exact .nil
  | cons first _ ih => exact .cons first.startAngle_eq ih

/-- Every segment has a sweep, and none more than the circle. -/
theorem sweep_bounds (htotal : (slices.map fun slice => value slice.value).sum = total)
    (hpos : ∀ slice ∈ slices, 0 < value slice.value) {s : Segment ℚ} (hs : s ∈ parts) :
    0 < s.sweep ∧ s.sweep ≤ 360 := by
  obtain ⟨angle, slice, hslice, hpart⟩ := h.exists_isPart hs
  have hvalues : ∀ v ∈ slices.map fun slice => value slice.value, 0 < v :=
    List.forall_mem_map.2 hpos
  have hmem : s.value ∈ slices.map fun slice => value slice.value :=
    hpart.value_eq ▸ List.mem_map_of_mem hslice
  have hle : s.value ≤ total :=
    htotal ▸ List.single_le_sum (fun v hv => (hvalues v hv).le) _ hmem
  have hshare : 0 < s.value / total ∧ s.value / total ≤ 1 :=
    ⟨div_pos (hvalues _ hmem) ((hvalues _ hmem).trans_le hle),
      (div_le_one ((hvalues _ hmem).trans_le hle)).2 hle⟩
  rw [hpart.sweep_eq]
  constructor <;> linarith

theorem map_sub : parts.map (fun s => s.endAngle - s.startAngle) = parts.map Segment.sweep := by
  refine List.map_congr_left fun s hs => ?_
  obtain ⟨_, _, -, hpart⟩ := h.exists_isPart hs
  rw [hpart.endAngle_eq, add_sub_cancel_left]

end IsWalk

/-! ## What is drawn -/

/-- The arcs of a segment together span it, in two halves if it goes all around the ring; none of
them spans the ring, and the large ones are marked. -/
structure IsDrawn (s : Segment ℚ) : Prop where
  span : ∀ arc ∈ s.arcs, 0 < arc.finish - arc.start ∧ arc.finish - arc.start < 359.999
  isLarge_iff : ∀ arc ∈ s.arcs, arc.isLarge ↔ 180 < arc.finish - arc.start
  single : s.sweep < 359.999 →
    ∃ arc, s.arcs = [arc] ∧ arc.start = s.startAngle ∧ arc.finish = s.endAngle
  halves : 359.999 ≤ s.sweep →
    ∃ first second, s.arcs = [first, second] ∧ first.start = s.startAngle ∧
      second.start = first.finish ∧ second.finish = s.endAngle ∧
      first.finish - first.start ≤ 180 ∧ second.finish - second.start ≤ 180

section

variable {total angle : ℚ} {slice : Slice Float} {s : Segment ℚ}

/-- The flag of an arc says that it is more than half of the circle. -/
theorem isLarge_arcBetween_iff (start finish : ℚ) :
    (arcBetween start finish).isLarge ↔ 180 < finish - start :=
  decide_eq_true_iff

theorem IsPart.isDrawn (h : IsPart total angle slice s) (hpos : 0 < s.sweep)
    (hmax : s.sweep ≤ 360) : IsDrawn s := by
  have hend : s.endAngle - s.startAngle = s.sweep := by
    rw [h.endAngle_eq, add_sub_cancel_left]
  have hnear : (180 : ℚ) < 359.999 := by norm_num
  rcases lt_or_ge s.sweep 359.999 with hsweep | hsweep
  case inl =>
    have harcs : s.arcs = [arcBetween s.startAngle s.endAngle] := by rw [h.arcs_eq, if_pos hsweep]
    exact
      { span := by
          rw [harcs, List.forall_mem_singleton]
          exact hend.symm ▸ ⟨hpos, hsweep⟩
        isLarge_iff := by
          rw [harcs, List.forall_mem_singleton]
          exact isLarge_arcBetween_iff ..
        single := fun _ => ⟨_, harcs, rfl, rfl⟩
        halves := fun h => absurd hsweep (not_lt.2 h) }
  case inr =>
    have harcs : s.arcs = [arcBetween s.startAngle (s.startAngle + 180),
        arcBetween (s.startAngle + 180) s.endAngle] := by rw [h.arcs_eq, if_neg (not_lt.2 hsweep)]
    have hfirst : s.startAngle + 180 - s.startAngle = 180 := add_sub_cancel_left ..
    have hsecond : 0 < s.endAngle - (s.startAngle + 180) ∧
        s.endAngle - (s.startAngle + 180) ≤ 180 := by
      constructor <;> linarith
    exact
      { span := by
          rw [harcs, List.forall_mem_cons, List.forall_mem_singleton]
          exact ⟨hfirst.symm ▸ ⟨by norm_num, hnear⟩, hsecond.1, hsecond.2.trans_lt hnear⟩
        isLarge_iff := by
          rw [harcs, List.forall_mem_cons, List.forall_mem_singleton]
          exact ⟨isLarge_arcBetween_iff .., isLarge_arcBetween_iff ..⟩
        single := fun h => absurd h (not_lt.2 hsweep)
        halves := fun _ => ⟨_, _, harcs, rfl, rfl, rfl, hfirst.le, hsecond.2⟩ }

end

/-- **The ring.** Without rounding a chart with a positive finite value has one segment for each of
these values, in their order. The first starts at -90 degrees and each other one where the one
before ends, the last ends at 270 degrees, and each sweep is the share of the value in 360 degrees;
sweeps add up to 360 and percentages to 100. What is drawn of a segment is one arc that does not
span the ring or two halves of one that does. -/
theorem segments_exact (data : List (Slice Float)) (h : data.any isShown) :
    let shown := data.filter isShown
    let total := (shown.map fun slice => value slice.value).sum
    ∃ parts : List (Segment ℚ),
      segments (.ofFloat largestFloat) (data.map (Slice.map Extended.ofFloat)) =
        parts.map (Segment.map .finite) ∧
      parts.map (fun s => (s.label, s.value)) =
        shown.map (fun slice => (slice.label, value slice.value)) ∧
      (parts.head?.map fun s => s.startAngle) = some (-90) ∧
      (parts.IsChain fun s t => t.startAngle = s.endAngle) ∧
      (∀ s ∈ parts, 0 < s.sweep ∧ s.sweep = 360 * (s.value / total) ∧
        s.endAngle = s.startAngle + s.sweep) ∧
      (parts.map fun s => s.sweep).sum = 360 ∧
      (parts.getLast?.map fun s => s.endAngle) = some 270 ∧
      (parts.map fun s => s.percent).sum = 100 ∧
      ∀ s ∈ parts, IsDrawn s := by
  intro shown total
  obtain ⟨parts, hparts, (hwalk : IsWalk total (-90) shown parts)⟩ := exists_segments h
  have hshare : total / total = 1 := div_self (shownTotal_pos h).ne'
  have hsweep : (parts.map fun s => s.sweep).sum = 360 := by
    have hsum := sum_share fun s hs =>
      (hwalk.exists_isPart hs).elim fun _ ⟨_, _, hpart⟩ => hpart.sweep_eq
    rwa [hwalk.sum_value, hshare, mul_one] at hsum
  have hpercent : (parts.map fun s => s.percent).sum = 100 := by
    have hsum := sum_share fun s hs =>
      (hwalk.exists_isPart hs).elim fun _ ⟨_, _, hpart⟩ => hpart.percent_eq
    rwa [hwalk.sum_value, hshare, mul_one] at hsum
  have hbounds {s : Segment ℚ} (hs : s ∈ parts) : 0 < s.sweep ∧ s.sweep ≤ 360 :=
    hwalk.sweep_bounds rfl
      (fun slice hslice => value_pos_of_isShown (List.mem_filter.1 hslice).2) hs
  have hne : parts ≠ [] := by
    rintro rfl
    norm_num at hsweep
  have hlast := hwalk.contiguous.getLast?_eq hne
  rw [hwalk.map_sub, hsweep] at hlast
  refine ⟨parts, hparts, hwalk.map_value, hwalk.contiguous.head?_eq hne, hwalk.contiguous.isChain,
    ?_, hsweep, ?_, hpercent, ?_⟩
  · intro s hs
    obtain ⟨angle, slice, -, hpart⟩ := hwalk.exists_isPart hs
    exact ⟨(hbounds hs).1, hpart.sweep_eq, hpart.endAngle_eq⟩
  · rw [hlast]
    norm_num
  · intro s hs
    obtain ⟨angle, slice, -, hpart⟩ := hwalk.exists_isPart hs
    exact hpart.isDrawn (hbounds hs).1 (hbounds hs).2

/-- Of four values, one no number and one negative, the other two share the ring. -/
theorem segments_exact_of_two_values :
    let slice (label : String) (value : Float) : Slice Float := { label, value }
    let data := [slice "A" (0.0 / 0.0), slice "B" 3.0, slice "C" (-1.0), slice "D" 1.0]
    ∃ parts : List (Segment ℚ),
      segments (.ofFloat largestFloat) (data.map (Slice.map Extended.ofFloat)) =
        parts.map (Segment.map .finite) ∧
      parts.map (fun s => (s.label, s.value)) = [("B", 3), ("D", 1)] ∧
      (parts.map fun s => s.sweep).sum = 360 ∧
      ∀ s ∈ parts, s.sweep = 360 * (s.value / 4) ∧ IsDrawn s := by
  intro slice data
  have hshown : data.filter isShown = [slice "B" 3.0, slice "D" 1.0] := by
    have hnan : isShown (slice "A" (0.0 / 0.0)) = false := by decide
    have hthree : isShown (slice "B" 3.0) = true := by decide
    have hnegative : isShown (slice "C" (-1.0)) = false := by decide
    have hone : isShown (slice "D" 1.0) = true := by decide
    simp only [data, List.filter_cons, hnan, hthree, hnegative, hone, if_true, if_false,
      Bool.false_eq_true, List.filter_nil]
  have hvalues : value 3.0 = 3 ∧ value 1.0 = 1 := by
    have hthree := value_eq_div (x := 3.0) (n := 3) (d := 1) (by decide) (by decide) (by decide)
    have hone := value_eq_div (x := 1.0) (n := 1) (d := 1) (by decide) (by decide) (by decide)
    rw [hthree, hone]
    norm_num
  have htotal : ((data.filter isShown).map fun slice => value slice.value).sum = 4 := by
    rw [hshown]
    show value 3.0 + (value 1.0 + 0) = 4
    rw [hvalues.1, hvalues.2]
    norm_num
  obtain ⟨parts, hparts, hmap, -, -, hsweep, hsum, -, -, hdrawn⟩ := segments_exact data (by decide)
  refine ⟨parts, hparts, ?_, hsum, fun s hs => ⟨?_, hdrawn s hs⟩⟩
  · rw [hmap, hshown]
    show [("B", value 3.0), ("D", value 1.0)] = _
    rw [hvalues.1, hvalues.2]
  · rw [(hsweep s hs).2.1, htotal]

end DiagnosticReport.Donut
