import DiagnosticReport.Chart.Waterfall
import DiagnosticReport.Proofs.Chart.Contiguous
import DiagnosticReport.Proofs.Chart.Exact

/-!
# The stack of a gap chart

Without rounding the columns of a gap chart are stacked from the mean score up to the mean target,
each as high as its item's share of all shortfalls. That the stack arrives there, and no column
divides by zero, comes from one inequality: the shortfalls together are at least as much as the gap
of the means takes, since what one item is above its target does not make up for another one.
-/

namespace DiagnosticReport.Waterfall

open Extended

/-! ## Exact columns -/

section

variable {α β : Type} (f : α → β)

def Step.map (s : Step α) : Step β :=
  ⟨s.label, f s.shortfall, f s.contribution, f s.start, f s.finish⟩

def Geometry.map (g : Geometry α) : Geometry β :=
  ⟨f g.now, f g.target, f g.gap, g.steps.map (Step.map f)⟩

end

section

variable (default : Extended ℚ) (item : Item (Extended ℚ))

/-- The score of an item on the scale. -/
def Item.scoreOf : ℚ :=
  onScale 100 item.current

/-- The target of an item on the scale. -/
def Item.goalOf : ℚ :=
  onScale 100 (item.target.getD default)

/-- What an item is short of its target on the scale. -/
def Item.shortOf : ℚ :=
  max (item.goalOf default - item.scoreOf) 0

/-- The score of an item is the finite number on the scale. -/
theorem score_eq : item.score = finite item.scoreOf :=
  Extended.clampScore_eq item.current

theorem goal_eq : item.goal default = finite (item.goalOf default) :=
  Extended.clampScore_eq (item.target.getD default)

theorem shortfall_eq : item.shortfall default = finite (item.shortOf default) := by
  rw [Item.shortfall, goal_eq, score_eq, finite_sub_finite, zero_eq, larger_finite]
  rfl

end

/-- A column that takes its share of a gap. -/
structure IsShare (gap total : ℚ) (s : Step ℚ) : Prop where
  shortfall_nonneg : 0 ≤ s.shortfall
  contribution_eq : s.contribution = gap * (s.shortfall / total)
  finish_eq : s.finish = s.start + s.contribution

/-! ## The code stacks the shares -/

theorem contribution_finite {gap total : ℚ} (htotal : 0 ≤ total) (shortfall : ℚ) :
    (if Scalar.less (0.0 : Extended ℚ) (finite total) then
      finite gap * finite shortfall / finite total else 0.0) =
      finite (gap * (shortfall / total)) := by
  rw [zero_eq, less_finite]
  rcases htotal.eq_or_lt with rfl | hpos
  · rw [decide_eq_false (lt_irrefl 0), div_zero, mul_zero]
    rfl
  · rw [decide_eq_true hpos, if_pos rfl, finite_mul_finite, finite_div_finite hpos.ne',
      mul_div_assoc]

/-- The steps stack the shares, each on top of the one before. -/
theorem exists_stepsFrom (default : Extended ℚ) (gap : ℚ) {total : ℚ} (htotal : 0 ≤ total)
    (items : List (Item (Extended ℚ))) (level : ℚ) :
    ∃ steps, stepsFrom default (finite gap) (finite total) (finite level) items =
        steps.map (Step.map finite) ∧
      steps.map (fun s => (s.label, s.shortfall)) =
        items.map (fun item => (item.label, item.shortOf default)) ∧
      (∀ s ∈ steps, IsShare gap total s) ∧ Contiguous Step.start Step.finish level steps := by
  induction items generalizing level with
  | nil => exact ⟨[], rfl, rfl, List.forall_mem_nil _, .nil⟩
  | cons item items ih =>
    let contribution := gap * (item.shortOf default / total)
    obtain ⟨steps, hsteps, hmap, hshares, hstack⟩ := ih (level + contribution)
    refine ⟨⟨item.label, item.shortOf default, contribution, level, level + contribution⟩ :: steps,
      ?_, congrArg (_ :: ·) hmap, List.forall_mem_cons.2 ⟨⟨?_, rfl, rfl⟩, hshares⟩,
      .cons rfl hstack⟩
    · rw [stepsFrom, shortfall_eq, contribution_finite htotal, finite_add_finite, hsteps]
      rfl
    · exact le_max_right ..

/-! ## Means and the gap -/

section

variable {ι : Type} (items : List ι) (f g : ι → ℚ)

/-- The mean of numbers on the scale lies on it. -/
theorem mean_mem (hf : ∀ i, 0 ≤ f i ∧ f i ≤ 100) :
    0 ≤ (items.map f).sum / items.length ∧ (items.map f).sum / items.length ≤ 100 := by
  have hsum : (items.map f).sum ≤ 100 * items.length := by
    have hle := List.sum_le_card_nsmul (items.map f) 100 (List.forall_mem_map.2 fun i _ => (hf i).2)
    rwa [List.length_map, nsmul_eq_mul, mul_comm] at hle
  constructor
  · refine div_nonneg (List.sum_nonneg ?_) (Nat.cast_nonneg _)
    exact List.forall_mem_map.2 fun i _ => (hf i).1
  · exact div_le_of_le_mul₀ (Nat.cast_nonneg _) (by norm_num) hsum

/-- Shortfalls are at least the difference of the sums. -/
theorem sum_sub_le_sum_max :
    (items.map g).sum - (items.map f).sum ≤ (items.map fun i => max (g i - f i) 0).sum := by
  rw [sub_le_iff_le_add', ← List.sum_map_add]
  refine List.sum_le_sum fun i _ => ?_
  have hle := le_max_left (g i - f i) 0
  linarith

/-- Shares of the gap between two means, in proportion to the shortfalls, make it up. -/
theorem gap_mul_div_self :
    let total := (items.map fun i => max (g i - f i) 0).sum
    let gap := max ((items.map g).sum / items.length - (items.map f).sum / items.length) 0
    gap * (total / total) = gap := by
  intro total gap
  rcases eq_or_ne total 0 with hzero | hpos
  · have hle := sum_sub_le_sum_max items f g
    have hgap : gap = 0 := by
      apply max_eq_right
      rw [← sub_div]
      exact div_nonpos_of_nonpos_of_nonneg (hle.trans_eq hzero) (Nat.cast_nonneg _)
    rw [hgap, zero_mul]
  · rw [div_self hpos, mul_one]

end

/-! ## The geometry -/

/-- What all items are short of their targets. -/
def totalShort (default : Extended ℚ) (items : List (Item (Extended ℚ))) : ℚ :=
  (items.map (Item.shortOf default)).sum

/-- The shortfalls do not add up to less than zero. -/
theorem totalShort_nonneg (default : Extended ℚ) (items : List (Item (Extended ℚ))) :
    0 ≤ totalShort default items :=
  List.sum_nonneg (List.forall_mem_map.2 fun _ _ => le_max_right ..)

/-- The levels of items with their columns. -/
structure IsStack (default : Extended ℚ) (items : List (Item (Extended ℚ))) (g : Geometry ℚ) :
    Prop where
  now_eq : g.now = (items.map Item.scoreOf).sum / items.length
  target_eq : g.target = (items.map (Item.goalOf default)).sum / items.length
  gap_eq : g.gap = max (g.target - g.now) 0
  map_shortfall : g.steps.map (fun s => (s.label, s.shortfall)) =
    items.map fun item => (item.label, item.shortOf default)
  isShare : ∀ s ∈ g.steps, IsShare g.gap (totalShort default items) s
  stack : Contiguous Step.start Step.finish g.now g.steps

/-- The geometry of items is a stack, in finite numbers. -/
theorem exists_isStack {items : List (Item (Extended ℚ))} (hne : items ≠ [])
    (config : Config (Extended ℚ)) :
    ∃ g : Geometry ℚ, geometry items config = g.map finite ∧
      IsStack config.defaultTarget items g := by
  generalize hdefault : config.defaultTarget = default
  have hscores : items.map Item.score = (items.map Item.scoreOf).map finite := by
    rw [List.map_map]
    exact List.map_congr_left fun item _ => score_eq item
  have hgoals : items.map (Item.goal default) = (items.map (Item.goalOf default)).map finite := by
    rw [List.map_map]
    exact List.map_congr_left fun item _ => goal_eq default item
  have hshorts : items.map (Item.shortfall default) =
      (items.map (Item.shortOf default)).map finite := by
    rw [List.map_map]
    exact List.map_congr_left fun item _ => shortfall_eq default item
  have hmean (x : ℚ) : finite x / Scalar.ofNat items.length = finite (x / items.length) := by
    apply finite_div_finite
    exact_mod_cast mt List.length_eq_zero_iff.1 hne
  let now := (items.map Item.scoreOf).sum / items.length
  let target := (items.map (Item.goalOf default)).sum / items.length
  let gap := max (target - now) 0
  obtain ⟨steps, hsteps, hmap, hshares, hstack⟩ :=
    exists_stepsFrom default gap (totalShort_nonneg default items) items now
  refine ⟨⟨now, target, gap, steps⟩, ?_, ⟨rfl, rfl, rfl, hmap, hshares, hstack⟩⟩
  simp only [geometry, List.isEmpty_iff, if_neg hne, hdefault, hscores, hgoals, hshorts, sum_finite,
    hmean, finite_sub_finite, zero_eq, larger_finite]
  exact congrArg (Geometry.mk _ _ _) hsteps

namespace IsStack

variable {default : Extended ℚ} {items : List (Item (Extended ℚ))} {g : Geometry ℚ}
  (h : IsStack default items g)

include h

/-- The shortfalls of the steps are those of the items. -/
theorem sum_shortfall : (g.steps.map Step.shortfall).sum = totalShort default items := by
  have hshorts := congrArg (List.map Prod.snd) h.map_shortfall
  rw [List.map_map, List.map_map] at hshorts
  exact congrArg List.sum hshorts

/-- **The steps add up to the gap.** -/
theorem sum_contribution : (g.steps.map Step.contribution).sum = g.gap := by
  have hsum := sum_share fun s hs => (h.isShare s hs).contribution_eq
  rw [h.sum_shortfall] at hsum
  rw [hsum, h.gap_eq, h.target_eq, h.now_eq]
  exact gap_mul_div_self items Item.scoreOf (Item.goalOf default)

/-- No step leads down. -/
theorem contribution_nonneg {s : Step ℚ} (hs : s ∈ g.steps) : 0 ≤ s.contribution := by
  have hgap : 0 ≤ g.gap := h.gap_eq ▸ le_max_right ..
  rw [(h.isShare s hs).contribution_eq]
  apply mul_nonneg hgap
  exact div_nonneg (h.isShare s hs).shortfall_nonneg (totalShort_nonneg default items)

/-- Where the stack ends: it goes up by the gap. -/
theorem now_add_sum : g.now + (g.steps.map fun s => s.finish - s.start).sum =
    max g.now g.target := by
  have hheights : g.steps.map (fun s => s.finish - s.start) = g.steps.map Step.contribution := by
    refine List.map_congr_left fun s hs => ?_
    rw [(h.isShare s hs).finish_eq, add_sub_cancel_left]
  rw [hheights, h.sum_contribution, h.gap_eq, ← max_add_add_left, add_sub_cancel, add_zero,
    max_comm]

/-- There is a step for each item, so there is one. -/
theorem steps_ne_nil (hne : items ≠ []) : g.steps ≠ [] := by
  intro hnil
  have hmap := h.map_shortfall
  rw [hnil] at hmap
  exact hne (List.map_eq_nil_iff.1 hmap.symm)

/-- The level now lies on the scale. -/
theorem now_mem : 0 ≤ g.now ∧ g.now ≤ 100 := by
  rw [h.now_eq]
  exact mean_mem items _ fun item => onScale_mem (by norm_num) item.current

/-- The target lies on the scale. -/
theorem target_mem : 0 ≤ g.target ∧ g.target ≤ 100 := by
  rw [h.target_eq]
  exact mean_mem items _ fun item => onScale_mem (by norm_num) (item.target.getD default)

/-- A step stays between the level now and the higher one of it and the target. -/
theorem level_mem {s : Step ℚ} (hs : s ∈ g.steps) :
    g.now ≤ s.start ∧ s.start ≤ s.finish ∧ s.finish ≤ max g.now g.target := by
  have hup : ∀ s ∈ g.steps, s.start ≤ s.finish := by
    intro s hs
    rw [(h.isShare s hs).finish_eq]
    exact le_add_of_nonneg_right (h.contribution_nonneg hs)
  obtain ⟨hstart, hfinish⟩ := h.stack.bounds hup s hs
  exact ⟨hstart, hup s hs, hfinish.trans_eq h.now_add_sum⟩

end IsStack

/-- **The stack.** Without rounding the columns of a chart with items belong to the items in their
order and are stacked on the mean score: each starts where the one before ends, and its height, the
share of its item's shortfall in the gap, is not negative. The heights add up to the gap, all levels
lie on the scale, and the stack ends at the mean target if that is above the mean score. -/
theorem geometry_exact (items : List (Item (Extended ℚ))) (config : Config (Extended ℚ))
    (hne : items ≠ []) :
    let short := Item.shortOf config.defaultTarget
    ∃ g : Geometry ℚ, geometry items config = g.map finite ∧
      g.now = (items.map Item.scoreOf).sum / items.length ∧
      g.target = (items.map (Item.goalOf config.defaultTarget)).sum / items.length ∧
      g.gap = max (g.target - g.now) 0 ∧
      g.steps.map (fun s => (s.label, s.shortfall)) =
        items.map (fun item => (item.label, short item)) ∧
      (g.steps.head?.map fun s => s.start) = some g.now ∧
      (g.steps.IsChain fun s t => t.start = s.finish) ∧
      (∀ s ∈ g.steps, 0 ≤ s.contribution ∧ s.finish = s.start + s.contribution ∧
        s.contribution = g.gap * (s.shortfall / (items.map short).sum)) ∧
      (g.steps.map fun s => s.contribution).sum = g.gap ∧
      (0 ≤ g.now ∧ g.now ≤ 100) ∧ (0 ≤ g.target ∧ g.target ≤ 100) ∧
      (∀ s ∈ g.steps, 0 ≤ s.start ∧ s.start ≤ s.finish ∧ s.finish ≤ 100) ∧
      (g.steps.getLast?.map fun s => s.finish) = some (max g.now g.target) ∧
      (g.now < g.target → (g.steps.getLast?.map fun s => s.finish) = some g.target) := by
  intro short
  obtain ⟨g, hg, h⟩ := exists_isStack hne config
  have hlast : (g.steps.getLast?.map fun s => s.finish) = some (max g.now g.target) := by
    rw [← h.now_add_sum]
    exact h.stack.getLast?_eq (h.steps_ne_nil hne)
  refine ⟨g, hg, h.now_eq, h.target_eq, h.gap_eq, h.map_shortfall,
    h.stack.head?_eq (h.steps_ne_nil hne), h.stack.isChain, fun s hs => ?_, h.sum_contribution,
    h.now_mem, h.target_mem, fun s hs => ?_, hlast, fun hlt => ?_⟩
  · exact ⟨h.contribution_nonneg hs, (h.isShare s hs).finish_eq, (h.isShare s hs).contribution_eq⟩
  · obtain ⟨hstart, hle, hfinish⟩ := h.level_mem hs
    exact ⟨h.now_mem.1.trans hstart, hle, hfinish.trans (max_le h.now_mem.2 h.target_mem.2)⟩
  · rw [hlast, max_eq_right hlt.le]

/-- Of four items one has no number for a score and one an infinite one, and one is above its
target. -/
theorem geometry_exact_of_odd_scores :
    let items : List (Item (Extended ℚ)) := [
      { label := "A", current := .finite 40 },
      { label := "B", current := .nan, target := some (.finite 90) },
      { label := "C", current := .infinite false, target := some (.finite 70) },
      { label := "D", current := .finite 140, target := some (.finite 60) }]
    let config : Config (Extended ℚ) := .withWidth (.finite 640)
    items ≠ [] ∧ ∃ g : Geometry ℚ, geometry items config = g.map finite ∧
      g.now = 35 ∧ g.target = 75 ∧ g.steps.length = 4 ∧
      (g.steps.map fun s => s.contribution).sum = 40 ∧
      (g.steps.getLast?.map fun s => s.finish) = some 75 := by
  intro items config
  have hdefault : config.defaultTarget = finite 80 := by
    show (80.0 : Extended ℚ) = _
    rw [ofScientific_eq]
    norm_num
  have hscores : items.map Item.scoreOf = [40, 0, 0, 100] := by
    norm_num [items, Item.scoreOf, onScale]
  have hgoals : items.map (Item.goalOf config.defaultTarget) = [80, 90, 70, 60] := by
    rw [hdefault]
    norm_num [items, Item.goalOf, onScale]
  have hne : items ≠ [] := List.cons_ne_nil _ _
  obtain ⟨g, hg, hnow, htarget, hgap, hmap, -, -, -, hsum, -, -, -, -, hlast⟩ :=
    geometry_exact items config hne
  have hnow : g.now = 35 := by
    rw [hnow, hscores]
    norm_num [items]
  have htarget : g.target = 75 := by
    rw [htarget, hgoals]
    norm_num [items]
  refine ⟨hne, g, hg, hnow, htarget, ?_, ?_, ?_⟩
  · simpa [items] using congrArg List.length hmap
  · rw [hsum, hgap, hnow, htarget]
    norm_num
  · rw [hlast (by rw [hnow, htarget]; norm_num), htarget]

end DiagnosticReport.Waterfall
