import DiagnosticReport.Proofs.Visual.Items
import DiagnosticReport.Visual.Registry
import Mathlib.Data.List.Forall2

/-!
# Shapes of bound values

A visual sees a bound value through its items (`Item.all`). So an array and a record that holds it
as its first list of items are drawn alike, wherever they are bound, and a missing value is drawn
like `null` (`Visual.renderer_eq_of_same_items`). Two visuals look at the value itself as well: a
narrative shows fields of a record beside its list, and a checklist takes a record of steps for
one item.
-/

namespace DiagnosticReport

/-! ## Items of values -/

namespace Item

/-- A missing value has the items of `null`. -/
theorem all_eq_of_getD_null {s : Section} {v w : Option Json} (h : v.getD .null = w.getD .null) :
    all s v = all s w := by
  have hnull (v : Option Json) : all s v = all s (some (v.getD .null)) := by cases v <;> rfl
  rw [hnull v, hnull w, h]

theorem shown_congr {s : Section} {v w : Option Json} (h : all s v = all s w) :
    shown s v = shown s w :=
  congrArg (limit s) h

section

variable {s : Section} {fields : List (String × Json)} {earlier later : List String}
  {field : String} {items : List Json}

/-- A record that holds an array as its first list of items has the items of the array. -/
theorem all_object_eq_all_array (hs : s.textOption? "items_field" = none)
    (hfields : nestedFields = earlier ++ field :: later)
    (hitems : (Json.object fields).arrayAt? field = some items)
    (hfirst : ∀ other ∈ earlier, (Json.object fields).arrayAt? other = none) :
    all s (some (.object fields)) = all s (some (.array items)) := by
  have hlist : listFields s = earlier ++ field :: later := by
    rw [listFields, hs, Option.toList_none, List.nil_append, hfields]
  simp only [all, nested?_eq_some hlist hitems hfirst, Option.getD_some]

end

end Item

/-! ## Bindings with the same items -/

namespace Bindings

/-- The bindings have the same ids, and their values the same items in a section. -/
def SameItems (s : Section) (b c : Bindings) : Prop :=
  List.Forall₂ (fun x y => x.1 = y.1 ∧ Item.all s x.2 = Item.all s y.2) b.entries c.entries

variable {s : Section} {b c : Bindings}

/-- Bindings with the same items have the same first items. -/
theorem SameItems.primary (h : b.SameItems s c) :
    Item.all s b.primary? = Item.all s c.primary? := by
  obtain ⟨bs⟩ := b
  obtain ⟨cs⟩ := c
  cases h with
  | nil => rfl
  | cons hfirst _ => exact hfirst.2

section

variable (before after : List (String × Option Json)) (id : String) {v w : Option Json}

/-- Other values with the same items, bound in one place. -/
theorem sameItems_of_all_eq (h : Item.all s v = Item.all s w) :
    SameItems s ⟨before ++ (id, v) :: after⟩ ⟨before ++ (id, w) :: after⟩ := by
  have hsame (entries : List (String × Option Json)) : SameItems s ⟨entries⟩ ⟨entries⟩ :=
    List.forall₂_same.2 fun _ _ => ⟨rfl, rfl⟩
  exact List.rel_append (hsame before) (.cons ⟨rfl, h⟩ (hsame after))

/-- What two values have in common, the primary values have that are got by binding one or the
other in one place. -/
theorem primary?_congr {α : Type} {f : Option Json → α} (h : f v = f w) :
    f (primary? ⟨before ++ (id, v) :: after⟩) = f (primary? ⟨before ++ (id, w) :: after⟩) := by
  cases before with
  | nil => exact h
  | cons first before => rfl

end

end Bindings

/-! ## Visuals -/

namespace Visual

variable {s : Section} {options : RenderOptions} {b c : Bindings}

theorem sectionText_congr (h : Item.all s b.primary? = Item.all s c.primary?) :
    sectionText b s = sectionText c s := by
  unfold sectionText
  rw [h]

theorem drawTextBlock_congr (h : Item.all s b.primary? = Item.all s c.primary?) :
    drawTextBlock b s options = drawTextBlock c s options := by
  rw [drawTextBlock, drawTextBlock, sectionText_congr h]

theorem drawComparisonTable_congr (h : b.SameItems s c) :
    drawComparisonTable b s = drawComparisonTable c s := by
  obtain ⟨bs⟩ := b
  obtain ⟨cs⟩ := c
  cases h with
  | nil => rfl
  | cons hleft hothers =>
    cases hothers with
    | nil => rfl
    | cons hright _ =>
      simp only [drawComparisonTable]
      rw [hleft.1, Item.shown_congr hleft.2, hright.1, Item.shown_congr hright.2]

/-- The visual looks at nothing but the items of its bindings. -/
def seesItemsOnly : Visual → Bool
  | checklist | narrativeBlock => false
  | _ => true

/-- Bindings with the same items are drawn alike. -/
theorem renderer_congr {visual : Visual} (hvisual : visual.seesItemsOnly) (h : b.SameItems s c) :
    visual.renderer b s options = visual.renderer c s options := by
  have hprimary := h.primary
  have hshown := Item.shown_congr hprimary
  cases visual with
  | checklist => cases hvisual
  | narrativeBlock => cases hvisual
  | none => rfl
  | comparisonTable => rw [renderer, comparisonRenderer, drawComparisonTable_congr h]; rfl
  | scoreTile => rw [renderer, Drawing.renderer, drawScoreTile, hprimary]; rfl
  | scoreTiles => rw [renderer, Drawing.renderer, drawScoreTiles, hshown]; rfl
  | progressBar => rw [renderer, Drawing.renderer, drawProgressBar, hshown]; rfl
  | metricCard => rw [renderer, Drawing.renderer, drawMetricCard, hprimary]; rfl
  | kpiDashboard => rw [renderer, Drawing.renderer, drawKpiDashboard, hshown]; rfl
  | radarChart => rw [renderer, Drawing.renderer, drawRadarChart, scoredSeries, hshown]; rfl
  | barChart => rw [renderer, Drawing.renderer, drawBarChart, scoredSeries, hshown]; rfl
  | donutChart => rw [renderer, Drawing.renderer, drawDonutChart, slices, hprimary]; rfl
  | gapChart => rw [renderer, Drawing.renderer, drawGapChart, gapItems, hshown]; rfl
  | table => rw [renderer, Drawing.renderer, drawTable, hshown]; rfl
  | timeline => rw [renderer, Drawing.renderer, drawTimeline, hshown]; rfl
  | roadmapTimeline => rw [renderer, Drawing.renderer, drawRoadmapTimeline, hshown]; rfl
  | riskMatrix => rw [renderer, Drawing.renderer, drawRiskMatrix, hprimary]; rfl
  | bulletList => rw [renderer, Drawing.renderer, drawBulletList, listTexts, hshown]; rfl
  | numberedList => rw [renderer, Drawing.renderer, drawNumberedList, listTexts, hshown]; rfl
  | textBlock => rw [renderer, Drawing.renderer, drawTextBlock_congr hprimary]; rfl
  | calloutBox => rw [renderer, Drawing.renderer, drawCalloutBox, sectionText_congr hprimary]; rfl

/-! ### Visuals that see the value -/

/-- A value that is no record of steps has its items on a checklist. -/
theorem checklistItems_eq_all {value : Json} (h : isItemWithSteps s value = false) :
    checklistItems s (some value) = Item.all s (some value) := by
  rw [checklistItems, if_neg (by simp [h])]

/-- A record with nested items is no item with steps of its own. -/
theorem isItemWithSteps_eq_false {record : Json} {field : String}
    (hfield : field ∈ Item.nestedFields) (hsteps : field ≠ "action_steps")
    (hitems : (record.arrayAt? field).isSome) :
    isItemWithSteps s record = false := by
  have hother : ((Item.nestedFields.filter (· != "action_steps")).any fun field =>
      (record.arrayAt? field).isSome) = true :=
    List.any_eq_true.2 ⟨field, List.mem_filter.2 ⟨hfield, by simpa using hsteps⟩, hitems⟩
  simp [isItemWithSteps, hother]

theorem checklistItems_of_getD_null {v w : Option Json} (h : v.getD .null = w.getD .null) :
    checklistItems s v = checklistItems s w := by
  have hnull (v : Option Json) : checklistItems s v = checklistItems s (some (v.getD .null)) := by
    cases v <;> rfl
  rw [hnull v, hnull w, h]

theorem drawChecklist_congr (h : checklistItems s b.primary? = checklistItems s c.primary?) :
    drawChecklist b s options = drawChecklist c s options := by
  rw [drawChecklist, h]
  rfl

theorem drawNarrativeBlock_of_null (h : b.primary?.getD .null = .null) :
    drawNarrativeBlock b s options = emptyState "No narrative available" := by
  rw [drawNarrativeBlock]
  cases hvalue : b.primary? with
  | none => rfl
  | some value =>
    rw [hvalue] at h
    cases h
    rfl

theorem drawNarrativeBlock_congr (h : b.primary?.getD .null = c.primary?.getD .null) :
    drawNarrativeBlock b s options = drawNarrativeBlock c s options := by
  by_cases hnull : b.primary?.getD .null = .null
  case pos => rw [drawNarrativeBlock_of_null hnull, drawNarrativeBlock_of_null (h ▸ hnull)]
  case neg =>
    have hprimary : b.primary? = c.primary? := by
      cases hb : b.primary? <;> cases hc : c.primary? <;> simp_all
    rw [drawNarrativeBlock, hprimary, drawTextBlock_congr (Item.all_eq_of_getD_null h)]
    rfl

/-! ### Main result -/

/-- **Shapes of values.** Wherever it is bound, a record that holds an array as its first list of
items is drawn as the array is, unless the section names a list of its own; only a narrative, and a
checklist of steps, may differ. A missing value is drawn as `null` is, by every visual. -/
theorem renderer_eq_of_same_items (visual : Visual) (before after : List (String × Option Json))
    (id : String) (s : Section) (options : RenderOptions) :
    let draw (value : Option Json) := visual.renderer ⟨before ++ (id, value) :: after⟩ s options
    (∀ (fields : List (String × Json)) (items : List Json) (field : String)
        (earlier later : List String),
      s.textOption? "items_field" = Option.none →
      Item.nestedFields = earlier ++ field :: later →
      (Json.object fields).get? field = some (.array items) →
      (∀ other ∈ earlier, (Json.object fields).arrayAt? other = Option.none) →
      visual ≠ narrativeBlock → (visual = checklist → field ≠ "action_steps") →
      draw (some (.object fields)) = draw (some (.array items))) ∧
    draw Option.none = draw (some .null) := by
  intro draw
  refine ⟨fun fields items field earlier later hs hfields hget hfirst hnarrative hsteps => ?_, ?_⟩
  case refine_1 =>
    have hitems : (Json.object fields).arrayAt? field = some items := by
      rw [Json.arrayAt?, hget]
      rfl
    have hall := Item.all_object_eq_all_array hs hfields hitems hfirst
    by_cases hvisual : visual.seesItemsOnly
    · exact renderer_congr hvisual (Bindings.sameItems_of_all_eq before after id hall)
    · cases visual with
      | checklist =>
        have hmem : field ∈ Item.nestedFields := by simp [hfields]
        have hrecord : isItemWithSteps s (.object fields) = false :=
          isItemWithSteps_eq_false hmem (hsteps rfl) (by simp [hitems])
        have harray : isItemWithSteps s (.array items) = false := rfl
        have hlist : checklistItems s (some (.object fields)) =
            checklistItems s (some (.array items)) := by
          rw [checklistItems_eq_all hrecord, checklistItems_eq_all harray, hall]
        exact congrArg Outcome.drawn
          (drawChecklist_congr (Bindings.primary?_congr before after id hlist))
      | narrativeBlock => exact absurd rfl hnarrative
      | _ => exact absurd rfl hvisual
  case refine_2 =>
    have hnull : (Option.none : Option Json).getD .null = (some Json.null).getD .null := rfl
    by_cases hvisual : visual.seesItemsOnly
    · exact renderer_congr hvisual
        (Bindings.sameItems_of_all_eq before after id (Item.all_eq_of_getD_null hnull))
    · have hprimary := Bindings.primary?_congr (f := fun v => v.getD .null) before after id hnull
      cases visual with
      | checklist =>
        exact congrArg Outcome.drawn (drawChecklist_congr (checklistItems_of_getD_null hprimary))
      | narrativeBlock => exact congrArg Outcome.drawn (drawNarrativeBlock_congr hprimary)
      | _ => exact absurd rfl hvisual

/-- The phases of a plan are compared like the plan itself, although risks follow them. -/
theorem renderer_eq_of_same_items_of_phases :
    let phases := [Json.string "Stabilize", .string "Scale"]
    let plan := [("name", Json.string "Plan"), ("phases", .array phases), ("risks", .array [])]
    let s : Section := { id := "s" }
    let draw (value : Option Json) :=
      comparisonTable.renderer ⟨[("now", some .null)] ++ [("next", value)]⟩ s {}
    s.textOption? "items_field" = Option.none ∧
      (Json.object plan).get? "phases" = some (.array phases) ∧
      draw (some (.object plan)) = draw (some (.array phases)) := by
  intro phases plan s draw
  have hfields : Item.nestedFields =
      ["items", "dimensions", "chapters", "sub_indicators"] ++ "phases" ::
        ["findings", "recommendations", "quick_wins", "risks", "key_imperatives", "action_steps"] :=
    rfl
  have hfirst : ∀ other ∈ ["items", "dimensions", "chapters", "sub_indicators"],
      (Json.object plan).arrayAt? other = Option.none := by
    simp [plan, Json.arrayAt?, Json.get?, Json.lookup]
  refine ⟨rfl, rfl, ?_⟩
  exact (renderer_eq_of_same_items comparisonTable [("now", some .null)] [] "next" s {}).1 plan
    phases "phases" _ _ rfl hfields rfl hfirst (by decide) (by decide)

end Visual

end DiagnosticReport
