import DiagnosticReport.Chart.Timeline
import DiagnosticReport.Visual.Basic
import DiagnosticReport.Visual.Item

/-!
# Timelines and roadmaps

The phases of a plan on a timeline, alone or with a card for each phase.
-/

namespace DiagnosticReport.Visual

/-- Fields that hold the time horizon of a phase. -/
def horizonFields : List String :=
  ["time_horizon", "horizon", "timeframe"]

/-- The time horizon of a phase. -/
def horizon? (item : Json) : Option String :=
  (Item.firstPresent? item horizonFields).map Json.text

/-- The phases of items. -/
def phasesOf (s : Section) (items : List Json) : List Timeline.Phase :=
  items.map fun item => ⟨Item.label s item, horizon? item⟩

/-- The wording and colours of the timeline of a section. -/
def timelineStyle (s : Section) (options : RenderOptions) : Timeline.Style where
  startLabel := (s.textOption? "start_label").getD "Start"
  endLabel := (s.textOption? "end_label").getD "Target"
  primaryColor := options.brand.primaryColor
  accentColor := options.brand.accentColor

/-- The timeline of a section's items. -/
def timelineOf (s : Section) (options : RenderOptions) (items : List Json) : Markup :=
  Timeline.draw (phasesOf s items) (.withWidth ((s.numberOption? "width").getD 720.0))
    (timelineStyle s options)

/-- A timeline. -/
def drawTimeline : Drawing := fun bindings s options =>
  orEmptyState "No phases available" (Item.shown s bindings.primary?) (timelineOf s options)

/-- A count of things, with an `s` unless there is just one. -/
def countOf (n : Nat) (thing : String) : String :=
  Decimal.natText n ++ " " ++ thing ++ (if n = 1 then "" else "s")

/-- The number of recommendations that a phase links to, if it links to any. -/
def linkedCount (item : Json) : Markup :=
  match item.arrayAt? "linked_recommendation_ids" with
  | some (id :: ids) =>
    .styled .div "roadmap-linked" (.text (countOf (id :: ids).length "linked recommendation"))
  | _ => .empty

/-- The card of the phase at a position. -/
def phaseCard (s : Section) (i : Nat) (item : Json) : Markup :=
  .styled .div "roadmap-phase"
    (.plain .h3
      (.styled .span "roadmap-step" (.text (Decimal.natText (i + 1))) ++
      .text (" " ++ Item.label s item) ++
      .optional ((horizon? item).map fun horizon =>
        .text " " ++ .styled .span "roadmap-horizon" (.text horizon))) ++
    .optional ((item.stringAt? "narrative").map fun text => .plain .p (.text text)) ++
    linkedCount item)

/-- A timeline with a card for each phase. -/
def drawRoadmapTimeline : Drawing := fun bindings s options =>
  orEmptyState "No roadmap available" (Item.shown s bindings.primary?) fun items =>
    .styled .div "roadmap"
      (timelineOf s options items ++
      .styled .div "roadmap-phases" (.concat (items.mapIdx (phaseCard s))))

end DiagnosticReport.Visual
