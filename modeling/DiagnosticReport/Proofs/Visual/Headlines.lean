import DiagnosticReport.Proofs.Binary64.Scale
import DiagnosticReport.Proofs.Markup.Marks
import DiagnosticReport.Visual.Prose
import DiagnosticReport.Visual.Score

/-!
# The headline of a record

A score tile and a narrative both show the score of a record and its trajectory. They round the same
score, but the tile derives the trajectory from the score as it stands and the narrative from the
score on the scale, so the two agree just as far as this makes no difference
(`Visual.headlines_agree_iff`). On the scale it makes none.
-/

namespace DiagnosticReport

/-! ## Trajectories -/

namespace Trajectory

/-- All trajectories. -/
def all : List Trajectory :=
  [improving, flat, declining]

/-- A trajectory as it is shown. -/
def text (t : Trajectory) : String :=
  Text.escape (t.arrow ++ " " ++ t.label)

/-- Each trajectory has a text of its own. -/
theorem text_inj {t u : Trajectory} : t.text = u.text ↔ t = u := by
  cases t <;> cases u <;> decide

end Trajectory

/-- The trajectory that a record gives itself. -/
def Item.ownTrajectory? (record : Json) : Option Trajectory :=
  (record.stringAt? "trajectory").bind Trajectory.parse?

theorem Item.trajectory?_some (record : Json) (score : Float) :
    trajectory? record (some score) = (ownTrajectory? record <|>
      (record.numberAt? "previous_score_overall").map fun previous =>
        .between score (some previous)) := by
  rw [trajectory?, ownTrajectory?]
  cases record.numberAt? "previous_score_overall" <;> rfl

namespace Visual

/-! ## Headlines read off markup -/

/-- The scores that are shown, as texts. -/
def shownScores (m : Markup) : List String :=
  m.collect fun styleClass body => if styleClass == "score-value" then some body.render else .none

/-- The trajectories that are shown by elements of a kind, as texts. -/
def shownTrajectories (kind : String) (m : Markup) : List String :=
  m.collect fun styleClass body =>
    if Trajectory.all.any fun t => styleClass == kind ++ t.name then some body.render else .none

section

variable {α : Type} {read : String → Markup → Option α}

@[simp] theorem collect_paragraphs (text : String) : (paragraphs text).collect read = [] := by
  rw [paragraphs]
  exact Markup.collect_concat_eq_nil (List.forall_mem_map.2 fun _ _ => rfl)

@[simp] theorem collect_narrativeText (record : Json) :
    (narrativeText record).collect read = [] := by
  rw [narrativeText, Markup.collect_optional]
  cases ["summary", "narrative", "text"].findSome? fun field => record.stringAt? field with
  | none => rfl
  | some text => exact (List.append_nil _).trans (collect_paragraphs text)

@[simp] theorem collect_narrativeList (record : Json) (field : String) :
    (narrativeList record field).collect read = [] := by
  have hitems (items : List Json) : (Markup.concat
      (items.map fun item => .plain .li (.text item.text))).collect read = [] :=
    Markup.collect_concat_eq_nil (List.forall_mem_map.2 fun _ _ => rfl)
  unfold narrativeList
  split
  · simp only [Markup.collect_append, Markup.collect_plain, Markup.collect_text, hitems,
      List.append_nil]
  · rfl

/-- A narrative shows nothing but its headline under a style class. -/
theorem collect_narrative {s : Section} {record : Json}
    (hblock : ∀ body, read "narrative-block" body = .none) :
    (narrative s record).collect read =
      (((Item.score? s record).map Scalar.clampScore).map (narrativeHeadline record)).toList.flatMap
        (Markup.collect read) := by
  have hlists : (Markup.concat ((bulletFields s).map (narrativeList record))).collect read = [] :=
    Markup.collect_concat_eq_nil (List.forall_mem_map.2 fun field _ => collect_narrativeList ..)
  rw [narrative, Markup.collect_styled, hblock, Markup.collect_append, Markup.collect_append,
    Markup.collect_optional, collect_narrativeText, hlists, List.append_nil, List.append_nil]
  rfl

end

/-! ## Headlines of tiles and narratives -/

section

variable (s : Section) (options : RenderOptions) (record : Json) (score : Float)

theorem shownScores_tile (fallback : String) :
    shownScores (tile s options fallback record score) = [Text.escape (scoreText score)] := by
  rw [tile]
  cases Item.band options.thresholds record score <;>
    cases Item.trajectory? record (some score) with
    | none => rfl
    | some t => cases t <;> rfl

theorem shownTrajectories_tile (fallback : String) :
    shownTrajectories "score-trajectory trajectory-" (tile s options fallback record score) =
      ((Item.trajectory? record (some score)).map Trajectory.text).toList := by
  rw [tile]
  cases Item.band options.thresholds record score <;>
    cases Item.trajectory? record (some score) with
    | none => rfl
    | some t => cases t <;> rfl

theorem shownScores_narrativeHeadline :
    shownScores (narrativeHeadline record score) = [Text.escape (roundedText score)] := by
  rw [narrativeHeadline]
  cases Item.trajectory? record (some score) with
  | none => rfl
  | some t => cases t <;> rfl

theorem shownTrajectories_narrativeHeadline :
    shownTrajectories "trajectory trajectory-" (narrativeHeadline record score) =
      ((Item.trajectory? record (some score)).map Trajectory.text).toList := by
  rw [narrativeHeadline]
  cases Item.trajectory? record (some score) with
  | none => rfl
  | some t => cases t <;> rfl

end

section

variable (id : String) (fields : List (String × Json)) (s : Section) (options : RenderOptions)

theorem drawScoreTile_singleton :
    drawScoreTile ⟨[(id, some (.array [.object fields]))]⟩ s options =
      (tile? s options s.title (.object fields)).getD (emptyState "No score available") := rfl

theorem drawNarrativeBlock_object :
    drawNarrativeBlock ⟨[(id, some (.object fields))]⟩ s options =
      narrative s (.object fields) := rfl

/-- A score tile shows the score of its record. -/
theorem shownScores_drawScoreTile :
    shownScores (drawScoreTile ⟨[(id, some (.array [.object fields]))]⟩ s options) =
      ((Item.score? s (.object fields)).map fun score => Text.escape (scoreText score)).toList := by
  rw [drawScoreTile_singleton, tile?]
  cases Item.score? s (.object fields) with
  | none => rfl
  | some score => exact shownScores_tile ..

/-- A score tile shows the trajectory of the score as it is. -/
theorem shownTrajectories_drawScoreTile :
    shownTrajectories "score-trajectory trajectory-"
        (drawScoreTile ⟨[(id, some (.array [.object fields]))]⟩ s options) =
      (((Item.score? s (.object fields)).bind fun score =>
        Item.trajectory? (.object fields) (some score)).map Trajectory.text).toList := by
  rw [drawScoreTile_singleton, tile?]
  cases Item.score? s (.object fields) with
  | none => rfl
  | some score => exact shownTrajectories_tile ..

/-- A narrative shows the score of its record. -/
theorem shownScores_drawNarrativeBlock :
    shownScores (drawNarrativeBlock ⟨[(id, some (.object fields))]⟩ s options) =
      ((Item.score? s (.object fields)).map fun score => Text.escape (scoreText score)).toList := by
  rw [drawNarrativeBlock_object, shownScores, collect_narrative fun _ => rfl]
  cases Item.score? s (.object fields) with
  | none => rfl
  | some score =>
    rw [Option.map_some, Option.map_some, Option.toList_some, List.flatMap_singleton]
    exact shownScores_narrativeHeadline ..

/-- A narrative shows the trajectory of the clamped score. -/
theorem shownTrajectories_drawNarrativeBlock :
    shownTrajectories "trajectory trajectory-"
        (drawNarrativeBlock ⟨[(id, some (.object fields))]⟩ s options) =
      (((Item.score? s (.object fields)).bind fun score =>
        Item.trajectory? (.object fields) (some (Scalar.clampScore score))).map
          Trajectory.text).toList := by
  rw [drawNarrativeBlock_object, shownTrajectories, collect_narrative fun _ => rfl]
  cases Item.score? s (.object fields) with
  | none => rfl
  | some score =>
    rw [Option.map_some, Option.map_some, Option.toList_some, List.flatMap_singleton]
    exact shownTrajectories_narrativeHeadline ..

end

/-! ## Agreement -/

/-- Two scores of a record show one trajectory just if the record gives one itself, has no previous
score or has moved from it alike. -/
theorem trajectory_text_eq_iff {record : Json} {score other : Float} :
    ((Item.trajectory? record (some score)).map Trajectory.text).toList =
        ((Item.trajectory? record (some other)).map Trajectory.text).toList ↔
      ∀ previous, Item.ownTrajectory? record = .none →
        record.numberAt? "previous_score_overall" = some previous →
        Trajectory.between score (some previous) = .between other (some previous) := by
  cases hown : Item.ownTrajectory? record with
  | some t =>
    have hshown (x : Float) : Item.trajectory? record (some x) = some t := by
      rw [Item.trajectory?_some, hown]
      rfl
    exact iff_of_true (by rw [hshown, hshown]) nofun
  | none =>
    have hshown (x : Float) : Item.trajectory? record (some x) =
        (record.numberAt? "previous_score_overall").map fun previous =>
          .between x (some previous) := by
      rw [Item.trajectory?_some, hown]
      rfl
    rw [hshown, hshown]
    cases record.numberAt? "previous_score_overall" with
    | none => simp
    | some previous => simp [Trajectory.text_inj]

/-- **Headlines.** The tile of a list of one record and the narrative of the record show the same
rounded score, or neither shows any. They show the same trajectory just if the record gives one
itself, has no previous score, or has moved from it alike with its score as it stands and with its
score on the scale; so they do if the score lies on the scale. -/
theorem headlines_agree_iff (id id' : String) (fields : List (String × Json)) (s : Section)
    (options : RenderOptions) :
    let record := Json.object fields
    let tile := drawScoreTile ⟨[(id, some (.array [record]))]⟩ s options
    let narrative := drawNarrativeBlock ⟨[(id', some record)]⟩ s options
    let tileTrajectory := shownTrajectories "score-trajectory trajectory-" tile
    let narrativeTrajectory := shownTrajectories "trajectory trajectory-" narrative
    let scores := ((Item.score? s record).map fun score => Text.escape (scoreText score)).toList
    shownScores tile = scores ∧ shownScores narrative = scores ∧
    (tileTrajectory = narrativeTrajectory ↔
      ∀ score previous, Item.score? s record = some score →
        Item.ownTrajectory? record = .none →
        record.numberAt? "previous_score_overall" = some previous →
        Trajectory.between score (some previous) =
          .between (Scalar.clampScore score) (some previous)) ∧
    ((∀ score, Item.score? s record = some score →
        Binary64.lessEq 0.0 score ∧ Binary64.lessEq score 100.0) →
      tileTrajectory = narrativeTrajectory) := by
  intro record tile narrative tileTrajectory narrativeTrajectory scores
  have htrajectories : tileTrajectory = narrativeTrajectory ↔
      ∀ score previous, Item.score? s record = some score →
        Item.ownTrajectory? record = .none →
        record.numberAt? "previous_score_overall" = some previous →
        Trajectory.between score (some previous) =
          .between (Scalar.clampScore score) (some previous) := by
    show shownTrajectories _ _ = shownTrajectories _ _ ↔ _
    rw [shownTrajectories_drawScoreTile, shownTrajectories_drawNarrativeBlock]
    cases hscore : Item.score? s record with
    | none => exact iff_of_true (by simp only [Option.bind_none]) nofun
    | some score =>
      rw [Option.bind_some, Option.bind_some]
      refine trajectory_text_eq_iff.trans ⟨?_, ?_⟩
      · rintro h _ previous ⟨⟩
        exact h previous
      · exact fun h previous => h score previous rfl
  refine ⟨shownScores_drawScoreTile id fields s options,
    shownScores_drawNarrativeBlock id' fields s options, htrajectories, fun hscale => ?_⟩
  refine htrajectories.2 fun score previous hscore _ _ => ?_
  rw [clampScore_of_between (hscale score hscore).1 (hscale score hscore).2]

/-- A score above the scale that has not moved: the narrative takes it for a decline from itself. -/
theorem headlines_disagree_above_scale :
    let record := Json.object [("score_overall", .number (.int 150)),
      ("previous_score_overall", .number (.int 150))]
    let s : Section := { id := "s" }
    shownTrajectories "score-trajectory trajectory-"
        (drawScoreTile ⟨[("d", some (.array [record]))]⟩ s {}) = ["→ Flat"] ∧
      shownTrajectories "trajectory trajectory-"
        (drawNarrativeBlock ⟨[("d", some record)]⟩ s {}) = ["↓ Declining"] := by
  intro record s
  have hscore : Item.score? s record = some 150.0 := by decide
  have hflat : Item.trajectory? record (some 150.0) = some .flat := by decide
  have hdeclining :
      Item.trajectory? record (some (Scalar.clampScore 150.0)) = some .declining := by decide
  have htexts : Trajectory.flat.text = "→ Flat" ∧ Trajectory.declining.text = "↓ Declining" := by
    decide
  constructor
  · rw [shownTrajectories_drawScoreTile, hscore, Option.bind_some, hflat, ← htexts.1]
    rfl
  · rw [shownTrajectories_drawNarrativeBlock, hscore, Option.bind_some, hdeclining, ← htexts.2]
    rfl

end Visual

end DiagnosticReport
