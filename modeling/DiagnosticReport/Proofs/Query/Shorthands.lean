import DiagnosticReport.Query.Pipeline

/-!
# Shorthand keys of filters

What a filter entry asks by a shorthand key, an entry with a field, an operator and a value can ask
as well. `Filter.spelledOut` lists such entries, one for each key that is set: an item passes an
entry just if it passes all of them, so that a pipeline may hold them in its place, in any order and
anywhere among its filters (`Filter.passes_iff_spelledOut`).
-/

namespace DiagnosticReport

/-! ## Comparisons of a field -/

section

variable {key : String} {item : Json}

/-- A field equals a text just if it is that string. -/
theorem Json.optionSameAs_string (text : String) :
    optionSameAs (item.get? key) (.string text) = (item.stringAt? key == some text) := by
  rw [stringAt?]
  cases item.get? key with
  | none => rfl
  | some value =>
    cases value with
    | number n => cases n <;> rfl
    | _ => rfl

/-- A field is in an array of codes just if it is one of these strings. -/
theorem Operator.holds_isIn_codes (codes : List String) :
    isIn.holds (item.get? key) (.array (codes.map .string)) = Predicate.codeIn key codes item := by
  have hmember : isIn.holds (item.get? key) (.array (codes.map .string)) =
      codes.any fun code => item.stringAt? key == some code := by
    simp [holds, member?, Json.asArray?, Json.optionSameAs_string, Function.comp_def]
  rw [hmember, Predicate.codeIn]
  cases item.stringAt? key with
  | none => simp
  | some text => exact List.contains_eq_any_beq.symm

/-- A field is compared with a finite number as far as it has a number itself. -/
theorem Operator.onNumbers_float (holds : Float → Float → Bool) {bound : Float}
    (h : Binary64.isFinite bound) :
    onNumbers holds (item.get? key) (.number (.float bound)) =
      (item.numberAt? key).any (holds · bound) := by
  have hbound : Json.number? (.number (.float bound)) = some bound := if_pos h
  rw [Json.numberAt?, onNumbers, hbound]
  cases (item.get? key).bind Json.number? <;> rfl

end

/-! ## Entries spelled out -/

namespace Filter

/-- The entry for a field, an operator and a value. -/
def generic (field : String) (operator : Operator) (value : Option Json) : Filter :=
  { field := some field, operator := some operator, value }

/-- The entry asks by a field, an operator and a value only. -/
def IsGeneric (filter : Filter) : Prop :=
  ∃ field operator value, filter = generic field operator value

/-- The generic entry for codes under a key. -/
def codes (key : String) (codes : List String) : Filter :=
  generic key .isIn (some (.array (codes.map .string)))

/-- The generic entry that compares the overall score with a number. -/
def scoreBound (operator : Operator) (bound : Float) : Filter :=
  generic "score_overall" operator (some (.number (.float bound)))

/-- The generic entries that say what an entry says, one for each key that is set. -/
def spelledOut (filter : Filter) : List Filter :=
  (filter.dimensionCodes.map (codes "dimension_code")).toList ++
  (filter.chapterCodes.map (codes "chapter_code")).toList ++
  (filter.kind.map fun name => generic "type" .eq (some (.string name))).toList ++
  (filter.minScore.map (scoreBound .gte)).toList ++
  (filter.maxScore.map (scoreBound .lte)).toList ++
  match filter.field, filter.operator with
  | some field, some operator => [generic field operator filter.value]
  | _, _ => []

theorem isGeneric_of_mem_spelledOut {filter entry : Filter} (h : entry ∈ filter.spelledOut) :
    entry.IsGeneric := by
  have hgeneric (field operator value) : (generic field operator value).IsGeneric :=
    ⟨field, operator, value, rfl⟩
  simp only [spelledOut, List.mem_append, Option.mem_toList, Option.map_eq_some_iff] at h
  obtain ((((⟨_, -, rfl⟩ | ⟨_, -, rfl⟩) | ⟨_, -, rfl⟩) | ⟨_, -, rfl⟩) | ⟨_, -, rfl⟩) | h := h
  · exact hgeneric ..
  · exact hgeneric ..
  · exact hgeneric ..
  · exact hgeneric ..
  · exact hgeneric ..
  · split at h
    · exact List.mem_singleton.1 h ▸ hgeneric ..
    · cases h

theorem passes_generic (field : String) (operator : Operator) (value : Option Json) (item : Json) :
    (generic field operator value).passes item =
      operator.holds (item.get? field) (value.getD .null) := by
  simp [passes, predicates, generic, Predicate.holds]

section

variable (item : Json)

theorem passes_codes (key : String) (given : List String) :
    (codes key given).passes item = Predicate.codeIn key given item := by
  rw [codes, passes_generic]
  exact Operator.holds_isIn_codes given

theorem passes_scoreBound_gte {bound : Float} (h : Binary64.isFinite bound) :
    (scoreBound .gte bound).passes item =
      (item.numberAt? "score_overall").any (Binary64.lessEq bound) := by
  rw [scoreBound, passes_generic]
  exact Operator.onNumbers_float _ h

theorem passes_scoreBound_lte {bound : Float} (h : Binary64.isFinite bound) :
    (scoreBound .lte bound).passes item =
      (item.numberAt? "score_overall").any (Binary64.lessEq · bound) := by
  rw [scoreBound, passes_generic]
  exact Operator.onNumbers_float _ h

/-- The condition on scores says what the entries for its bounds say. -/
theorem all_scoreBetween {min max : Option Float} (hmin : ∀ m ∈ min, Binary64.isFinite m)
    (hmax : ∀ m ∈ max, Binary64.isFinite m) :
    (if min.isSome || max.isSome then [Predicate.scoreBetween min max] else []).all
        (Predicate.holds item) =
      ((min.map (scoreBound .gte)).toList ++ (max.map (scoreBound .lte)).toList).all
        (passes · item) := by
  have hlow (m) (h : m ∈ min) := passes_scoreBound_gte item (hmin m h)
  have hhigh (m) (h : m ∈ max) := passes_scoreBound_lte item (hmax m h)
  cases min with
  | none =>
    cases max with
    | none => rfl
    | some high =>
      simp only [Option.mem_some_iff, forall_eq'] at hhigh
      cases hscore : item.numberAt? "score_overall" <;> simp [Predicate.holds, hhigh, hscore]
  | some low =>
    simp only [Option.mem_some_iff, forall_eq'] at hlow
    cases max with
    | none => cases hscore : item.numberAt? "score_overall" <;> simp [Predicate.holds, hlow, hscore]
    | some high =>
      simp only [Option.mem_some_iff, forall_eq'] at hhigh
      cases hscore : item.numberAt? "score_overall" <;>
        simp [Predicate.holds, hlow, hhigh, hscore]

end

/-- A key gives a condition that holds just if the entry that it gives passes. -/
theorem all_of_given {α : Type} {predicate : α → Predicate} {entry : α → Filter} {item : Json}
    (h : ∀ a, (predicate a).holds item = (entry a).passes item) (given : Option α) :
    (given.map predicate).toList.all (Predicate.holds item) =
      (given.map entry).toList.all (passes · item) := by
  cases given <;> simp [h]

theorem passes_eq_all_spelledOut {filter : Filter}
    (hmin : ∀ m ∈ filter.minScore, Binary64.isFinite m)
    (hmax : ∀ m ∈ filter.maxScore, Binary64.isFinite m) (item : Json) :
    filter.passes item = filter.spelledOut.all (passes · item) := by
  have hdimension (given : List String) : (Predicate.dimensionCode given).holds item =
      (codes "dimension_code" given).passes item := (passes_codes item _ given).symm
  have hchapter (given : List String) : (Predicate.chapterCode given).holds item =
      (codes "chapter_code" given).passes item := (passes_codes item _ given).symm
  have hkind (name : String) : (Predicate.kind name).holds item =
      (generic "type" .eq (some (.string name))).passes item := by
    rw [passes_generic]
    exact (Json.optionSameAs_string name).symm
  have hscores := all_scoreBetween item hmin hmax
  rw [List.all_append] at hscores
  rw [passes, predicates, spelledOut]
  simp only [List.all_append, all_of_given hdimension, all_of_given hchapter, all_of_given hkind,
    hscores, Bool.and_assoc]
  cases filter.field with
  | none => rfl
  | some field => cases filter.operator <;> simp [Predicate.holds, passes_generic]

end Filter

/-! ## Pipelines -/

namespace Pipeline

/-- Pipelines that differ in their filters only are alike if these pass the same items. -/
theorem eq_of_passes_iff {pipeline : Pipeline} {filters : List Filter}
    (h : ∀ item, (∀ filter ∈ filters, filter.passes item) ↔
      ∀ filter ∈ pipeline.filters, filter.passes item) (value : Json) :
    apply { pipeline with filters } value = pipeline.apply value ∧
      breaks { pipeline with filters } value = pipeline.breaks value := by
  have hselect (items : List Json) :
      select { pipeline with filters } items = pipeline.select items := by
    unfold select
    congr 1
    funext item
    rw [Bool.eq_iff_iff, List.all_eq_true, List.all_eq_true]
    exact h item
  cases value with
  | array items =>
    simp only [apply, breaks, hselect]
    exact ⟨rfl, rfl⟩
  | _ => exact ⟨rfl, rfl⟩

end Pipeline

/-- **Shorthand keys.** An entry with finite bounds passes an item just if all of its generic
entries do, so these may stand for it in a pipeline, in any order and at any place among the other
filters: the result is the same for every value, also whether the sort breaks down.

An infinite bound is no number of a generic entry, which would pass nothing. -/
theorem Filter.passes_iff_spelledOut {filter : Filter}
    (hmin : ∀ m ∈ filter.minScore, Binary64.isFinite m)
    (hmax : ∀ m ∈ filter.maxScore, Binary64.isFinite m) :
    (∀ entry ∈ filter.spelledOut, entry.IsGeneric) ∧
    (∀ item, filter.passes item ↔ ∀ entry ∈ filter.spelledOut, entry.passes item) ∧
    ∀ (pipeline : Pipeline) (before after filters : List Filter),
      pipeline.filters = before ++ filter :: after →
      filters.Perm (before ++ filter.spelledOut ++ after) →
      ∀ value, Pipeline.apply { pipeline with filters } value = pipeline.apply value ∧
        Pipeline.breaks { pipeline with filters } value = pipeline.breaks value := by
  have hpasses (item : Json) :
      filter.passes item ↔ ∀ entry ∈ filter.spelledOut, entry.passes item := by
    rw [passes_eq_all_spelledOut hmin hmax, List.all_eq_true]
  refine ⟨fun entry => isGeneric_of_mem_spelledOut, hpasses, ?_⟩
  intro pipeline before after filters hfilters hperm
  refine Pipeline.eq_of_passes_iff fun item => ?_
  rw [hfilters]
  simp only [hperm.mem_iff, List.mem_append, List.mem_cons, or_imp, forall_and, forall_eq,
    hpasses item, and_assoc]

/-- A range of scores under a type, spelled out last bound first. -/
theorem Filter.passes_iff_spelledOut_of_range :
    let filter : Filter := { kind := some "gap", minScore := some 50.0, maxScore := some 75.5 }
    let pipeline : Pipeline := { filters := [{ field := some "id" }, filter], limit := some 2 }
    let filters := [scoreBound .lte 75.5, { field := some "id" },
      generic "type" .eq (some (.string "gap")), scoreBound .gte 50.0]
    let item (kind : String) (score : Json) : Json :=
      .object [("type", .string kind), ("score_overall", score)]
    let value : Json := .array [item "gap" (.number (.int 80)), item "gap" (.string " 55 "),
      item "strength" (.number (.int 60)), item "gap" .null]
    (∀ m ∈ filter.minScore, Binary64.isFinite m) ∧ (∀ m ∈ filter.maxScore, Binary64.isFinite m) ∧
      Pipeline.apply { pipeline with filters } value = pipeline.apply value ∧
      pipeline.apply value = .array [item "gap" (.string " 55 ")] := by
  intro filter pipeline filters item value
  have hmin : ∀ m ∈ filter.minScore, Binary64.isFinite m := by decide
  have hmax : ∀ m ∈ filter.maxScore, Binary64.isFinite m := by decide
  have hperm : filters.Perm ([{ field := some "id" }] ++ filter.spelledOut ++ []) :=
    (List.perm_append_singleton _ _).symm
  obtain ⟨-, -, hpipeline⟩ := passes_iff_spelledOut hmin hmax
  exact ⟨hmin, hmax, (hpipeline pipeline _ _ filters rfl hperm value).1, rfl⟩

end DiagnosticReport
