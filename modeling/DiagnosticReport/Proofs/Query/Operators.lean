import DiagnosticReport.Proofs.Binary64.Value
import DiagnosticReport.Proofs.Query.Shorthands

/-!
# Operators of generic filters

The operators come in pairs. `ne` passes exactly what `eq` does not and `notIn` what `isIn` does
not, so such a pair splits every array. The operators of order ask for a number on both sides: `gt`
and `lte`, and `lt` and `gte`, exclude each other, and one of each pair holds just if there are two
numbers (`Filter.generic_operators`).
-/

namespace DiagnosticReport

theorem Json.isFinite_of_number? {value : Json} {x : Float} (h : value.number? = some x) :
    Binary64.isFinite x := by
  cases value with
  | number n =>
    rw [number?, Option.ite_none_right_eq_some] at h
    exact Option.some.inj h.2 ▸ h.1
  | string s =>
    rw [number?, Option.filter_eq_some_iff] at h
    exact h.2
  | null | bool | array | object => cases h

/-! ## Operators of order -/

namespace Operator

/-- The operator compares the numbers of both sides by a relation; it fails where one of them has no
number. -/
def ComparesBy (operator : Operator) (rel : ℚ → ℚ → Prop) : Prop :=
  ∀ actual expected, operator.holds actual expected ↔
    ∃ a, actual.bind Json.number? = some a ∧ ∃ b, expected.number? = some b ∧
      rel (Binary64.value a) (Binary64.value b)

theorem onNumbers_iff {holds : Float → Float → Bool} {actual : Option Json} {expected : Json} :
    onNumbers holds actual expected ↔
      ∃ a, actual.bind Json.number? = some a ∧ ∃ b, expected.number? = some b ∧ holds a b := by
  rw [onNumbers]
  cases actual.bind Json.number? with
  | none => simp
  | some a => cases expected.number? <;> simp

/-- A comparison of finite floats is one of the numbers they stand for. -/
theorem comparesBy_of_onNumbers {operator : Operator} {test : Float → Float → Bool}
    {rel : ℚ → ℚ → Prop}
    (hoperator : ∀ actual expected,
      operator.holds actual expected = onNumbers test actual expected)
    (htest : ∀ a b, Binary64.isFinite a → Binary64.isFinite b →
      (test a b ↔ rel (Binary64.value a) (Binary64.value b))) :
    operator.ComparesBy rel := by
  intro actual expected
  rw [hoperator, onNumbers_iff]
  refine exists_congr fun a => and_congr_right fun ha => ?_
  refine exists_congr fun b => and_congr_right fun hb => ?_
  obtain ⟨value, -, hvalue⟩ := Option.bind_eq_some_iff.1 ha
  exact htest a b (Json.isFinite_of_number? hvalue) (Json.isFinite_of_number? hb)

theorem comparesBy_gt : gt.ComparesBy (· > ·) :=
  comparesBy_of_onNumbers (fun _ _ => rfl) fun _ _ ha hb => Binary64.less_iff_value hb ha

theorem comparesBy_gte : gte.ComparesBy (· ≥ ·) :=
  comparesBy_of_onNumbers (fun _ _ => rfl) fun _ _ ha hb => Binary64.lessEq_iff_value hb ha

theorem comparesBy_lt : lt.ComparesBy (· < ·) :=
  comparesBy_of_onNumbers (fun _ _ => rfl) fun _ _ ha hb => Binary64.less_iff_value ha hb

theorem comparesBy_lte : lte.ComparesBy (· ≤ ·) :=
  comparesBy_of_onNumbers (fun _ _ => rfl) fun _ _ ha hb => Binary64.lessEq_iff_value ha hb

namespace ComparesBy

section

variable {operator other : Operator} {rel : ℚ → ℚ → Prop} {actual : Option Json} {expected : Json}

theorem holds_iff {a b : Float} (h : operator.ComparesBy rel)
    (ha : actual.bind Json.number? = some a) (hb : expected.number? = some b) :
    operator.holds actual expected ↔ rel (Binary64.value a) (Binary64.value b) := by
  rw [h, ha, hb]
  simp

variable (h : operator.ComparesBy rel) (hother : other.ComparesBy fun x y => ¬ rel x y)

include h hother

/-- Operators that compare by a relation and by its complement exclude each other. -/
theorem not_both : ¬ (operator.holds actual expected ∧ other.holds actual expected) := by
  rintro ⟨hholds, hotherHolds⟩
  obtain ⟨a, ha, b, hb, hrel⟩ := (h _ _).1 hholds
  exact (hother.holds_iff ha hb).1 hotherHolds hrel

/-- One of them holds just if both sides have a number. -/
theorem either_iff :
    (operator.holds actual expected ∨ other.holds actual expected) ↔
      (actual.bind Json.number?).isSome ∧ expected.number?.isSome := by
  constructor
  · rintro (hholds | hholds)
    · obtain ⟨a, ha, b, hb, -⟩ := (h _ _).1 hholds
      exact ⟨Option.isSome_of_eq_some ha, Option.isSome_of_eq_some hb⟩
    · obtain ⟨a, ha, b, hb, -⟩ := (hother _ _).1 hholds
      exact ⟨Option.isSome_of_eq_some ha, Option.isSome_of_eq_some hb⟩
  · rintro ⟨hactual, hexpected⟩
    obtain ⟨a, ha⟩ := Option.isSome_iff_exists.1 hactual
    obtain ⟨b, hb⟩ := Option.isSome_iff_exists.1 hexpected
    rw [h.holds_iff ha hb, hother.holds_iff ha hb]
    exact em _

end

end ComparesBy

theorem comparesBy_lte_not_gt : lte.ComparesBy fun x y => ¬ x > y := by
  simpa only [not_lt] using comparesBy_lte

theorem comparesBy_gte_not_lt : gte.ComparesBy fun x y => ¬ x < y := by
  simpa only [not_lt] using comparesBy_gte

/-- Of two numbers the first is greater, less or equal, and never two of these. -/
theorem count_gt_lt_eq {actual : Option Json} {expected : Json} {a b : Float}
    (ha : actual.bind Json.number? = some a) (hb : expected.number? = some b) :
    [gt.holds actual expected, lt.holds actual expected,
      decide (Binary64.value a = Binary64.value b)].count true = 1 := by
  have hgt := comparesBy_gt.holds_iff ha hb
  have hlt := comparesBy_lt.holds_iff ha hb
  rcases lt_trichotomy (Binary64.value a) (Binary64.value b) with hless | hequal | hgreater
  · simp [hgt.not.2 hless.not_gt, hlt.2 hless, hless.ne]
  · simp [hgt.not.2 hequal.not_gt, hlt.not.2 hequal.not_lt, hequal]
  · simp [hgt.2 hgreater, hlt.not.2 hgreater.not_gt, hgreater.ne']

end Operator

/-! ## Filters that split arrays -/

namespace Filter

/-- Each item passes exactly one of the two filters. -/
def IsComplement (filter other : Filter) : Prop :=
  ∀ item, other.passes item = !filter.passes item

/-- Of every array, the first filter keeps one part and the second one the other part, both in their
order. -/
def Splits (filter other : Filter) : Prop :=
  ∀ items,
    Pipeline.apply { filters := [filter] } (.array items) =
        .array (items.partition filter.passes).1 ∧
      Pipeline.apply { filters := [other] } (.array items) =
        .array (items.partition filter.passes).2

theorem apply_filter (filter : Filter) (items : List Json) :
    Pipeline.apply { filters := [filter] } (.array items) =
      .array (items.filter filter.passes) := by
  simp [Pipeline.apply, Pipeline.select, Pipeline.arrange, Pipeline.arrange?, Pipeline.page]

theorem IsComplement.splits {filter other : Filter} (h : filter.IsComplement other) :
    filter.Splits other := by
  intro items
  have hother : other.passes = not ∘ filter.passes := funext h
  rw [apply_filter, apply_filter, hother, List.partition_eq_filter_filter]
  exact ⟨rfl, rfl⟩

section

variable (field : String) (value : Option Json)

theorem isComplement_eq_ne : (generic field .eq value).IsComplement (generic field .ne value) := by
  intro item
  rw [passes_generic, passes_generic]
  rfl

theorem isComplement_isIn_notIn :
    (generic field .isIn value).IsComplement (generic field .notIn value) := by
  intro item
  rw [passes_generic, passes_generic]
  rfl

theorem passes_isIn_array_iff (elements : List Json) (item : Json) :
    (generic field .isIn (some (.array elements))).passes item ↔
      ∃ element ∈ elements, (generic field .eq (some element)).passes item := by
  simp only [passes_generic]
  exact List.any_eq_true

/-- **Generic operators are consistent.** Whatever an item holds under the field and whatever the
filter expects: `eq` and `ne`, and `isIn` and `notIn`, split every array; `gt` and `lte`, and `lt`
and `gte`, exclude each other, and one of each pair holds just if both sides are read as a finite
number, of which exactly one of greater, less and equal is true; a value is in an array just if it
equals one of the elements; and what is no operator passes every item. -/
theorem generic_operators :
    let entry (operator : Operator) : Filter := generic field operator value
    let actual? (item : Json) : Option Float := (item.get? field).bind Json.number?
    let expected? : Option Float := (value.getD .null).number?
    ((entry .eq).IsComplement (entry .ne) ∧ (entry .eq).Splits (entry .ne)) ∧
    ((entry .isIn).IsComplement (entry .notIn) ∧ (entry .isIn).Splits (entry .notIn)) ∧
    (∀ item,
      (¬ ((entry .gt).passes item ∧ (entry .lte).passes item) ∧
        ((entry .gt).passes item ∨ (entry .lte).passes item ↔
          (actual? item).isSome ∧ expected?.isSome)) ∧
      (¬ ((entry .lt).passes item ∧ (entry .gte).passes item) ∧
        ((entry .lt).passes item ∨ (entry .gte).passes item ↔
          (actual? item).isSome ∧ expected?.isSome)) ∧
      ∀ a, actual? item = some a → ∀ b, expected? = some b →
        Binary64.isFinite a ∧ Binary64.isFinite b ∧
          [(entry .gt).passes item, (entry .lt).passes item,
            decide (Binary64.value a = Binary64.value b)].count true = 1) ∧
    (∀ elements item, (generic field .isIn (some (.array elements))).passes item ↔
      ∃ element ∈ elements, (generic field .eq (some element)).passes item) ∧
    ∀ item, (entry .unknown).passes item := by
  intro entry actual? expected?
  have hequal := isComplement_eq_ne field value
  have hmember := isComplement_isIn_notIn field value
  refine ⟨⟨hequal, hequal.splits⟩, ⟨hmember, hmember.splits⟩, ?order,
    passes_isIn_array_iff field, ?unknown⟩
  case order =>
    intro item
    simp only [entry, passes_generic]
    refine ⟨⟨?_, ?_⟩, ⟨?_, ?_⟩, ?_⟩
    · exact Operator.comparesBy_gt.not_both Operator.comparesBy_lte_not_gt
    · exact Operator.comparesBy_gt.either_iff Operator.comparesBy_lte_not_gt
    · exact Operator.comparesBy_lt.not_both Operator.comparesBy_gte_not_lt
    · exact Operator.comparesBy_lt.either_iff Operator.comparesBy_gte_not_lt
    · intro a ha b hb
      obtain ⟨found, -, hfound⟩ := Option.bind_eq_some_iff.1 ha
      exact ⟨Json.isFinite_of_number? hfound, Json.isFinite_of_number? hb,
        Operator.count_gt_lt_eq ha hb⟩
  case unknown =>
    intro item
    rw [passes_generic]
    rfl

end

/-- A text with a number in it is compared with a float by its number, and equals none. -/
theorem generic_operators_of_number_text :
    let item : Json := .object [("score", .string " 55 ")]
    let expected : Json := .number (.float 55.0)
    let entry (operator : Operator) : Filter := generic "score" operator (some expected)
    ∃ a b, (item.get? "score").bind Json.number? = some a ∧ expected.number? = some b ∧
      [(entry .gt).passes item, (entry .lt).passes item,
        decide (Binary64.value a = Binary64.value b)].count true = 1 ∧
      Pipeline.apply { filters := [entry .ne] } (.array [item]) = .array [item] := by
  intro item expected entry
  have hactual : ((item.get? "score").bind Json.number?).isSome := by decide
  have hexpected : expected.number?.isSome := by decide
  obtain ⟨a, ha⟩ := Option.isSome_iff_exists.1 hactual
  obtain ⟨b, hb⟩ := Option.isSome_iff_exists.1 hexpected
  obtain ⟨⟨-, hsplit⟩, -, horder, -⟩ := generic_operators "score" (some expected)
  exact ⟨a, b, ha, hb, ((horder item).2.2 a ha b hb).2.2, (hsplit [item]).2⟩

end Filter

end DiagnosticReport
