import DiagnosticReport.Proofs.Json.Equality
import DiagnosticReport.Proofs.Query.Operators

/-!
# Classes of items

Equality of values is an equivalence, so a field sorts the items that have it into classes, one for
each class of values. The filters `eq`, `ne`, `isIn` and `notIn` on the field keep a class, all but
a class, some classes, and all but some classes: which values name the classes makes no difference,
and two items are told apart just if their classes differ (`Filter.equality_classes`).
-/

namespace DiagnosticReport

open Json (Keyed)

/-! ## Classes -/

namespace Json.Keyed

/-- The item has a value under the key that equals the given one. -/
def InClass (key : String) (item value : Keyed) : Prop :=
  ∃ found : Keyed, item.toJson.get? key = some found.toJson ∧ found.Same value

/-- The values of two items under the key equal each other, or neither item has one. -/
def SameUnder (key : String) (item other : Keyed) : Prop :=
  (item.toJson.get? key = none ∧ other.toJson.get? key = none) ∨
    ∃ a b : Keyed, item.toJson.get? key = some a.toJson ∧ other.toJson.get? key = some b.toJson ∧
      a.Same b

/-- Each value of either list equals one of the other. -/
def SameValues (values others : List Keyed) : Prop :=
  (∀ a ∈ values, ∃ b ∈ others, a.Same b) ∧ ∀ b ∈ others, ∃ a ∈ values, a.Same b

section

variable {key : String} {item other value a b : Keyed} {values others : List Keyed}

theorem exists_get?_eq {found : Json} (h : item.toJson.get? key = some found) :
    ∃ value : Keyed, item.toJson.get? key = some value.toJson :=
  ⟨⟨found, item.hasDistinctKeys.of_get? h⟩, h⟩

theorem InClass.of_same (h : item.InClass key a) (hab : a.Same b) : item.InClass key b := by
  obtain ⟨found, hfound, hsame⟩ := h
  exact ⟨found, hfound, equivalence_same.trans hsame hab⟩

/-- Two values of one class have the same items. -/
theorem inClass_iff_of_same (h : a.Same b) : item.InClass key a ↔ item.InClass key b :=
  ⟨fun ha => ha.of_same h, fun hb => hb.of_same (equivalence_same.symm h)⟩

/-- The classes that hold an item are named by the values that equal its own. -/
theorem inClass_iff_of_get? (h : item.toJson.get? key = some a.toJson) :
    item.InClass key value ↔ a.Same value := by
  refine ⟨fun ⟨found, hfound, hsame⟩ => ?_, fun hsame => ⟨a, h, hsame⟩⟩
  obtain rfl : a = found := Keyed.ext (Option.some.inj (h.symm.trans hfound))
  exact hsame

/-- An item without the field is in no class. -/
theorem not_inClass_of_get? (h : item.toJson.get? key = none) : ¬ item.InClass key value := by
  rintro ⟨found, hfound, -⟩
  rw [h] at hfound
  cases hfound

/-- Two items are in the same class just if no class holds only one of them. -/
theorem sameUnder_iff :
    item.SameUnder key other ↔ ∀ value, item.InClass key value ↔ other.InClass key value := by
  constructor
  · rintro (⟨hitem, hother⟩ | ⟨a, b, ha, hb, hsame⟩) value
    · exact iff_of_false (not_inClass_of_get? hitem) (not_inClass_of_get? hother)
    · rw [inClass_iff_of_get? ha, inClass_iff_of_get? hb]
      exact ⟨equivalence_same.trans (equivalence_same.symm hsame), equivalence_same.trans hsame⟩
  · intro h
    cases hitem : item.toJson.get? key with
    | none =>
      cases hother : other.toJson.get? key with
      | none => exact .inl ⟨hitem, hother⟩
      | some found =>
        obtain ⟨b, hb⟩ := exists_get?_eq hother
        exact absurd ((h b).2 ((inClass_iff_of_get? hb).2 (equivalence_same.refl b)))
          (not_inClass_of_get? hitem)
    | some found =>
      obtain ⟨a, ha⟩ := exists_get?_eq hitem
      obtain ⟨b, hb, hsame⟩ := (h a).1 ((inClass_iff_of_get? ha).2 (equivalence_same.refl a))
      exact .inr ⟨a, b, ha, hb, equivalence_same.symm hsame⟩

/-- To be in the same classes is an equivalence of items. -/
theorem equivalence_sameUnder (key : String) : Equivalence (SameUnder key) where
  refl _ := sameUnder_iff.2 fun _ => Iff.rfl
  symm h := sameUnder_iff.2 fun value => (sameUnder_iff.1 h value).symm
  trans hab hbc :=
    sameUnder_iff.2 fun value => (sameUnder_iff.1 hab value).trans (sameUnder_iff.1 hbc value)

/-! ## Arrays of values -/

/-- The array of the values. -/
def array (values : List Keyed) : Keyed where
  toJson := .array (values.map toJson)
  hasDistinctKeys := .array fun item hitem => by
    obtain ⟨value, -, rfl⟩ := List.mem_map.1 hitem
    exact value.hasDistinctKeys

theorem exists_eq_array {items : List Json} (h : a.toJson = .array items) :
    ∃ values, a = array values := by
  have hdistinct : ∀ item ∈ items, item.HasDistinctKeys := fun item hitem =>
    (h ▸ a.hasDistinctKeys).of_mem hitem
  refine ⟨items.pmap mk hdistinct, Keyed.ext ?_⟩
  show a.toJson = .array ((items.pmap mk hdistinct).map toJson)
  rw [h, List.map_pmap, List.pmap_eq_map, List.map_id']

/-- What equals an array is an array. -/
theorem Same.exists_eq_array (h : (array values).Same b) : ∃ others, b = array others := by
  obtain ⟨items, hitems, -⟩ := (same_iff.1 h).exists_array
  exact Keyed.exists_eq_array hitems

theorem Same.exists_mem (h : (array values).Same (array others)) (ha : a ∈ values) :
    ∃ b ∈ others, a.Same b := by
  obtain ⟨items, hitems, hlength, hlike⟩ := (same_iff.1 h).exists_array
  obtain rfl : others.map toJson = items := Json.array.inj hitems
  rw [List.length_map, List.length_map] at hlength
  obtain ⟨i, hi, rfl⟩ := List.getElem_of_mem ha
  have hi' : i < others.length := hlength ▸ hi
  have hlike : Alike values[i].toJson others[i].toJson :=
    hlike i _ _ (by simp [hi]) (by simp [hi'])
  exact ⟨others[i], List.getElem_mem _, same_iff.2 (.alike hlike)⟩

/-- Arrays of one class hold values of the same classes. -/
theorem Same.sameValues (h : (array values).Same (array others)) : SameValues values others := by
  refine ⟨fun a ha => h.exists_mem ha, fun b hb => ?_⟩
  obtain ⟨a, ha, hsame⟩ := Same.exists_mem (equivalence_same.symm h) hb
  exact ⟨a, ha, equivalence_same.symm hsame⟩

/-- Lists with the same values name the same classes. -/
theorem SameValues.exists_inClass_iff (h : SameValues values others) :
    (∃ a ∈ values, item.InClass key a) ↔ ∃ b ∈ others, item.InClass key b := by
  constructor
  · rintro ⟨a, ha, hclass⟩
    obtain ⟨b, hb, hsame⟩ := h.1 a ha
    exact ⟨b, hb, hclass.of_same hsame⟩
  · rintro ⟨b, hb, hclass⟩
    obtain ⟨a, ha, hsame⟩ := h.2 b hb
    exact ⟨a, ha, hclass.of_same (equivalence_same.symm hsame)⟩

end

end Json.Keyed

/-! ## Filters -/

namespace Filter

/-- The operators that test for equality. -/
def equalityOperators : List Operator :=
  [.eq, .ne, .isIn, .notIn]

/-- The filter by the operator and the value lets the item pass. -/
def admits (key : String) (operator : Operator) (value item : Keyed) : Bool :=
  (generic key operator (some value.toJson)).passes item.toJson

section

variable {key : String} {operator : Operator} {item other value a b : Keyed}
  {values others : List Keyed}

theorem mem_equalityOperators : operator ∈ equalityOperators ↔
    operator = .eq ∨ operator = .ne ∨ operator = .isIn ∨ operator = .notIn := by
  simp [equalityOperators]

/-- Equality admits the class of its value. -/
theorem admits_eq_iff : admits key .eq value item ↔ item.InClass key value := by
  rw [admits, passes_generic]
  show Json.optionSameAs (item.toJson.get? key) value.toJson ↔ _
  cases hitem : item.toJson.get? key with
  | none => exact iff_of_false nofun (Keyed.not_inClass_of_get? hitem)
  | some found =>
    obtain ⟨a, ha⟩ := Keyed.exists_get?_eq hitem
    rw [Keyed.inClass_iff_of_get? ha, ← hitem, ha]
    rfl

theorem admits_ne : admits key .ne value item = !admits key .eq value item :=
  isComplement_eq_ne key _ _

theorem admits_notIn : admits key .notIn value item = !admits key .isIn value item :=
  isComplement_isIn_notIn key _ _

/-- Membership admits the classes of the values in the array. -/
theorem admits_isIn_array_iff :
    admits key .isIn (.array values) item ↔ ∃ value ∈ values, item.InClass key value := by
  rw [admits, Keyed.array, passes_isIn_array_iff]
  simp [← admits_eq_iff, admits]

/-- Membership in an array of one value is equality with it. -/
theorem admits_isIn_singleton_iff :
    admits key .isIn (.array [value]) item ↔ item.InClass key value := by
  simp [admits_isIn_array_iff]

/-- A value that is no array has no elements. -/
theorem not_admits_isIn (h : ¬ ∃ values, value = .array values) :
    ¬ admits key .isIn value item := by
  have hnone : value.toJson.asArray? = none := by
    cases hvalue : value.toJson with
    | array items => exact absurd (Keyed.exists_eq_array hvalue) h
    | _ => rfl
  rw [admits, passes_generic]
  show ¬ (Operator.member? _ value.toJson).getD false
  rw [Operator.member?, hnone]
  exact Bool.false_ne_true

/-- What agrees for `eq` and for `isIn` agrees for their complements. -/
theorem admits_congr (heq : admits key .eq a item = admits key .eq b other)
    (hisIn : admits key .isIn a item = admits key .isIn b other)
    (h : operator ∈ equalityOperators) :
    admits key operator a item = admits key operator b other := by
  rcases mem_equalityOperators.1 h with rfl | rfl | rfl | rfl
  · exact heq
  · rw [admits_ne, admits_ne, heq]
  · exact hisIn
  · rw [admits_notIn, admits_notIn, hisIn]

theorem admits_isIn_array_congr (h : Keyed.SameValues values others) :
    admits key .isIn (.array values) item = admits key .isIn (.array others) item := by
  rw [Bool.eq_iff_iff, admits_isIn_array_iff, admits_isIn_array_iff]
  exact h.exists_inClass_iff

theorem admits_isIn_of_same (h : a.Same b) :
    admits key .isIn a item = admits key .isIn b item := by
  by_cases ha : ∃ values, a = .array values
  · obtain ⟨values, rfl⟩ := ha
    obtain ⟨others, rfl⟩ := h.exists_eq_array
    exact admits_isIn_array_congr h.sameValues
  · have hb : ¬ ∃ others, b = .array others := by
      rintro ⟨others, rfl⟩
      exact ha (Keyed.equivalence_same.symm h).exists_eq_array
    rw [Bool.eq_iff_iff]
    exact iff_of_false (not_admits_isIn ha) (not_admits_isIn hb)

/-- A filter of equality does not tell one value from another that equals it. -/
theorem admits_of_same (ho : operator ∈ equalityOperators) (h : a.Same b) :
    admits key operator a item = admits key operator b item := by
  refine admits_congr ?_ (admits_isIn_of_same h) ho
  rw [Bool.eq_iff_iff, admits_eq_iff, admits_eq_iff]
  exact Keyed.inClass_iff_of_same h

/-- A filter of equality does not tell two items of one class apart. -/
theorem admits_of_sameUnder (ho : operator ∈ equalityOperators) (h : item.SameUnder key other) :
    admits key operator value item = admits key operator value other := by
  have hclass := Keyed.sameUnder_iff.1 h
  refine admits_congr ?_ ?_ ho
  · rw [Bool.eq_iff_iff, admits_eq_iff, admits_eq_iff]
    exact hclass value
  · rw [Bool.eq_iff_iff]
    by_cases harray : ∃ values, value = .array values
    · obtain ⟨values, rfl⟩ := harray
      rw [admits_isIn_array_iff, admits_isIn_array_iff]
      simp only [hclass]
    · exact iff_of_false (not_admits_isIn harray) (not_admits_isIn harray)

/-- Items that a filter of equality never tells apart are in the same classes. -/
theorem inClass_iff_of_admits (ho : operator ∈ equalityOperators)
    (h : ∀ value, admits key operator value item = admits key operator value other) :
    item.InClass key value ↔ other.InClass key value := by
  have hvalue := h value
  have hsingle := h (.array [value])
  rcases mem_equalityOperators.1 ho with rfl | rfl | rfl | rfl
  · rw [← admits_eq_iff, ← admits_eq_iff, hvalue]
  · rw [admits_ne, admits_ne] at hvalue
    rw [← admits_eq_iff, ← admits_eq_iff, Bool.not_inj hvalue]
  · rw [← admits_isIn_singleton_iff, ← admits_isIn_singleton_iff, hsingle]
  · rw [admits_notIn, admits_notIn] at hsingle
    rw [← admits_isIn_singleton_iff, ← admits_isIn_singleton_iff, Bool.not_inj hsingle]

end

/-- The filters of equality on a key sort items by the classes of their values under it. -/
structure SortsByClass (key : String) : Prop where
  /-- `eq` keeps a class. -/
  eq_iff : ∀ value item : Keyed, admits key .eq value item ↔ item.InClass key value
  /-- `ne` keeps what is outside of a class. -/
  ne_iff : ∀ value item : Keyed, admits key .ne value item ↔ ¬ item.InClass key value
  /-- `isIn` keeps the classes that are listed. -/
  isIn_iff : ∀ (values : List Keyed) (item : Keyed),
    admits key .isIn (.array values) item ↔ ∃ value ∈ values, item.InClass key value
  /-- `notIn` keeps what is outside of all of them. -/
  notIn_iff : ∀ (values : List Keyed) (item : Keyed),
    admits key .notIn (.array values) item ↔ ¬ ∃ value ∈ values, item.InClass key value
  /-- Any value of a class names it. -/
  of_same : ∀ operator ∈ equalityOperators, ∀ a b : Keyed, a.Same b →
    ∀ item, admits key operator a item = admits key operator b item
  /-- Any list with values of the same classes names these classes. -/
  of_sameValues : ∀ operator ∈ [Operator.isIn, .notIn], ∀ values others : List Keyed,
    Keyed.SameValues values others →
      ∀ item, admits key operator (.array values) item = admits key operator (.array others) item
  /-- Each operator tells items of different classes apart, and only those. -/
  sameUnder_iff : ∀ operator ∈ equalityOperators, ∀ item other : Keyed,
    item.SameUnder key other ↔
      ∀ value, admits key operator value item = admits key operator value other

/-- The operators for equality sort items by classes. -/
theorem sortsByClass (key : String) : SortsByClass key where
  eq_iff _ _ := admits_eq_iff
  ne_iff value item := by rw [admits_ne, Bool.not_eq_true', ← Bool.not_eq_true, admits_eq_iff]
  isIn_iff _ _ := admits_isIn_array_iff
  notIn_iff values item := by
    rw [admits_notIn, Bool.not_eq_true', ← Bool.not_eq_true, admits_isIn_array_iff]
  of_same _ ho _ _ h _ := admits_of_same ho h
  of_sameValues operator ho values others h item := by
    rcases List.mem_pair.1 ho with rfl | rfl
    · exact admits_isIn_array_congr h
    · rw [admits_notIn, admits_notIn, admits_isIn_array_congr h]
  sameUnder_iff _ ho _ _ :=
    ⟨fun h _ => admits_of_sameUnder ho h,
      fun h => Keyed.sameUnder_iff.2 fun _ => inClass_iff_of_admits ho h⟩

/-- **Equality of values is an equivalence, and filters of equality see only its classes.** Two
values are equal if they are numbers with the same float or alike in structure, whatever the order
of their fields; what is missing equals nothing. Whichever values name the classes, `eq`, `ne`,
`isIn` and `notIn` split the items by the same classes. -/
theorem equality_classes (key : String) :
    Equivalence Keyed.Same ∧
      (∀ a b : Keyed, a.Same b ↔ Json.Equal a.toJson b.toJson) ∧
      (∀ value, Json.optionSameAs none value = false) ∧
      Equivalence (Keyed.SameUnder key) ∧ SortsByClass key :=
  ⟨Keyed.equivalence_same, fun _ _ => Keyed.same_iff, fun _ => rfl,
    Keyed.equivalence_sameUnder key, sortsByClass key⟩

/-- An object with its fields in another order names the same class; one with a float in the place
of an integer does not. -/
theorem equality_classes_of_reordered_keys :
    let range : Json := .object [("low", .number (.int 60)), ("high", .number (.int 72))]
    let reordered : Json := .object [("high", .number (.int 72)), ("low", .number (.int 60))]
    let floating : Json := .object [("low", .number (.int 60)), ("high", .number (.float 72.0))]
    ∃ a b c : Keyed, a.toJson = range ∧ b.toJson = reordered ∧ c.toJson = floating ∧
      a.Same b ∧ ¬ a.Same c ∧
      ∀ operator ∈ equalityOperators, ∀ item,
        admits "range" operator a item = admits "range" operator b item := by
  intro range reordered floating
  have hkeys {k l : String} (hkl : k ≠ l) (x y : Number) :
      (Json.object [(k, .number x), (l, .number y)]).HasDistinctKeys :=
    .object (by simpa using hkl) (by simp [Json.HasDistinctKeys.number])
  have hlow := hkeys (show "low" ≠ "high" by decide)
  have hhigh := hkeys (show "high" ≠ "low" by decide)
  have hsame : Json.optionSameAs (some range) reordered := by decide
  have hdifferent : ¬ Json.optionSameAs (some range) floating := by decide
  obtain ⟨-, -, -, -, hsorts⟩ := equality_classes "range"
  exact ⟨⟨range, hlow _ _⟩, ⟨reordered, hhigh _ _⟩, ⟨floating, hlow _ _⟩, rfl, rfl, rfl, hsame,
    hdifferent, fun operator ho => hsorts.of_same operator ho _ _ hsame⟩

end Filter

end DiagnosticReport
