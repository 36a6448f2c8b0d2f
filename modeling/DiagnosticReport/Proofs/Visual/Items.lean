import DiagnosticReport.Visual.Item

/-!
# Items of bound values

`Item.Holds` tells the items of a bound value by its shape, and `Item.Shows` those of them that a
section shows. Each value holds the items that visuals are drawn from, and no others
(`Item.holds_iff`).
-/

namespace DiagnosticReport.Item

/-- The fields of a record under which a section looks for items, first one first. -/
def listFields (s : Section) : List String :=
  (s.textOption? "items_field").toList ++ nestedFields

/-- The items that a bound value holds. -/
inductive Holds (s : Section) : Option Json → List Json → Prop
  | missing : Holds s none []
  | null : Holds s (some .null) []
  | array (items : List Json) : Holds s (some (.array items)) items
  /-- A record holds the first list that it has under a field for items. -/
  | list {fields : List (String × Json)} {earlier later : List String} {field : String}
      {items : List Json} (hfields : listFields s = earlier ++ field :: later)
      (hitems : (Json.object fields).arrayAt? field = some items)
      (hfirst : ∀ other ∈ earlier, (Json.object fields).arrayAt? other = none) :
      Holds s (some (.object fields)) items
  /-- A record without such a list is an item. -/
  | record {fields : List (String × Json)}
      (h : ∀ field ∈ listFields s, (Json.object fields).arrayAt? field = none) :
      Holds s (some (.object fields)) [.object fields]
  | scalar {value : Json} (hnull : value ≠ .null) (harray : ∀ items, value ≠ .array items)
      (hrecord : ∀ fields, value ≠ .object fields) : Holds s (some value) [value]

/-- Of the items that a bound value holds, a section shows the first ones, as many as its option
allows, or all of them if the option is not set. -/
def Shows (s : Section) (value : Option Json) (shown : List Json) : Prop :=
  ∃ items, Holds s value items ∧
    (∀ most, s.countOption? "max_items" = some most → shown = items.take most) ∧
      (s.countOption? "max_items" = none → shown = items)

section

variable {s : Section} {fields : List (String × Json)} {earlier later : List String}
  {field : String} {items : List Json}

/-- A record without a list under the earlier fields holds its items under the next one. -/
theorem nested?_eq_some (hfields : listFields s = earlier ++ field :: later)
    (hitems : (Json.object fields).arrayAt? field = some items)
    (hfirst : ∀ other ∈ earlier, (Json.object fields).arrayAt? other = none) :
    nested? s (.object fields) = some items := by
  have hearlier : earlier.findSome? (fun field => (Json.object fields).arrayAt? field) = none :=
    List.findSome?_eq_none_iff.2 hfirst
  rw [nested?, ← listFields, hfields, List.findSome?_append, hearlier, Option.none_or,
    List.findSome?_cons, hitems]

end

theorem holds_all (s : Section) (value : Option Json) : Holds s value (all s value) := by
  match value with
  | none => exact .missing
  | some .null => exact .null
  | some (.array items) => exact .array items
  | some (.bool b) => exact .scalar nofun nofun nofun
  | some (.number n) => exact .scalar nofun nofun nofun
  | some (.string text) => exact .scalar nofun nofun nofun
  | some (.object fields) =>
    rw [all]
    cases hnested : nested? s (.object fields) with
    | none => exact .record (List.findSome?_eq_none_iff.1 hnested)
    | some items =>
      obtain ⟨earlier, field, later, hfields, hitems, hfirst⟩ :=
        List.findSome?_eq_some_iff.1 hnested
      exact .list hfields hitems hfirst

/-- A bound value holds the items that visuals are drawn from, and no others. -/
theorem holds_iff {s : Section} {value : Option Json} {items : List Json} :
    Holds s value items ↔ items = all s value := by
  constructor
  · intro h
    cases h with
    | missing | null | array => rfl
    | list hfields hitems hfirst =>
      rw [all, nested?_eq_some hfields hitems hfirst, Option.getD_some]
    | @record fields h =>
      have hnone : nested? s (.object fields) = none := List.findSome?_eq_none_iff.2 h
      rw [all, hnone, Option.getD_none]
    | @scalar value hnull harray hrecord =>
      cases value with
      | null => exact absurd rfl hnull
      | array items => exact absurd rfl (harray items)
      | object fields => exact absurd rfl (hrecord fields)
      | _ => rfl
  · rintro rfl
    exact holds_all s value

theorem shows_shown (s : Section) (value : Option Json) : Shows s value (shown s value) := by
  refine ⟨all s value, holds_all s value, fun most hmost => ?_, fun hnone => ?_⟩
  · rw [shown, limit, hmost]
  · rw [shown, limit, hnone]

end DiagnosticReport.Item
