import DiagnosticReport.Json.Syntax
import Mathlib.Data.List.Nodup

/-!
# Keys of objects

A value that was read from text has no repeated keys, at any depth
(`Json.hasDistinctKeys_of_parse?`): a repeated key replaces the value that it had before.
-/

namespace DiagnosticReport

namespace Json

/-- No object in the value repeats a key. -/
inductive HasDistinctKeys : Json → Prop
  | null : HasDistinctKeys .null
  | bool (b : Bool) : HasDistinctKeys (.bool b)
  | number (n : Number) : HasDistinctKeys (.number n)
  | string (s : String) : HasDistinctKeys (.string s)
  | array {items : List Json} (values : ∀ item ∈ items, HasDistinctKeys item) :
      HasDistinctKeys (.array items)
  | object {fields : List (String × Json)} (keys : (fields.map Prod.fst).Nodup)
      (values : ∀ field ∈ fields, HasDistinctKeys field.2) : HasDistinctKeys (.object fields)

/-! ## Lookup -/

section

variable {key name : String} {value : Json} {fields : List (String × Json)}

theorem lookup_cons (field : String × Json) (fields : List (String × Json)) :
    lookup name (field :: fields) =
      if field.1 = name then some field.2 else lookup name fields := by
  by_cases h : field.1 = name <;> simp [lookup, h]

theorem mem_of_lookup (h : lookup key fields = some value) : (key, value) ∈ fields := by
  obtain ⟨⟨name, found⟩, hfind, rfl⟩ := Option.map_eq_some_iff.1 h
  obtain rfl : name = key := by simpa using List.find?_some hfind
  exact List.mem_of_find?_eq_some hfind

/-- Where keys are distinct, a lookup finds just the entries. -/
theorem lookup_eq_some_iff (h : (fields.map Prod.fst).Nodup) :
    lookup key fields = some value ↔ (key, value) ∈ fields := by
  refine ⟨mem_of_lookup, fun hmem => ?_⟩
  induction fields with
  | nil => cases hmem
  | cons field fields ih =>
    obtain ⟨hfresh, hnodup⟩ := List.nodup_cons.1 h
    rw [lookup_cons]
    rcases List.mem_cons.1 hmem with rfl | hmem
    · exact if_pos rfl
    · have hne : field.1 ≠ key := fun heq => hfresh (heq ▸ List.mem_map_of_mem hmem)
      rw [if_neg hne, ih hnodup hmem]

/-- A lookup fails for the keys that are not there. -/
theorem lookup_eq_none_iff : lookup key fields = none ↔ key ∉ fields.map Prod.fst := by
  rw [lookup, Option.map_eq_none_iff, List.find?_eq_none]
  simp only [beq_iff_eq, List.mem_map, not_exists, not_and]

theorem exists_lookup_iff :
    (∃ value, lookup key fields = some value) ↔ key ∈ fields.map Prod.fst := by
  rw [← Option.ne_none_iff_exists', ne_eq, lookup_eq_none_iff, not_not]

theorem HasDistinctKeys.of_lookup (h : (Json.object fields).HasDistinctKeys)
    (hlookup : lookup key fields = some value) : value.HasDistinctKeys := by
  cases h with
  | object _ values => exact values _ (mem_of_lookup hlookup)

theorem HasDistinctKeys.nodup (h : (Json.object fields).HasDistinctKeys) :
    (fields.map Prod.fst).Nodup := by
  cases h with
  | object keys _ => exact keys

theorem HasDistinctKeys.of_mem {items : List Json} {item : Json}
    (h : (Json.array items).HasDistinctKeys) (hitem : item ∈ items) : item.HasDistinctKeys := by
  cases h with
  | array values => exact values item hitem

theorem HasDistinctKeys.of_get? {raw : Json} (h : raw.HasDistinctKeys)
    (hvalue : raw.get? key = some value) : value.HasDistinctKeys := by
  cases raw with
  | object fields => exact h.of_lookup hvalue
  | _ => cases hvalue

theorem HasDistinctKeys.of_mem_arrayAt? {raw item : Json} {items : List Json}
    (h : raw.HasDistinctKeys) (harray : raw.arrayAt? key = some items) (hitem : item ∈ items) :
    item.HasDistinctKeys := by
  obtain ⟨list, hlist, hitems⟩ := Option.bind_eq_some_iff.1 harray
  have hdistinct := h.of_get? hlist
  cases list with
  | array list =>
    cases hitems
    exact hdistinct.of_mem hitem
  | _ => cases hitems

/-! ## Setting keys -/

/-- Setting a key adds it at the end, unless it is there. -/
theorem map_fst_put (key : String) (value : Json) (fields : List (String × Json)) :
    (put key value fields).map Prod.fst =
      if key ∈ fields.map Prod.fst then fields.map Prod.fst else fields.map Prod.fst ++ [key] := by
  have hany : (fields.any fun field => field.1 == key) = decide (key ∈ fields.map Prod.fst) := by
    rw [Bool.eq_iff_iff]
    simp
  rw [put, hany]
  by_cases h : key ∈ fields.map Prod.fst
  · rw [if_pos h, if_pos (decide_eq_true h), List.map_map]
    refine List.map_congr_left fun field _ => ?_
    by_cases hkey : field.1 = key <;> simp [hkey]
  · rw [if_neg h, if_neg (by simpa using h), List.map_append]
    rfl

/-- Setting a key keeps keys distinct. -/
theorem nodup_put (h : (fields.map Prod.fst).Nodup) :
    ((put key value fields).map Prod.fst).Nodup := by
  rw [map_fst_put]
  split
  · exact h
  · next hnew =>
    refine List.nodup_append.2 ⟨h, List.nodup_singleton _, fun a ha b hb hab => ?_⟩
    rw [List.mem_singleton] at hb
    exact hnew (hb ▸ hab ▸ ha)

theorem mem_put {field : String × Json} (h : field ∈ put key value fields) :
    field = (key, value) ∨ field ∈ fields := by
  unfold put at h
  split at h
  · obtain ⟨old, hold, rfl⟩ := List.mem_map.1 h
    split
    · exact .inl rfl
    · exact .inr hold
  · simpa [or_comm] using h

end

end Json

/-! ## Reading -/

namespace Syntax

mutual

/-- A value that was read has distinct keys, by induction on its syntax. -/
theorem hasDistinctKeys_of_toJsonWithin? {depth : Nat} {value : Json} :
    ∀ tree : Syntax, tree.toJsonWithin? depth = some value → value.HasDistinctKeys
  | null, h => by cases h; exact .null
  | bool b, h => by cases h; exact .bool b
  | number n, h => by
    obtain ⟨x, -, rfl⟩ := Option.map_eq_some_iff.1 h
    exact .number x
  | string s, h => by
    obtain ⟨text, -, rfl⟩ := Option.map_eq_some_iff.1 h
    exact .string text
  | array items, h => by
    cases depth with
    | zero => cases h
    | succ depth =>
      obtain ⟨values, hvalues, rfl⟩ := Option.map_eq_some_iff.1 h
      exact .array (hasDistinctKeys_of_itemsWithin? items hvalues)
  | object fields, h => by
    cases depth with
    | zero => cases h
    | succ depth =>
      obtain ⟨values, hvalues, rfl⟩ := Option.map_eq_some_iff.1 h
      have hempty : (Json.object []).HasDistinctKeys := .object List.nodup_nil (by simp)
      exact hasDistinctKeys_of_fieldsWithin? fields hempty hvalues

theorem hasDistinctKeys_of_itemsWithin? {depth : Nat} {values : List Json} :
    ∀ items : List Syntax, itemsWithin? depth items = some values →
      ∀ value ∈ values, value.HasDistinctKeys
  | [], h => by cases h; nofun
  | item :: rest, h => by
    rw [itemsWithin?, Option.bind_eq_bind, Option.bind_eq_some_iff] at h
    obtain ⟨first, hfirst, h⟩ := h
    obtain ⟨others, hothers, h⟩ := Option.bind_eq_some_iff.1 h
    cases h
    exact List.forall_mem_cons.2 ⟨hasDistinctKeys_of_toJsonWithin? item hfirst,
      hasDistinctKeys_of_itemsWithin? rest hothers⟩

/-- Each field is put into an object that has no repeated key so far. -/
theorem hasDistinctKeys_of_fieldsWithin? {depth : Nat} {done result : List (String × Json)} :
    ∀ fields : List (Option String × Syntax), (Json.object done).HasDistinctKeys →
      fieldsWithin? depth done fields = some result → (Json.object result).HasDistinctKeys
  | [], hdone, h => by cases h; exact hdone
  | (key, item) :: rest, hdone, h => by
    rw [fieldsWithin?, Option.bind_eq_bind, Option.bind_eq_some_iff] at h
    obtain ⟨name, -, h⟩ := h
    obtain ⟨value, hvalue, h⟩ := Option.bind_eq_some_iff.1 h
    refine hasDistinctKeys_of_fieldsWithin? rest ?_ h
    cases hdone with
    | object keys values =>
      refine .object (Json.nodup_put keys) fun field hfield => ?_
      rcases Json.mem_put hfield with rfl | hfield
      · exact hasDistinctKeys_of_toJsonWithin? item hvalue
      · exact values field hfield

end

end Syntax

/-- **Whatever is read has distinct keys**, although a text may repeat them. -/
theorem Json.hasDistinctKeys_of_parse? {text : String} {value : Json}
    (h : Json.parse? text = some value) : value.HasDistinctKeys := by
  obtain ⟨tree, -, htree⟩ := Option.bind_eq_some_iff.1 h
  exact tree.hasDistinctKeys_of_toJsonWithin? htree

end DiagnosticReport
