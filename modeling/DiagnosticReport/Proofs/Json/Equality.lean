import DiagnosticReport.Json.Coercion
import DiagnosticReport.Proofs.Binary64.Value
import DiagnosticReport.Proofs.Json.Keys
import Mathlib.Data.List.Perm.Subperm

/-!
# Equality of values

`Json.Alike` is sameness of structure, said without an order of fields: like values stand at the
same places and under the same keys, and floats stand for the same number. Filters compare by
`Json.Equal`, where two numbers are equal if their floats are, also an integer and a float. On
values without repeated keys both are what is computed (`Json.identical_iff`, `Json.sameAs_iff`),
and both are equivalences.
-/

namespace DiagnosticReport.Json

/-- The same structure; an integer is not like a float, and the order of fields does not count. -/
inductive Alike : Json → Json → Prop
  | null : Alike .null .null
  | bool (b : Bool) : Alike (.bool b) (.bool b)
  | int (n : Int) : Alike (.number (.int n)) (.number (.int n))
  | float {x y : Float} (h : Binary64.value x = Binary64.value y) :
      Alike (.number (.float x)) (.number (.float y))
  | string (s : String) : Alike (.string s) (.string s)
  | array {xs ys : List Json} (length : xs.length = ys.length)
      (items : ∀ (i : Nat) x y, xs[i]? = some x → ys[i]? = some y → Alike x y) :
      Alike (.array xs) (.array ys)
  | object {xs ys : List (String × Json)}
      (keys : ∀ key, key ∈ xs.map Prod.fst ↔ key ∈ ys.map Prod.fst)
      (values : ∀ key x y, lookup key xs = some x → lookup key ys = some y → Alike x y) :
      Alike (.object xs) (.object ys)

/-- Equality as filters see it: of numbers by their floats, of anything else by structure. -/
inductive Equal : Json → Json → Prop
  | number {m n : Number} (h : Binary64.value m.toFloat = Binary64.value n.toFloat) :
      Equal (.number m) (.number n)
  | alike {a b : Json} (h : Alike a b) : Equal a b

/-! ## Equivalences -/

namespace Alike

theorem refl {a : Json} (h : a.HasDistinctKeys) : Alike a a := by
  induction h with
  | null => exact .null
  | bool b => exact .bool b
  | number n =>
    cases n with
    | int n => exact .int n
    | float x => exact .float rfl
  | string s => exact .string s
  | array _ ih =>
    refine .array rfl fun i x y hx hy => ?_
    obtain rfl := Option.some.inj (hx.symm.trans hy)
    exact ih x (List.mem_of_getElem? hx)
  | object _ _ ih =>
    refine .object (fun key => Iff.rfl) fun key x y hx hy => ?_
    obtain rfl := Option.some.inj (hx.symm.trans hy)
    exact ih (key, x) (mem_of_lookup hx)

theorem symm {a b : Json} (h : Alike a b) : Alike b a := by
  induction h with
  | null => exact .null
  | bool b => exact .bool b
  | int n => exact .int n
  | float h => exact .float h.symm
  | string s => exact .string s
  | array length _ ih => exact .array length.symm fun i y x hy hx => ih i x y hx hy
  | object keys _ ih =>
    exact .object (fun key => (keys key).symm) fun key y x hy hx => ih key x y hx hy

theorem trans {a b c : Json} (hab : Alike a b) (hbc : Alike b c) : Alike a c := by
  induction hab generalizing c with
  | null | bool | int | string => exact hbc
  | float h =>
    cases hbc with
    | float h' => exact .float (h.trans h')
  | array length _ ih =>
    cases hbc with
    | array length' items =>
      refine .array (length.trans length') fun i x z hx hz => ?_
      -- the array between them is as long, so it has an element at that place
      obtain ⟨hi, -⟩ := List.getElem?_eq_some_iff.1 hx
      exact ih i x _ hx (List.getElem?_eq_getElem (length ▸ hi))
        (items i _ z (List.getElem?_eq_getElem (length ▸ hi)) hz)
  | object keys _ ih =>
    cases hbc with
    | object keys' values =>
      refine .object (fun key => (keys key).trans (keys' key)) fun key x z hx hz => ?_
      obtain ⟨y, hy⟩ := exists_lookup_iff.2 ((keys key).1 (exists_lookup_iff.1 ⟨x, hx⟩))
      exact ih key x y hx hy (values key y z hy hz)

/-- What is like a number is a number with an equal float. -/
theorem exists_number {m : Number} {b : Json} (h : Alike (.number m) b) :
    ∃ n, b = .number n ∧ Binary64.value m.toFloat = Binary64.value n.toFloat := by
  cases h with
  | int n => exact ⟨.int n, rfl, rfl⟩
  | float h => exact ⟨_, rfl, h⟩

end Alike

namespace Equal

theorem exists_number {m : Number} {b : Json} (h : Equal (.number m) b) :
    ∃ n, b = .number n ∧ Binary64.value m.toFloat = Binary64.value n.toFloat := by
  cases h with
  | number h => exact ⟨_, rfl, h⟩
  | alike h => exact h.exists_number

/-- What equals an array is an array with like elements. -/
theorem exists_array {xs : List Json} {b : Json} (h : Equal (.array xs) b) :
    ∃ ys, b = .array ys ∧ xs.length = ys.length ∧
      ∀ (i : Nat) x y, xs[i]? = some x → ys[i]? = some y → Alike x y := by
  cases h with
  | alike h =>
    cases h with
    | array length items => exact ⟨_, rfl, length, items⟩

theorem refl {a : Json} (h : a.HasDistinctKeys) : Equal a a :=
  .alike (.refl h)

theorem symm {a b : Json} (h : Equal a b) : Equal b a := by
  cases h with
  | number h => exact .number h.symm
  | alike h => exact .alike h.symm

theorem trans {a b c : Json} (hab : Equal a b) (hbc : Equal b c) : Equal a c := by
  cases hab with
  | number h =>
    obtain ⟨n, rfl, h'⟩ := hbc.exists_number
    exact .number (h.trans h')
  | alike hab =>
    cases hbc with
    | number h' =>
      obtain ⟨m, rfl, h⟩ := hab.symm.exists_number
      exact .number (h.symm.trans h')
    | alike hbc => exact .alike (hab.trans hbc)

end Equal

/-! ## What is computed -/

/-- Floats are compared by the numbers that they stand for. -/
theorem sameFloat_iff {x y : Float} : sameFloat x y ↔ Binary64.value x = Binary64.value y := by
  rw [sameFloat, beq_iff_eq, Binary64.value_eq_rankValue, Binary64.value_eq_rankValue,
    Binary64.strictMono_rankValue.injective.eq_iff]

/-- Lists are compared item by item. -/
theorem identicalItems_iff {xs ys : List Json} :
    identicalItems xs ys ↔ xs.length = ys.length ∧
      ∀ (i : Nat) x y, xs[i]? = some x → ys[i]? = some y → identical x y := by
  induction xs generalizing ys with
  | nil => cases ys <;> simp [identicalItems]
  | cons x xs ih =>
    cases ys with
    | nil => simp [identicalItems]
    | cons y ys =>
      rw [identicalItems, Bool.and_eq_true, ih, List.length_cons, List.length_cons, Nat.succ_inj]
      constructor
      · rintro ⟨hfirst, hlength, hrest⟩
        refine ⟨hlength, fun i a b ha hb => ?_⟩
        cases i with
        | zero =>
          obtain rfl := Option.some.inj ha
          obtain rfl := Option.some.inj hb
          exact hfirst
        | succ i => exact hrest i a b ha hb
      · rintro ⟨hlength, hitems⟩
        exact ⟨hitems 0 x y rfl rfl, hlength, fun i => hitems (i + 1)⟩

/-- One record is in another if each of its fields has its like there. -/
theorem containedIn_iff {xs ys : List (String × Json)} :
    containedIn ys xs ↔ ∀ field ∈ xs, ∃ y, lookup field.1 ys = some y ∧ identical field.2 y := by
  induction xs with
  | nil => simp [containedIn]
  | cons field xs ih =>
    rw [containedIn, Bool.and_eq_true, ih, List.forall_mem_cons]
    refine and_congr_left fun _ => ?_
    cases lookup field.1 ys <;> simp

/-- Fields whose keys are among those of as many other fields have the same keys. -/
theorem mem_keys_iff_of_subset {xs ys : List (String × Json)} (hxs : (xs.map Prod.fst).Nodup)
    (hlength : xs.length = ys.length) (hsub : xs.map Prod.fst ⊆ ys.map Prod.fst) (key : String) :
    key ∈ xs.map Prod.fst ↔ key ∈ ys.map Prod.fst := by
  have hperm := (hxs.subperm hsub).perm_of_length_le (by simp [hlength])
  exact hperm.mem_iff

/-- Records with the same distinct keys have as many fields. -/
theorem length_eq_of_mem_keys_iff {xs ys : List (String × Json)}
    (hxs : (xs.map Prod.fst).Nodup) (hys : (ys.map Prod.fst).Nodup)
    (hkeys : ∀ key, key ∈ xs.map Prod.fst ↔ key ∈ ys.map Prod.fst) : xs.length = ys.length := by
  have hperm := (List.perm_ext_iff_of_nodup hxs hys).2 hkeys
  simpa using hperm.length_eq

theorem identical_number_iff (m n : Number) :
    identical (.number m) (.number n) ↔ Alike (.number m) (.number n) := by
  cases m with
  | int m =>
    cases n with
    | int n =>
      rw [identical, beq_iff_eq]
      exact ⟨fun h => h ▸ .int m, fun h => by cases h; rfl⟩
    | float y => exact iff_of_false nofun nofun
  | float x =>
    cases n with
    | int n => exact iff_of_false nofun nofun
    | float y =>
      rw [identical, sameFloat_iff]
      exact ⟨.float, fun h => by cases h; assumption⟩

/-- Arrays are alike if their items are. -/
theorem identical_array_iff {xs ys : List Json}
    (hitems : ∀ x ∈ xs, ∀ y ∈ ys, identical x y ↔ Alike x y) :
    identical (.array xs) (.array ys) ↔ Alike (.array xs) (.array ys) := by
  rw [identical, identicalItems_iff]
  constructor
  · rintro ⟨hlength, hidentical⟩
    exact .array hlength fun i x y hx hy =>
      (hitems x (List.mem_of_getElem? hx) y (List.mem_of_getElem? hy)).1 (hidentical i x y hx hy)
  · intro h
    cases h with
    | array hlength halike =>
      exact ⟨hlength, fun i x y hx hy =>
        (hitems x (List.mem_of_getElem? hx) y (List.mem_of_getElem? hy)).2 (halike i x y hx hy)⟩

/-- Records are alike if their fields are, in any order. -/
theorem identical_object_iff {xs ys : List (String × Json)} (hxs : (xs.map Prod.fst).Nodup)
    (hys : (ys.map Prod.fst).Nodup)
    (hfields : ∀ a ∈ xs, ∀ b ∈ ys, identical a.2 b.2 ↔ Alike a.2 b.2) :
    identical (.object xs) (.object ys) ↔ Alike (.object xs) (.object ys) := by
  have hvalue (key : String) (x y : Json) (hx : lookup key xs = some x)
      (hy : lookup key ys = some y) : identical x y ↔ Alike x y :=
    hfields _ (mem_of_lookup hx) _ (mem_of_lookup hy)
  rw [identical, Bool.and_eq_true, beq_iff_eq, containedIn_iff]
  constructor
  · rintro ⟨hlength, hcontained⟩
    have hsub : xs.map Prod.fst ⊆ ys.map Prod.fst := by
      intro key hkey
      obtain ⟨field, hfield, rfl⟩ := List.mem_map.1 hkey
      obtain ⟨y, hy, -⟩ := hcontained field hfield
      exact exists_lookup_iff.1 ⟨y, hy⟩
    refine .object (mem_keys_iff_of_subset hxs hlength hsub) fun key x y hx hy => ?_
    obtain ⟨z, hz, hidentical⟩ := hcontained (key, x) (mem_of_lookup hx)
    obtain rfl := Option.some.inj (hy.symm.trans hz)
    exact (hvalue key x y hx hy).1 hidentical
  · intro h
    cases h with
    | object hkeys halike =>
      refine ⟨length_eq_of_mem_keys_iff hxs hys hkeys, fun field hfield => ?_⟩
      have hx := (lookup_eq_some_iff hxs).2 hfield
      obtain ⟨y, hy⟩ := exists_lookup_iff.2 ((hkeys field.1).1 (exists_lookup_iff.1 ⟨_, hx⟩))
      exact ⟨y, hy, (hvalue field.1 field.2 y hx hy).2 (halike field.1 field.2 y hx hy)⟩

/-- The nested test decides the nested relation. -/
theorem identical_iff {a b : Json} (ha : a.HasDistinctKeys) (hb : b.HasDistinctKeys) :
    identical a b ↔ Alike a b := by
  induction ha generalizing b with
  | null =>
    cases b with
    | null => exact iff_of_true rfl .null
    | _ => exact iff_of_false nofun nofun
  | bool p =>
    cases b with
    | bool q =>
      rw [identical, beq_iff_eq]
      exact ⟨fun h => h ▸ .bool p, fun h => by cases h; rfl⟩
    | _ => exact iff_of_false nofun nofun
  | number m =>
    cases b with
    | number n => exact identical_number_iff m n
    | _ => cases m <;> exact iff_of_false nofun nofun
  | string s =>
    cases b with
    | string t =>
      rw [identical, beq_iff_eq]
      exact ⟨fun h => h ▸ .string s, fun h => by cases h; rfl⟩
    | _ => exact iff_of_false nofun nofun
  | array _ ih =>
    cases b with
    | array ys => exact identical_array_iff fun x hx y hy => ih x hx (hb.of_mem hy)
    | _ => exact iff_of_false nofun nofun
  | object hxs _ ih =>
    cases b with
    | object ys =>
      cases hb with
      | object hys hvalues =>
        exact identical_object_iff hxs hys fun x hx y hy => ih x hx (hvalues y hy)
    | _ => exact iff_of_false nofun nofun

/-- **The test decides equality**, wherever keys are distinct. -/
theorem sameAs_iff {a b : Json} (ha : a.HasDistinctKeys) (hb : b.HasDistinctKeys) :
    sameAs a b ↔ Equal a b := by
  unfold sameAs
  split
  case h_1 m n =>
    rw [sameFloat_iff]
    refine ⟨.number, fun h => ?_⟩
    obtain ⟨_, ⟨⟩, hvalue⟩ := h.exists_number
    exact hvalue
  case h_2 hnumbers =>
    rw [identical_iff ha hb]
    refine ⟨.alike, fun h => ?_⟩
    cases h with
    | number => exact absurd rfl (hnumbers _ _ rfl)
    | alike h => exact h

/-- A value without repeated keys, as every value that is read from a text
(`hasDistinctKeys_of_parse?`). -/
@[ext]
structure Keyed where
  toJson : Json
  hasDistinctKeys : toJson.HasDistinctKeys

/-- Filters take the values for equal. -/
def Keyed.Same (a b : Keyed) : Prop :=
  optionSameAs (some a.toJson) b.toJson

theorem Keyed.same_iff {a b : Keyed} : a.Same b ↔ Equal a.toJson b.toJson :=
  sameAs_iff a.hasDistinctKeys b.hasDistinctKeys

/-- Equality is an equivalence of values with distinct keys. -/
theorem Keyed.equivalence_same : Equivalence Keyed.Same where
  refl a := same_iff.2 (.refl a.hasDistinctKeys)
  symm h := same_iff.2 (same_iff.1 h).symm
  trans hab hbc := same_iff.2 ((same_iff.1 hab).trans (same_iff.1 hbc))

end DiagnosticReport.Json
