import DiagnosticReport.Json.Decode
import DiagnosticReport.Proofs.Except
import DiagnosticReport.Proofs.Json.Keys

/-!
# Reading objects field by field

What a field of an object does to a structure, or that it cannot be read, does not depend on the
fields before it (`Record.step`). So the fault of an object is the first fault among its fields
(`Record.fault?_readObject`), and a part of the structure that only one field sets comes from the
value of that field (`Record.proj_readObject`).
-/

namespace DiagnosticReport

namespace Record

variable {ρ : Type} (record : Record ρ)

/-- What a field of an object does to a structure; an unknown field of an open record does
nothing. -/
def step (field : String × Json) : Except DecodeError (ρ → ρ) :=
  match record.fields.find? fun f => f.name == field.1 with
  | some f => f.read field.2
  | none =>
    if record.isOpen then .ok id
    else .error (.unknownField field.1 (record.fields.map Field.name))

theorem readField_eq (done : ρ) (field : String × Json) :
    record.readField done field = (record.step field).map fun set => set done := by
  unfold readField step
  cases record.fields.find? fun f => f.name == field.1 with
  | some f => rfl
  | none => cases record.isOpen <;> rfl

theorem foldlM_readField_cons (done : ρ) (field : String × Json) (fields : List (String × Json)) :
    (field :: fields).foldlM record.readField done =
      match record.step field with
      | .ok set => fields.foldlM record.readField (set done)
      | .error e => .error e := by
  rw [List.foldlM_cons, readField_eq]
  cases record.step field <;> rfl

/-! ## Faults -/

/-- The first field that is required and missing. -/
def missing? (fields : List (String × Json)) : Option (Field ρ) :=
  record.fields.find? fun f =>
    f.presence == .required && !fields.any fun field => field.1 == f.name

theorem fault?_foldlM_readField (done : ρ) (fields : List (String × Json)) :
    fault? (fields.foldlM record.readField done) =
      fields.findSome? fun field => fault? (record.step field) := by
  induction fields generalizing done with
  | nil => rfl
  | cons field fields ih =>
    rw [foldlM_readField_cons, List.findSome?_cons]
    cases record.step field with
    | ok set => exact ih (set done)
    | error e => rfl

theorem readObject_eq (fields : List (String × Json)) :
    record.readObject fields =
      match fields.foldlM record.readField record.blank, record.missing? fields with
      | .error e, _ => .error e
      | .ok _, some f => .error (.missingField f.name)
      | .ok result, none => .ok result := by
  unfold readObject missing?
  cases fields.foldlM record.readField record.blank with
  | error e => rfl
  | ok result =>
    show (match record.fields.find? _ with | some f => _ | none => _) = _
    split <;> rename_i h <;> rw [h]

/-- The fault of an object is that of its first bad field, or that a field is missing. -/
theorem fault?_readObject (fields : List (String × Json)) :
    fault? (record.readObject fields) =
      (fields.findSome? fun field => fault? (record.step field)).or
        ((record.missing? fields).map fun f => .missingField f.name) := by
  have hfold := record.fault?_foldlM_readField record.blank fields
  rw [readObject_eq]
  cases hread : fields.foldlM record.readField record.blank with
  | error e =>
    rw [hread] at hfold
    rw [← hfold]
    rfl
  | ok result =>
    rw [hread] at hfold
    rw [← hfold]
    cases record.missing? fields <;> rfl

section

variable {name : String} {fields others : List (String × Json)}

theorem findSome?_filter_ne (hreads : ∀ value, fault? (record.step (name, value)) = none) :
    (fields.filter (·.1 ≠ name)).findSome? (fun field => fault? (record.step field)) =
      fields.findSome? fun field => fault? (record.step field) := by
  rw [← List.head?_filterMap, ← List.head?_filterMap, List.filterMap_filter]
  congr 2
  funext ⟨key, value⟩
  by_cases h : key = name
  · subst h
    simp [hreads value]
  · simp [h]

theorem missing?_filter_ne (hfree : ∀ f ∈ record.fields, f.presence = .required → f.name ≠ name) :
    record.missing? (fields.filter (·.1 ≠ name)) = record.missing? fields := by
  unfold missing?
  rw [← List.head?_filter, ← List.head?_filter]
  congr 1
  refine List.filter_congr fun f hf => ?_
  by_cases hrequired : f.presence = .required
  · have hany : ((fields.filter (·.1 ≠ name)).any fun field => field.1 == f.name) =
        fields.any fun field => field.1 == f.name := by
      rw [List.any_filter]
      congr 1
      funext field
      by_cases h : field.1 = f.name
      · simp [h, hfree f hf hrequired]
      · simp [h]
    rw [hany]
  · have hfalse : (f.presence == .required) = false := beq_eq_false_iff_ne.2 hrequired
    rw [hfalse, Bool.false_and, Bool.false_and]

/-- A field that can always be read and is not required has no part in the fault of an object. -/
theorem fault?_readObject_congr (hreads : ∀ value, fault? (record.step (name, value)) = none)
    (hfree : ∀ f ∈ record.fields, f.presence = .required → f.name ≠ name)
    (h : fields.filter (·.1 ≠ name) = others.filter (·.1 ≠ name)) :
    fault? (record.readObject fields) = fault? (record.readObject others) := by
  rw [fault?_readObject, fault?_readObject, ← record.findSome?_filter_ne hreads,
    ← record.missing?_filter_ne hfree, h, record.findSome?_filter_ne hreads,
    record.missing?_filter_ne hfree]

end

/-! ## Parts of the structure -/

theorem readObject_eq_ok {fields : List (String × Json)} {result : ρ}
    (h : record.readObject fields = .ok result) :
    fields.foldlM record.readField record.blank = .ok result ∧ record.missing? fields = none := by
  rw [readObject_eq] at h
  split at h
  · cases h
  · cases h
  · next hread hmissing =>
    cases h
    exact ⟨hread, hmissing⟩

/-- What no field breaks holds of the structure that was read. -/
theorem readObject_induction {P : ρ → Prop} (hblank : P record.blank)
    (hstep : ∀ field set, record.step field = .ok set → ∀ done, P done → P (set done))
    {fields : List (String × Json)} {result : ρ} (h : record.readObject fields = .ok result) :
    P result := by
  have hfold := (record.readObject_eq_ok h).1
  clear h
  generalize record.blank = done at hblank hfold
  induction fields generalizing done with
  | nil =>
    cases hfold
    exact hblank
  | cons field fields ih =>
    rw [foldlM_readField_cons] at hfold
    split at hfold
    · next set hset => exact ih (set done) (hstep field set hset done hblank) hfold
    · cases hfold

section

variable {β : Type} (proj : ρ → β) (name : String) (own : Json → β)
  {fields : List (String × Json)} {result : ρ}

theorem proj_foldlM_readField
    (hstep : ∀ field set, record.step field = .ok set →
      ∀ done, proj (set done) = if field.1 = name then own field.2 else proj done)
    (hkeys : (fields.map Prod.fst).Nodup) {done : ρ}
    (h : fields.foldlM record.readField done = .ok result) :
    proj result = ((Json.lookup name fields).map own).getD (proj done) := by
  induction fields generalizing done with
  | nil =>
    cases h
    rfl
  | cons field fields ih =>
    obtain ⟨hfresh, hkeys⟩ := List.nodup_cons.1 hkeys
    rw [foldlM_readField_cons] at h
    split at h
    · next set hset =>
      rw [ih hkeys h, Json.lookup_cons, hstep field set hset done]
      by_cases hname : field.1 = name
      · have habsent : Json.lookup name fields = none := Json.lookup_eq_none_iff.2 (hname ▸ hfresh)
        rw [if_pos hname, if_pos hname, habsent]
        rfl
      · rw [if_neg hname, if_neg hname]
    · cases h

/-- A part of the structure that only the field `name` sets is what the value of that field says. -/
theorem proj_readObject
    (hstep : ∀ field set, record.step field = .ok set →
      ∀ done, proj (set done) = if field.1 = name then own field.2 else proj done)
    (hkeys : (fields.map Prod.fst).Nodup) (h : record.readObject fields = .ok result) :
    proj result = ((Json.lookup name fields).map own).getD (proj record.blank) :=
  record.proj_foldlM_readField proj name own hstep hkeys (record.readObject_eq_ok h).1

end

/-- An object that was read has all required fields. -/
theorem lookup_of_required {fields : List (String × Json)} {result : ρ} {f : Field ρ}
    (h : record.readObject fields = .ok result) (hf : f ∈ record.fields)
    (hrequired : f.presence = .required) : ∃ value, Json.lookup f.name fields = some value := by
  have hmissing := List.find?_eq_none.1 (record.readObject_eq_ok h).2 f hf
  refine Option.ne_none_iff_exists'.1 fun hnone => ?_
  rw [Json.lookup_eq_none_iff] at hnone
  simp [hrequired] at hmissing
  obtain ⟨value, hvalue⟩ := hmissing
  exact hnone (List.mem_map.2 ⟨_, hvalue, rfl⟩)

end Record

end DiagnosticReport
