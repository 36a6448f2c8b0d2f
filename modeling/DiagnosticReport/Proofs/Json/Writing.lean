import DiagnosticReport.Proofs.Json.Records
import DiagnosticReport.Query.Format

/-!
# Reading back what was written

A structure is written as the fields of its record, in their order; a field may be left out if
reading starts from the value that the structure has there (`Field.Restores`). An object that was
written so is read back as the structure (`Record.read_ofFields`). Not every structure can be
written so, but one that was read can: what holds of the blank structure and what no field breaks
holds of all that was read, from an object or from an array (`Record.read_induction`).
-/

namespace DiagnosticReport

/-! ## What was read -/

namespace Record

variable {ρ : Type} (record : Record ρ)

theorem step_eq_ok {field : String × Json} {set : ρ → ρ} (h : record.step field = .ok set) :
    (∃ f ∈ record.fields, f.read field.2 = .ok set) ∨ set = id := by
  unfold step at h
  split at h
  · next f hf => exact .inl ⟨f, List.mem_of_find?_eq_some hf, h⟩
  · split at h <;> cases h
    exact .inr rfl

section

variable {record} {P : ρ → Prop} (hfield : ∀ f ∈ record.fields, ∀ value set,
  f.read value = .ok set → ∀ done, P done → P (set done))

include hfield

theorem readElements_induction {length index : Nat} {done result : ρ} {fields : List (Field ρ)}
    {items : List Json} (hfields : fields ⊆ record.fields) (hdone : P done)
    (h : record.readElements length index done fields items = .ok result) : P result := by
  induction fields generalizing index done items with
  | nil =>
    cases items with
    | nil =>
      cases h
      exact hdone
    | cons item items => cases h
  | cons f fields ih =>
    obtain ⟨hf, hfields⟩ := List.cons_subset.1 hfields
    cases items with
    | nil =>
      rw [readElements] at h
      split at h
      · exact ih hfields hdone h
      · cases h
    | cons item items =>
      rw [readElements, except_bind_eq_ok] at h
      obtain ⟨set, hset, h⟩ := h
      exact ih hfields (hfield f hf item set hset done hdone) h

/-- What holds of the blank structure and what no field breaks holds of all that was read. -/
theorem read_induction {raw : Json} {result : ρ} (hblank : P record.blank)
    (h : record.read raw = .ok result) : P result := by
  cases raw with
  | object fields =>
    refine record.readObject_induction hblank (fun field set hset done hdone => ?_) h
    obtain ⟨f, hf, hread⟩ | rfl := record.step_eq_ok hset
    · exact hfield f hf field.2 set hread done hdone
    · exact hdone
  | array items => exact readElements_induction hfield (List.Subset.refl _) hblank h
  | _ => cases h

end

end Record

/-! ## Fields -/

namespace Field

variable {ρ α : Type}

/-- Reading the field from what was written for it, or leaving it out, turns the structure `done`
into `next`. -/
def Restores (f : Field ρ) (value? : Option Json) (done next : ρ) : Prop :=
  match value? with
  | some value => ∃ set, f.read value = .ok set ∧ set done = next
  | none => f.presence ≠ .required ∧ done = next

section

variable {name : String} {presence : Presence} {reader : Reader α} {set : α → ρ → ρ}
  {shape : Shape} {value : Json} {a : α} {done : ρ}

/-- A field that is always written. -/
theorem restores_some (h : reader value = .ok a) :
    (Field.of name presence reader set shape).Restores (some value) done (set a done) :=
  ⟨set a, by simp only [Field.of, h]; rfl, rfl⟩

/-- A field that is left out where it has the value that the structure starts with. -/
theorem restores_unless {skip : Bool} {blank : α} (hpresence : presence ≠ .required)
    (hblank : done = set blank done) (hskip : skip → a = blank) (h : reader value = .ok a) :
    (Field.of name presence reader set shape).Restores (if skip then none else some value)
      done (set a done) := by
  cases skip with
  | true => exact ⟨hpresence, hskip rfl ▸ hblank⟩
  | false => exact restores_some h

/-- A field that is left out if it is not set. -/
theorem restores_map {set : Option α → ρ → ρ} {write : α → Json} (x : Option α)
    (hpresence : presence ≠ .required) (hskip : done = set none done)
    (h : ∀ a, x = some a → Reader.nullable reader (write a) = .ok (some a)) :
    (Field.of name presence (.nullable reader) set shape).Restores (x.map write)
      done (set x done) := by
  cases x with
  | none => exact ⟨hpresence, hskip⟩
  | some a => exact restores_some (h a rfl)

/-- A field with a value of its own, which is written as it is. -/
theorem restores_self {reader : Reader Json} {set : Option Json → ρ → ρ} (x : Option Json)
    (hpresence : presence ≠ .required) (hskip : done = set none done)
    (h : ∀ value, x = some value → Reader.nullable reader value = .ok (some value)) :
    (Field.of name presence (.nullable reader) set shape).Restores x done (set x done) := by
  cases x with
  | none => exact ⟨hpresence, hskip⟩
  | some value => exact restores_some (h value rfl)

end

end Field

/-! ## Records -/

/-- The fields that have a value. -/
def Json.given (entries : List (String × Option Json)) : List (String × Json) :=
  entries.filterMap fun (key, value) => value.map fun v => (key, v)

theorem Json.mem_given {key : String} {value : Json} {entries : List (String × Option Json)}
    (h : (key, some value) ∈ entries) : (key, value) ∈ Json.given entries :=
  List.mem_filterMap.2 ⟨_, h, rfl⟩

namespace Record

variable {ρ : Type} (record : Record ρ)

/-- What was written for the given fields, one after the other, turns `done` into the result. -/
inductive Restores : List (Field ρ) → ρ → List (String × Option Json) → ρ → Prop
  | nil (done : ρ) : Restores [] done [] done
  | cons {f : Field ρ} {fields : List (Field ρ)} {value? : Option Json} {done next result : ρ}
      {entries : List (String × Option Json)} (first : f.Restores value? done next)
      (rest : Restores fields next entries result) :
      Restores (f :: fields) done ((f.name, value?) :: entries) result

variable {record}

/-- Among fields of different names each is found by its name. -/
theorem find?_name {fields : List (Field ρ)} (hnames : (fields.map Field.name).Nodup) {f : Field ρ}
    (hf : f ∈ fields) : fields.find? (fun g => g.name == f.name) = some f := by
  induction fields with
  | nil => cases hf
  | cons g fields ih =>
    obtain ⟨hfresh, hnames⟩ := List.nodup_cons.1 hnames
    obtain rfl | hf := List.mem_cons.1 hf
    · simp
    · have hne : g.name ≠ f.name := fun h => hfresh (h ▸ List.mem_map_of_mem hf)
      rw [List.find?_cons_of_neg (by simpa using hne), ih hnames hf]

theorem foldlM_of_restores (hnames : (record.fields.map Field.name).Nodup)
    {fields : List (Field ρ)} {done result : ρ} {entries : List (String × Option Json)}
    (h : Restores fields done entries result) (hfields : fields ⊆ record.fields) :
    (Json.given entries).foldlM record.readField done = .ok result := by
  induction h with
  | nil done => rfl
  | @cons f fields value? done next result entries first rest ih =>
    obtain ⟨hf, hfields⟩ := List.cons_subset.1 hfields
    cases value? with
    | none =>
      obtain ⟨-, rfl⟩ := first
      exact ih hfields
    | some value =>
      obtain ⟨set, hread, rfl⟩ := first
      have hstep : record.step (f.name, value) = .ok set := by
        simp only [step, find?_name hnames hf, hread]
      show ((f.name, value) :: Json.given entries).foldlM record.readField done = _
      rw [foldlM_readField_cons, hstep]
      exact ih hfields

/-- Each field that is required was written. -/
theorem mem_of_restores {fields : List (Field ρ)} {done result : ρ}
    {entries : List (String × Option Json)} (h : Restores fields done entries result)
    {f : Field ρ} (hf : f ∈ fields) (hrequired : f.presence = .required) :
    ∃ value, (f.name, some value) ∈ entries := by
  induction h with
  | nil => cases hf
  | @cons g fields value? _ _ _ entries first _ ih =>
    obtain rfl | hf := List.mem_cons.1 hf
    · cases value? with
      | none => exact absurd hrequired first.1
      | some value => exact ⟨value, List.mem_cons_self⟩
    · obtain ⟨value, hvalue⟩ := ih hf
      exact ⟨value, List.mem_cons_of_mem _ hvalue⟩

/-- **Reading back.** An object whose fields restore a structure, from the blank one, is read as
that structure. -/
theorem read_ofFields (hnames : (record.fields.map Field.name).Nodup)
    {entries : List (String × Option Json)} {result : ρ}
    (h : Restores record.fields record.blank entries result) :
    record.read (Json.ofFields entries) = .ok result := by
  have hmissing : record.missing? (Json.given entries) = none := by
    refine List.find?_eq_none.2 fun f hf => ?_
    by_cases hrequired : f.presence = .required
    · obtain ⟨value, hvalue⟩ := mem_of_restores h hf hrequired
      have hpresent : (Json.given entries).any (fun field => field.1 == f.name) :=
        List.any_eq_true.2 ⟨(f.name, value), Json.mem_given hvalue, beq_self_eq_true f.name⟩
      simp [hpresent]
    · simp [hrequired]
  show record.readObject (Json.given entries) = .ok result
  rw [readObject_eq, foldlM_of_restores hnames h (List.Subset.refl _), hmissing]

end Record

/-! ## Lists -/

namespace Reader

variable {α : Type} {reader : Reader α}

/-- A list is read back if each of its elements is. -/
theorem list_array_map {write : α → Json} {items : List α}
    (h : ∀ a ∈ items, reader (write a) = .ok a) :
    Reader.list reader (.array (items.map write)) = .ok items := by
  show (items.map write).mapM reader = .ok items
  induction items with
  | nil => rfl
  | cons a items ih =>
    obtain ⟨ha, hitems⟩ := List.forall_mem_cons.1 h
    rw [List.map_cons, List.mapM_cons, ha, ih hitems]
    rfl

theorem mem_of_list_eq_ok {raw : Json} {result : List α} {a : α}
    (h : Reader.list reader raw = .ok result) (ha : a ∈ result) : ∃ item, reader item = .ok a := by
  cases raw with
  | array items =>
    replace h : items.mapM reader = .ok result := h
    induction items generalizing result with
    | nil =>
      cases h
      cases ha
    | cons item items ih =>
      rw [List.mapM_cons, except_bind_eq_ok] at h
      obtain ⟨first, hfirst, h⟩ := h
      rw [except_bind_eq_ok] at h
      obtain ⟨rest, hrest, h⟩ := h
      cases h
      obtain rfl | ha := List.mem_cons.1 ha
      · exact ⟨item, hfirst⟩
      · exact ih ha hrest
  | _ => cases h

end Reader

end DiagnosticReport
