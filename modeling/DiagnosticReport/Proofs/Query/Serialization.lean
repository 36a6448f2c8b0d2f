import DiagnosticReport.Proofs.Json.Writing

/-!
# Queries as JSON

Filters, sorts and data sources that were read can be written and read back. Some values of these
types never come from JSON, as a limit that is no machine word or a filter value that is present
and `null`; `Filter.IsReadable` and `DataSource.IsReadable` leave them out. A source is read back
without its fault, which is not written (`DataSource.ofJson_toJson`).
-/

namespace DiagnosticReport

/-! ## Single values -/

theorem Reader.natBelow_ofNat {bound n : Nat} {expected : String} (h : n < bound) :
    natBelow bound expected (.ofNat n) = .ok n :=
  if_pos ⟨Int.natCast_nonneg n, Int.ofNat_lt.2 h⟩

theorem Reader.lt_of_natBelow_eq_ok {raw : Json} {bound n : Nat} {expected : String}
    (h : natBelow bound expected raw = .ok n) : n < bound := by
  unfold natBelow at h
  split at h
  · split at h
    · next hbound =>
      cases h
      exact (Int.toNat_lt hbound.1).2 hbound.2
    · cases h
  · cases h

theorem Reader.nullable_eq_ok_some {α : Type} {reader : Reader α} {raw : Json} {a : α}
    (h : nullable reader raw = .ok (some a)) : raw ≠ .null ∧ reader raw = .ok a := by
  cases raw with
  | null => cases h
  | _ =>
    obtain ⟨b, hb, hab⟩ := except_map_eq_ok.1 h
    cases hab
    exact ⟨nofun, hb⟩

theorem Reader.nullable_eq_ok {α : Type} {reader : Reader α} {raw : Json} {a : α}
    (hraw : raw ≠ .null) (h : reader raw = .ok a) : nullable reader raw = .ok (some a) := by
  cases raw with
  | null => exact absurd rfl hraw
  | _ => exact except_map_eq_ok.2 ⟨a, h, rfl⟩

theorem Reader.list_ofStrings (items : List String) :
    Reader.list .string (.ofStrings items) = .ok items :=
  list_array_map fun _ _ => rfl

/-- The name of an operator is read back. -/
theorem Operator.ofName_name (o : Operator) : ofName o.name = o := by
  cases o <;> rfl

/-- The name of a direction is read back. -/
theorem Direction.ofName?_name (d : Direction) : ofName? d.name = some d := by
  cases d <;> rfl

/-! ## Filters -/

namespace Filter

/-- A filter entry that JSON can give: its value, if it has one, is not `null`. -/
def IsReadable (filter : Filter) : Prop :=
  filter.value ≠ some .null

theorem isReadable_of_read {raw : Json} {filter : Filter} (h : record.read raw = .ok filter) :
    filter.IsReadable := by
  have hblank : record.blank.IsReadable := show none ≠ some Json.null from nofun
  refine Record.read_induction (fun f hf raw set hset done hdone => ?_) hblank h
  simp only [record, List.mem_cons, List.not_mem_nil, or_false] at hf
  rcases hf with rfl | rfl | rfl | rfl | rfl | rfl | rfl | rfl <;>
    simp only [Field.of, except_map_eq_ok] at hset <;>
    obtain ⟨value, hvalue, rfl⟩ := hset
  -- The value is the only part that the property is about.
  case inr.inr.inr.inr.inr.inr.inr =>
    rintro (rfl : value = some .null)
    obtain ⟨hnull, hraw⟩ := Reader.nullable_eq_ok_some hvalue
    cases hraw
    exact hnull rfl
  all_goals exact hdone

theorem read_toJson {filter : Filter} (h : filter.IsReadable) :
    record.read filter.toJson = .ok filter := by
  refine Record.read_ofFields (by simp [record, Field.of]) ?_
  have hvalue (v : Json) (hv : filter.value = some v) :
      Reader.nullable .any v = .ok (some v) :=
    Reader.nullable_eq_ok (fun hnull => h (hnull ▸ hv)) rfl
  have hoperator (o : Operator) : Reader.nullable Operator.reader (.string o.name) = .ok (some o) :=
    Reader.nullable_eq_ok Json.noConfusion (congrArg Except.ok o.ofName_name)
  have hstrings (items : List String) :
      Reader.nullable (.list .string) (.ofStrings items) = .ok (some items) :=
    Reader.nullable_eq_ok Json.noConfusion (Reader.list_ofStrings items)
  have hoptional : Presence.optional ≠ .required := Presence.noConfusion
  exact
    .cons (Field.restores_map filter.dimensionCodes hoptional rfl fun codes _ => hstrings codes) <|
    .cons (Field.restores_map filter.chapterCodes hoptional rfl fun codes _ => hstrings codes) <|
    .cons (Field.restores_map filter.kind hoptional rfl fun _ _ => rfl) <|
    .cons (Field.restores_map filter.minScore hoptional rfl fun _ _ => rfl) <|
    .cons (Field.restores_map filter.maxScore hoptional rfl fun _ _ => rfl) <|
    .cons (Field.restores_map filter.field hoptional rfl fun _ _ => rfl) <|
    .cons (Field.restores_map filter.operator hoptional rfl fun o _ => hoperator o) <|
    .cons (Field.restores_self filter.value hoptional rfl hvalue) <| .nil _

end Filter

/-! ## Sorts -/

namespace SortKey

theorem read_toJson (key : SortKey) : record.read key.toJson = .ok key := by
  have hdirection : Direction.reader (.string key.direction.name) = .ok key.direction := by
    simp only [Direction.reader, Reader.variant, key.direction.ofName?_name]
  show record.read (Json.ofFields [("field", some (.string key.field)),
    ("direction", some (.string key.direction.name))]) = _
  exact Record.read_ofFields (by simp [record, Field.of]) <|
    .cons (Field.restores_some rfl) <| .cons (Field.restores_some hdirection) <| .nil _

end SortKey

/-! ## Data sources -/

namespace DataSource

/-- The source without its fault. -/
def withoutFault (source : DataSource) : DataSource :=
  { source with fault := none }

/-- A source that JSON can give: its filters are such, and limit and offset are machine words. -/
structure IsReadable (source : DataSource) : Prop where
  filters : ∀ filter ∈ source.pipeline.filters, filter.IsReadable
  limit : ∀ n, source.pipeline.limit = some n → n < Nat.pow 2 64
  offset : ∀ n, source.pipeline.offset = some n → n < Nat.pow 2 64

theorem isReadable_of_pipeline {source : DataSource} (h : source.pipeline = {}) :
    source.IsReadable where
  filters := h ▸ List.forall_mem_nil _
  limit := h ▸ nofun
  offset := h ▸ nofun

theorem isReadable_of_read {raw : Json} {source : DataSource} (h : record.read raw = .ok source) :
    source.IsReadable ∧ source.fault = none := by
  refine Record.read_induction (P := fun s => s.IsReadable ∧ s.fault = none)
    (fun f hf raw set hset done hdone => ?_) ⟨isReadable_of_pipeline rfl, rfl⟩ h
  obtain ⟨⟨hfilters, hlimit, hoffset⟩, hfault⟩ := hdone
  have hsize (n : Nat) (hn : Reader.nullable .size raw = .ok (some n)) : n < Nat.pow 2 64 :=
    Reader.lt_of_natBelow_eq_ok (Reader.nullable_eq_ok_some hn).2
  simp only [record, List.mem_cons, List.not_mem_nil, or_false] at hf
  rcases hf with rfl | rfl | rfl | rfl | rfl | rfl <;>
    simp only [Field.of, except_map_eq_ok] at hset <;>
    obtain ⟨value, hvalue, rfl⟩ := hset
  case inr.inr.inl =>
    refine ⟨⟨fun filter hfilter => ?_, hlimit, hoffset⟩, hfault⟩
    obtain ⟨item, hitem⟩ := Reader.mem_of_list_eq_ok hvalue hfilter
    exact Filter.isReadable_of_read hitem
  case inr.inr.inr.inr.inl =>
    exact ⟨⟨hfilters, fun n hn => hsize n (hvalue.trans (congrArg _ hn)), hoffset⟩, hfault⟩
  case inr.inr.inr.inr.inr =>
    exact ⟨⟨hfilters, hlimit, fun n hn => hsize n (hvalue.trans (congrArg _ hn))⟩, hfault⟩
  all_goals exact ⟨⟨hfilters, hlimit, hoffset⟩, hfault⟩

theorem isReadable_ofJson (index : Nat) (raw : Json) : (ofJson index raw).IsReadable := by
  unfold ofJson
  cases h : record.read raw with
  | ok source => exact (isReadable_of_read h).1
  | error fault => exact isReadable_of_pipeline rfl

/-- What was read as a list of data sources is readable. -/
theorem isReadable_of_mem_listOfJson {raw : Json} {source : DataSource}
    (h : source ∈ listOfJson raw) : source.IsReadable := by
  unfold listOfJson at h
  split at h
  · obtain ⟨i, hi, rfl⟩ := List.mem_mapIdx.1 h
    exact isReadable_ofJson i _
  · cases h
  · rw [List.mem_singleton.1 h]
    exact isReadable_ofJson 0 _

theorem read_toJson {source : DataSource} (h : source.IsReadable) :
    record.read source.toJson = .ok source.withoutFault := by
  have hfilters : Reader.list Filter.record.read
      (.array (source.pipeline.filters.map Filter.toJson)) = .ok source.pipeline.filters :=
    Reader.list_array_map fun filter hfilter => Filter.read_toJson (h.filters filter hfilter)
  have hsort (key : SortKey) :
      Reader.nullable SortKey.record.read key.toJson = .ok (some key) :=
    Reader.nullable_eq_ok nofun key.read_toJson
  have hsize (n : Nat) (hn : n < Nat.pow 2 64) : Reader.nullable .size (.ofNat n) = .ok (some n) :=
    Reader.nullable_eq_ok nofun (Reader.natBelow_ofNat hn)
  exact Record.read_ofFields (by simp [record, Field.of]) <|
    .cons (Field.restores_some rfl) <|
    .cons (Field.restores_some rfl) <|
    .cons (Field.restores_unless nofun rfl List.isEmpty_iff.1 hfilters) <|
    .cons (Field.restores_map source.pipeline.sort nofun rfl fun key _ => hsort key) <|
    .cons (Field.restores_map source.pipeline.limit nofun rfl fun n hn =>
      hsize n (h.limit n hn)) <|
    .cons (Field.restores_map source.pipeline.offset nofun rfl fun n hn =>
      hsize n (h.offset n hn)) <| .nil _

/-- A source that was written is read back without its fault. -/
theorem ofJson_toJson (index : Nat) {source : DataSource} (h : source.IsReadable) :
    ofJson index source.toJson = source.withoutFault := by
  rw [ofJson, read_toJson h]

/-- Readable data sources are read back from what they are written as. -/
theorem listOfJson_map_toJson {sources : List DataSource}
    (h : ∀ source ∈ sources, source.IsReadable) :
    listOfJson (.array (sources.map toJson)) = sources.map withoutFault := by
  show (sources.map toJson).mapIdx ofJson = _
  refine List.ext_getElem (by simp) fun i _ _ => ?_
  simp only [List.getElem_mapIdx, List.getElem_map]
  exact ofJson_toJson i (h _ (List.getElem_mem _))

end DataSource

end DiagnosticReport
