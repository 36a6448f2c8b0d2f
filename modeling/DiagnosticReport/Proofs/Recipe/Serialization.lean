import DiagnosticReport.Proofs.Query.Serialization
import DiagnosticReport.Recipe.Format

/-!
# Sections as JSON

Writing the section of any entry and reading it back changes nothing but the faults, which are not
written (`Section.ofJson_toJson_ofJson`): the texts that a section keeps of an entry that does not
fit are an entry that fits. So what is written is a normal form.
-/

namespace DiagnosticReport

/-! ## Layout -/

namespace LayoutHints

/-- Hints that JSON can give: the number of columns is a byte. -/
def IsReadable (hints : LayoutHints) : Prop :=
  ∀ n, hints.columns = some n → n < 256

theorem isReadable_of_read {raw : Json} {hints : LayoutHints} (h : record.read raw = .ok hints) :
    hints.IsReadable := by
  have hblank : record.blank.IsReadable := fun _ hn => nomatch hn
  refine Record.read_induction (fun f hf raw set hset done hdone => ?_) hblank h
  simp only [record, List.mem_cons, List.not_mem_nil, or_false] at hf
  rcases hf with rfl | rfl | rfl | rfl | rfl <;>
    simp only [Field.of, except_map_eq_ok] at hset <;>
    obtain ⟨value, hvalue, rfl⟩ := hset
  case inr.inr.inl =>
    rintro n (rfl : value = some n)
    exact Reader.lt_of_natBelow_eq_ok (Reader.nullable_eq_ok_some hvalue).2
  all_goals exact hdone

theorem read_toJson {hints : LayoutHints} (h : hints.IsReadable) :
    record.read hints.toJson = .ok hints := by
  have hcolumns (n : Nat) (hn : hints.columns = some n) :
      Reader.nullable .byte (.ofNat n) = .ok (some n) :=
    Reader.nullable_eq_ok nofun (Reader.natBelow_ofNat (h n hn))
  exact Record.read_ofFields (by simp [record, Field.of]) <|
    .cons (Field.restores_some rfl) <|
    .cons (Field.restores_some rfl) <|
    .cons (Field.restores_map hints.columns nofun rfl hcolumns) <|
    .cons (Field.restores_some rfl) <|
    .cons (Field.restores_map hints.emphasis nofun rfl fun _ _ => rfl) <| .nil _

end LayoutHints

/-! ## Sections -/

namespace Section

/-- The section without its fault and those of its sources. -/
def withoutFaults (s : Section) : Section :=
  { s with fault := none, sources := s.sources.map DataSource.withoutFault }

/-- A section that JSON can give: its sources and its layout are such. -/
structure IsReadable (s : Section) : Prop where
  sources : ∀ source ∈ s.sources, source.IsReadable
  layout : ∀ hints, s.layout = some hints → hints.IsReadable

theorem isReadable_of_read {raw : Json} {s : Section} (h : record.read raw = .ok s) :
    s.IsReadable := by
  have hblank : record.blank.IsReadable := ⟨List.forall_mem_nil _, fun _ h => nomatch h⟩
  refine Record.read_induction (fun f hf raw set hset done hdone => ?_) hblank h
  obtain ⟨hsources, hlayout⟩ := hdone
  simp only [record, List.mem_cons, List.not_mem_nil, or_false] at hf
  rcases hf with rfl | rfl | rfl | rfl | rfl | rfl | rfl | rfl <;>
    simp only [Field.of, except_map_eq_ok] at hset <;>
    obtain ⟨value, hvalue, rfl⟩ := hset
  case inr.inr.inr.inr.inl =>
    cases hvalue
    exact ⟨fun source => DataSource.isReadable_of_mem_listOfJson, hlayout⟩
  case inr.inr.inr.inr.inr.inl =>
    refine ⟨hsources, ?_⟩
    rintro hints (rfl : value = some hints)
    exact LayoutHints.isReadable_of_read (Reader.nullable_eq_ok_some hvalue).2
  all_goals exact ⟨hsources, hlayout⟩

theorem isReadable_ofJson (index : Nat) (raw : Json) : (ofJson index raw).IsReadable := by
  unfold ofJson
  cases h : record.read raw with
  | ok s => exact isReadable_of_read h
  | error fault => exact ⟨List.forall_mem_nil _, fun _ h => nomatch h⟩

theorem read_toJson {s : Section} (h : s.IsReadable) :
    record.read s.toJson = .ok s.withoutFaults := by
  have hlayout (hints : LayoutHints) (hhints : s.layout = some hints) :
      Reader.nullable LayoutHints.record.read hints.toJson = .ok (some hints) :=
    Reader.nullable_eq_ok nofun (LayoutHints.read_toJson (h.layout hints hhints))
  have hoptions (hnull : s.options.isNull) : s.options = .null := by
    cases ho : s.options <;> simp_all [Json.isNull]
  exact Record.read_ofFields (by simp [record, Field.of]) <|
    .cons (Field.restores_some rfl) <|
    .cons (Field.restores_some rfl) <|
    .cons (Field.restores_map s.description nofun rfl fun _ _ => rfl) <|
    .cons (Field.restores_some rfl) <|
    .cons (Field.restores_some
      (congrArg Except.ok (DataSource.listOfJson_map_toJson h.sources))) <|
    .cons (Field.restores_map s.layout nofun rfl hlayout) <|
    .cons (Field.restores_unless nofun rfl List.isEmpty_iff.1 (Reader.list_ofStrings s.toneTags)) <|
    .cons (Field.restores_unless nofun rfl hoptions rfl) <| .nil _

theorem toJson_withoutFaults (s : Section) : s.withoutFaults.toJson = s.toJson := by
  have hsources : (s.sources.map DataSource.withoutFault).map DataSource.toJson =
      s.sources.map DataSource.toJson := by
    rw [List.map_map]
    rfl
  show Json.ofFields [_, _, _, _, ("data_sources", some (.array
    ((s.sources.map DataSource.withoutFault).map DataSource.toJson))), _, _, _] = _
  rw [hsources]
  rfl

/-- **Normal form.** Writing the section of any entry and reading it back, at any position, gives
a section without faults that is otherwise the same, down to its sources, and that is written the
same again. -/
theorem ofJson_toJson_ofJson (index again : Nat) (raw : Json) :
    let s := ofJson index raw
    let loaded := ofJson again s.toJson
    loaded.fault = none ∧ (∀ source ∈ loaded.sources, source.fault = none) ∧
      loaded = { s with
        fault := none
        sources := s.sources.map fun source => { source with fault := none } } ∧
      loaded.toJson = s.toJson := by
  intro s loaded
  have hloaded : loaded = s.withoutFaults := by
    show ofJson again s.toJson = _
    rw [ofJson, read_toJson (isReadable_ofJson index raw)]
  rw [hloaded]
  refine ⟨rfl, fun source hsource => ?_, rfl, s.toJson_withoutFaults⟩
  obtain ⟨written, -, rfl⟩ := List.mem_map.1 hsource
  rfl

end Section

end DiagnosticReport
