import DiagnosticReport.Proofs.Json.Records
import DiagnosticReport.Recipe.Format
import Mathlib

/-!
# Loading recipes

A recipe is rejected only for what cannot be shown in its place: no object, no id, no name, no list
of sections, or a brand that does not fit (`Recipe.parse_spec`). Each entry of the list becomes a
section by itself. What an entry says in its own texts is kept even if the rest of it does not fit,
and what stands under its data sources never makes it fail (`Section.ofJson_object`).
-/

namespace DiagnosticReport

/-! ## Texts and entries of raw values -/

namespace Json

/-- The value has a text of more than blanks under a key. -/
def HasText (raw : Json) (name : String) : Prop :=
  ∃ s, raw.stringAt? name = some s ∧ ¬ Text.isAllBlank s

/-- The entries under the data sources of a section: those of a list, or a lone one. -/
def sourceEntries (raw : Json) : List Json :=
  match raw.get? "data_sources" with
  | none | some .null => []
  | some (.array entries) => entries
  | some entry => [entry]

/-- The text of a field is read off the first entry for it. -/
theorem stringAt?_object (name : String) (fields : List (String × Json)) :
    (object fields).stringAt? name = (lookup name fields).bind asString? :=
  rfl

end Json

/-- Each entry of the data sources is read on its own. -/
theorem DataSource.listOfJson_eq (raw : Json) :
    DataSource.listOfJson ((raw.get? "data_sources").getD .null) =
      raw.sourceEntries.mapIdx DataSource.ofJson := by
  unfold Json.sourceEntries
  cases raw.get? "data_sources" with
  | none => rfl
  | some value => cases value <;> rfl

/-! ## Fields of sections -/

namespace Section

/-- What a field of an entry does to the section. -/
inductive FieldStep : String → Json → (Section → Section) → Prop
  | id (text : String) : FieldStep "id" (.string text) fun s => { s with id := text }
  | title (text : String) : FieldStep "title" (.string text) fun s => { s with title := text }
  | description {raw : Json} {text : Option String} (h : Reader.nullable .string raw = .ok text) :
      FieldStep "description" raw fun s => { s with description := text }
  | visual (text : String) :
      FieldStep "visual_type" (.string text) fun s => { s with visual := text }
  | sources (raw : Json) :
      FieldStep "data_sources" raw fun s => { s with sources := DataSource.listOfJson raw }
  | layout (raw : Json) (hints : Option LayoutHints) :
      FieldStep "layout_hints" raw fun s => { s with layout := hints }
  | toneTags (raw : Json) (tags : List String) :
      FieldStep "tone_tags" raw fun s => { s with toneTags := tags }
  | options (raw : Json) : FieldStep "options" raw fun s => { s with options := raw }
  | skipped {name : String} (raw : Json) (h : name ∉ record.fields.map Field.name) :
      FieldStep name raw fun s => s

/-- A text is read from a string only. -/
theorem string_eq_ok {raw : Json} {text : String} (h : Reader.string raw = .ok text) :
    raw = .string text := by
  cases raw <;> cases h
  rfl

theorem nullable_string_eq_ok {raw : Json} {text : Option String}
    (h : Reader.nullable .string raw = .ok text) : text = raw.asString? := by
  cases raw <;> cases h <;> rfl

/-- Reading a field sets what the field stands for, and nothing else. -/
theorem fieldStep_of_step {field : String × Json} {set : Section → Section}
    (h : record.step field = .ok set) : FieldStep field.1 field.2 set := by
  obtain ⟨name, raw⟩ := field
  unfold Record.step at h
  split at h
  · next f hfind =>
    obtain rfl : f.name = name := by simpa using List.find?_some hfind
    have hmem := List.mem_of_find?_eq_some hfind
    simp only [record, List.mem_cons, List.not_mem_nil, or_false] at hmem
    rcases hmem with rfl | rfl | rfl | rfl | rfl | rfl | rfl | rfl <;>
      simp only [Field.of, except_map_eq_ok] at h <;>
      obtain ⟨value, hvalue, rfl⟩ := h
    · exact string_eq_ok hvalue ▸ .id value
    · exact string_eq_ok hvalue ▸ .title value
    · exact .description hvalue
    · exact string_eq_ok hvalue ▸ .visual value
    · cases hvalue
      exact .sources raw
    · exact .layout raw value
    · exact .toneTags raw value
    · cases hvalue
      exact .options raw
  · next hfind =>
    cases h
    refine .skipped raw fun hname => ?_
    obtain ⟨f, hf, rfl⟩ := List.mem_map.1 hname
    simpa using List.find?_eq_none.1 hfind f hf

theorem ne_of_not_mem_names {name known : String} (h : name ∉ record.fields.map Field.name)
    (hknown : known ∈ record.fields.map Field.name) : name ≠ known :=
  fun hname => h (hname ▸ hknown)

/-! ## Entries -/

section

variable {fields : List (String × Json)} {s : Section}

/-- A section that could be read has no fault. -/
theorem fault_of_read (h : record.readObject fields = .ok s) : s.fault = none := by
  refine record.readObject_induction (P := fun s => s.fault = none) rfl ?_ h
  rintro ⟨name, value⟩ set hset done hdone
  cases fieldStep_of_step hset <;> exact hdone

/-- A text that every section has is the one under its name. -/
theorem text_of_read {part : Section → String} {name : String}
    (hpart : ∀ known value set, FieldStep known value set →
      ∀ done, some (part (set done)) = if known = name then value.asString? else some (part done))
    (hrequired : ∃ f ∈ record.fields, f.name = name ∧ f.presence = .required)
    (hkeys : (fields.map Prod.fst).Nodup) (h : record.readObject fields = .ok s) :
    (Json.object fields).stringAt? name = some (part s) := by
  obtain ⟨f, hf, rfl, hpresence⟩ := hrequired
  obtain ⟨value, hvalue⟩ := record.lookup_of_required h hf hpresence
  have hproj := record.proj_readObject (fun s => some (part s)) f.name Json.asString?
    (fun field set hset => hpart field.1 field.2 set (fieldStep_of_step hset)) hkeys h
  rw [hvalue] at hproj
  rw [Json.stringAt?_object, hvalue]
  exact hproj.symm

theorem id_of_read (hkeys : (fields.map Prod.fst).Nodup) (h : record.readObject fields = .ok s) :
    (Json.object fields).stringAt? "id" = some s.id := by
  refine text_of_read (fun known value set hset done => ?_) (by simp [record, Field.of]) hkeys h
  cases hset with
  | id text => rfl
  | skipped _ hnew => rw [if_neg (ne_of_not_mem_names hnew (by decide))]
  | _ => rfl

theorem title_of_read (hkeys : (fields.map Prod.fst).Nodup) (h : record.readObject fields = .ok s) :
    (Json.object fields).stringAt? "title" = some s.title := by
  refine text_of_read (fun known value set hset done => ?_) (by simp [record, Field.of]) hkeys h
  cases hset with
  | title text => rfl
  | skipped _ hnew => rw [if_neg (ne_of_not_mem_names hnew (by decide))]
  | _ => rfl

theorem visual_of_read (hkeys : (fields.map Prod.fst).Nodup)
    (h : record.readObject fields = .ok s) :
    (Json.object fields).stringAt? "visual_type" = some s.visual := by
  refine text_of_read (fun known value set hset done => ?_) (by simp [record, Field.of]) hkeys h
  cases hset with
  | visual text => rfl
  | skipped _ hnew => rw [if_neg (ne_of_not_mem_names hnew (by decide))]
  | _ => rfl

theorem description_of_read (hkeys : (fields.map Prod.fst).Nodup)
    (h : record.readObject fields = .ok s) :
    s.description = (Json.object fields).stringAt? "description" := by
  have hproj := record.proj_readObject Section.description "description" Json.asString? ?_ hkeys h
  · rw [hproj, Json.stringAt?_object]
    cases Json.lookup "description" fields <;> rfl
  · rintro ⟨name, value⟩ set hset done
    cases fieldStep_of_step hset with
    | description htext => exact nullable_string_eq_ok htext
    | skipped _ hnew => rw [if_neg (ne_of_not_mem_names hnew (by decide))]
    | _ => rfl

/-- The data sources of a section are read from their entries. -/
theorem sources_of_read (hkeys : (fields.map Prod.fst).Nodup)
    (h : record.readObject fields = .ok s) :
    s.sources = (Json.object fields).sourceEntries.mapIdx DataSource.ofJson := by
  have hproj := record.proj_readObject Section.sources "data_sources" DataSource.listOfJson ?_
    hkeys h
  · rw [hproj, ← DataSource.listOfJson_eq]
    show _ = DataSource.listOfJson ((Json.lookup "data_sources" fields).getD .null)
    cases Json.lookup "data_sources" fields <;> rfl
  · rintro ⟨name, value⟩ set hset done
    cases fieldStep_of_step hset with
    | sources => rfl
    | skipped _ hnew => rw [if_neg (ne_of_not_mem_names hnew (by decide))]
    | _ => rfl

/-- The fault of a section is the error of reading its entry. -/
theorem fault_ofJson (index : Nat) (fields : List (String × Json)) :
    (ofJson index (.object fields)).fault = fault? (record.readObject fields) := by
  cases h : record.readObject fields with
  | ok s =>
    simp only [ofJson, Record.read, h]
    exact fault_of_read h
  | error fault =>
    simp only [ofJson, Record.read, h]
    rfl

/-- What stands under the data sources of an entry has no part in its fault. -/
theorem fault_ofJson_congr {others : List (String × Json)} (index : Nat)
    (h : fields.filter (·.1 ≠ "data_sources") = others.filter (·.1 ≠ "data_sources")) :
    (ofJson index (.object fields)).fault = (ofJson index (.object others)).fault := by
  rw [fault_ofJson, fault_ofJson]
  refine record.fault?_readObject_congr (fun value => rfl) (fun f hf hrequired => ?_) h
  simp only [record, List.mem_cons, List.not_mem_nil, or_false] at hf
  rcases hf with rfl | rfl | rfl | rfl | rfl | rfl | rfl | rfl
  case inr.inr.inr.inr.inl => cases hrequired
  all_goals decide

/-- The section of an object keeps the texts of the object, and the sources if it has no fault. -/
theorem ofJson_object (index : Nat) (hkeys : (fields.map Prod.fst).Nodup) :
    let raw := Json.object fields
    let s := ofJson index raw
    s.id = (raw.stringAt? "id").getD ("section-" ++ Decimal.natText (index + 1)) ∧
      s.title = (raw.stringAt? "title").getD "" ∧
      s.visual = (raw.stringAt? "visual_type").getD "" ∧
      s.description = raw.stringAt? "description" ∧
      s.sources = if s.fault.isSome then [] else raw.sourceEntries.mapIdx DataSource.ofJson := by
  intro raw s
  have hfault := fault_ofJson index fields
  cases h : record.readObject fields with
  | ok result =>
    have hs : s = result := by simp only [s, raw, ofJson, Record.read, h]
    rw [h] at hfault
    rw [show s.fault = none from hfault, hs, id_of_read hkeys h, title_of_read hkeys h,
      visual_of_read hkeys h]
    exact ⟨rfl, rfl, rfl, description_of_read hkeys h, sources_of_read hkeys h⟩
  | error fault =>
    rw [h] at hfault
    rw [show s.fault = some fault from hfault]
    simp [s, raw, ofJson, Record.read, h]

end

end Section

/-! ## Recipes -/

namespace Recipe

/-- A required text is there and not blank. -/
theorem requiredText_eq_ok {fields : List (String × Json)} {name text : String} :
    requiredText fields name = .ok text ↔
      (Json.object fields).stringAt? name = some text ∧ ¬ Text.isAllBlank text := by
  rw [Json.stringAt?_object, requiredText]
  cases Json.lookup name fields with
  | none => simp
  | some value =>
    cases value with
    | string s =>
      by_cases h : Text.isAllBlank s
      · simp only [h, if_true, reduceCtorEq, false_iff, not_and, not_not]
        rintro hs
        obtain rfl : s = text := Option.some.inj hs
        exact h
      · simp only [h, Bool.false_eq_true, if_false, Except.ok.injEq]
        exact ⟨fun hs => ⟨congrArg some hs, hs ▸ h⟩, fun hs => Option.some.inj hs.1⟩
    | _ => simp [Json.asString?]

/-- The sections are the entries of an array. -/
theorem requiredSections_eq_ok {fields : List (String × Json)} {entries : List Json} :
    requiredSections fields = .ok entries ↔
      (Json.object fields).arrayAt? "sections" = some entries := by
  change _ ↔ (Json.lookup "sections" fields).bind Json.asArray? = some entries
  rw [requiredSections]
  cases Json.lookup "sections" fields with
  | none => simp
  | some value => cases value <;> simp [Json.asArray?]

/-- The outline of a recipe is read if both texts and the sections are there. -/
theorem outline_eq_ok {raw : Json} {reportId name : String} {entries : List Json} :
    outline raw = .ok (reportId, name, entries) ↔
      (raw.stringAt? "report_id" = some reportId ∧ ¬ Text.isAllBlank reportId) ∧
      (raw.stringAt? "name" = some name ∧ ¬ Text.isAllBlank name) ∧
      raw.arrayAt? "sections" = some entries := by
  cases raw with
  | object fields =>
    rw [← requiredText_eq_ok, ← requiredText_eq_ok, ← requiredSections_eq_ok]
    simp only [outline, except_bind_eq_ok, pure, Except.pure, Except.ok.injEq, Prod.mk.injEq]
    constructor
    · rintro ⟨_, hid, _, hname, _, hsections, rfl, rfl, rfl⟩
      exact ⟨hid, hname, hsections⟩
    · rintro ⟨hid, hname, hsections⟩
      exact ⟨_, hid, _, hname, _, hsections, rfl, rfl, rfl⟩
  | _ => simp [outline, Json.stringAt?, Json.get?]

/-- The brand is read unless it is there and ill-formed. -/
theorem readBrand_eq_ok {raw : Json} :
    (∃ brand, readBrand raw = .ok brand) ↔
      ∀ value, raw.get? "brand_config" = some value →
        ∃ brand, BrandOverrides.record.read value = .ok brand := by
  unfold readBrand
  cases raw.get? "brand_config" with
  | none => simp
  | some value => cases h : BrandOverrides.record.read value <;> simp [Except.mapError, h]

/-- A recipe is its outline, its brand and its sections, entry by entry. -/
theorem ofJson_eq_ok {raw : Json} {recipe : Recipe} :
    ofJson raw = .ok recipe ↔
      ∃ entries, outline raw = .ok (recipe.reportId, recipe.name, entries) ∧
        readBrand raw = .ok recipe.brand ∧ recipe.sections = entries.mapIdx Section.ofJson := by
  simp only [ofJson, except_bind_eq_ok, pure, Except.pure, Except.ok.injEq]
  constructor
  · rintro ⟨⟨reportId, name, entries⟩, houtline, brand, hbrand, rfl⟩
    exact ⟨entries, houtline, hbrand, rfl⟩
  · rintro ⟨entries, houtline, hbrand, hsections⟩
    exact ⟨_, houtline, _, hbrand, by rw [← hsections]⟩

/-- A recipe is read from an object with an id, a name, a list of sections and no bad brand. -/
theorem exists_ofJson_eq_ok {raw : Json} :
    (∃ recipe, ofJson raw = .ok recipe) ↔
      raw.HasText "report_id" ∧ raw.HasText "name" ∧
        (∃ entries, raw.arrayAt? "sections" = some entries) ∧
        ∀ value, raw.get? "brand_config" = some value →
          ∃ brand, BrandOverrides.record.read value = .ok brand := by
  simp only [← readBrand_eq_ok, ofJson_eq_ok, outline_eq_ok]
  constructor
  · rintro ⟨recipe, entries, ⟨hid, hname, hsections⟩, hbrand, -⟩
    exact ⟨⟨_, hid⟩, ⟨_, hname⟩, ⟨_, hsections⟩, ⟨_, hbrand⟩⟩
  · rintro ⟨⟨reportId, hid⟩, ⟨name, hname⟩, ⟨entries, hsections⟩, ⟨brand, hbrand⟩⟩
    exact ⟨⟨reportId, name, brand, entries.mapIdx Section.ofJson⟩, entries,
      ⟨hid, hname, hsections⟩, hbrand, rfl⟩

theorem isObject_of_hasText {raw : Json} {name : String} (h : raw.HasText name) :
    raw.isObject := by
  obtain ⟨text, htext, -⟩ := h
  cases raw with
  | object fields => rfl
  | _ => cases htext

/-- A recipe is rejected for one of five reasons. -/
theorem ofJson_fails_iff {raw : Json} :
    (∃ e, ofJson raw = .error e) ↔
      ¬ raw.isObject ∨ ¬ raw.HasText "report_id" ∨ ¬ raw.HasText "name" ∨
        raw.arrayAt? "sections" = none ∨
        ∃ value, raw.get? "brand_config" = some value ∧
          ∃ e, BrandOverrides.record.read value = .error e := by
  have hobject : ¬ raw.isObject → ¬ raw.HasText "name" := mt isObject_of_hasText
  have hsections : raw.arrayAt? "sections" = none ↔
      ¬ ∃ entries, raw.arrayAt? "sections" = some entries := by
    rw [← Option.ne_none_iff_exists', not_not]
  have hbrand : (∃ value, raw.get? "brand_config" = some value ∧
        ∃ e, BrandOverrides.record.read value = .error e) ↔
      ¬ ∀ value, raw.get? "brand_config" = some value →
        ∃ brand, BrandOverrides.record.read value = .ok brand := by
    simp only [except_fails_iff, not_forall, exists_prop]
  rw [except_fails_iff, exists_ofJson_eq_ok, hsections, hbrand]
  simp only [not_and_or]
  exact ⟨.inr, fun h => h.elim (fun h => .inr (.inl (hobject h))) id⟩

/-- **Loading a recipe.** A value that was read from text is rejected just if it is no object, its
id or its name is no text or blank, its sections are no array, or its brand is given and does not
fit. Otherwise id and name are kept, and each entry of the array becomes a section by itself, which
depends on nothing but the entry and its position. The section of an object keeps the texts that
the object has, and its fault is the same whatever stands under the data sources; these are read
one by one. -/
theorem parse_spec {text : String} {raw : Json} (h : Json.parse? text = some raw) :
    ((∃ e, Recipe.parse text = .error e) ↔
      ¬ raw.isObject ∨ ¬ raw.HasText "report_id" ∨ ¬ raw.HasText "name" ∨
        raw.arrayAt? "sections" = none ∨
        ∃ value, raw.get? "brand_config" = some value ∧
          ∃ e, BrandOverrides.record.read value = .error e) ∧
    ∀ recipe, Recipe.parse text = .ok recipe →
      raw.stringAt? "report_id" = some recipe.reportId ∧ raw.stringAt? "name" = some recipe.name ∧
      ∃ entries, raw.arrayAt? "sections" = some entries ∧
        recipe.sections.length = entries.length ∧
        (∀ i : Nat, recipe.sections[i]? = entries[i]?.map (Section.ofJson i)) ∧
        ∀ (i : Nat) (fields : List (String × Json)), entries[i]? = some (.object fields) →
          ∃ s, recipe.sections[i]? = some s ∧
            (∀ others : List (String × Json),
              others.filter (·.1 ≠ "data_sources") = fields.filter (·.1 ≠ "data_sources") →
              (Section.ofJson i (.object others)).fault = s.fault) ∧
            s.id = ((Json.object fields).stringAt? "id").getD
              ("section-" ++ Decimal.natText (i + 1)) ∧
            s.title = ((Json.object fields).stringAt? "title").getD "" ∧
            s.visual = ((Json.object fields).stringAt? "visual_type").getD "" ∧
            s.description = (Json.object fields).stringAt? "description" ∧
            (s.sources.length =
              if s.fault.isSome then 0 else (Json.object fields).sourceEntries.length) ∧
            ∀ (j : Nat) (source : DataSource), s.sources[j]? = some source →
              ∃ entry, (Json.object fields).sourceEntries[j]? = some entry ∧
                source = DataSource.ofJson j entry := by
  have hparse : Recipe.parse text = ofJson raw := by simp only [parse, h]
  have hdistinct := Json.hasDistinctKeys_of_parse? h
  refine ⟨?rejected, fun recipe hrecipe => ?loaded⟩
  case rejected => rw [hparse, ofJson_fails_iff]
  case loaded =>
    obtain ⟨entries, houtline, -, hsections⟩ := ofJson_eq_ok.1 (hparse ▸ hrecipe)
    obtain ⟨⟨hid, -⟩, ⟨hname, -⟩, hentries⟩ := outline_eq_ok.1 houtline
    have hsection (i : Nat) : recipe.sections[i]? = entries[i]?.map (Section.ofJson i) := by
      rw [hsections, List.getElem?_mapIdx]
    refine ⟨hid, hname, entries, hentries, by rw [hsections, List.length_mapIdx], hsection,
      fun i fields hfields => ?_⟩
    have hkeys : (fields.map Prod.fst).Nodup :=
      (hdistinct.of_mem_arrayAt? hentries (List.mem_of_getElem? hfields)).nodup
    obtain ⟨hid, htitle, hvisual, hdescription, hsources⟩ := Section.ofJson_object i hkeys
    refine ⟨Section.ofJson i (.object fields), by rw [hsection, hfields]; rfl,
      fun others hothers => Section.fault_ofJson_congr i hothers, hid, htitle, hvisual,
      hdescription, ?_, ?_⟩
    · rw [hsources]
      split <;> simp
    · intro j source hsource
      rw [hsources] at hsource
      split at hsource
      · cases hsource
      · rw [List.getElem?_mapIdx] at hsource
        obtain ⟨entry, hentry, rfl⟩ := Option.map_eq_some_iff.1 hsource
        exact ⟨entry, hentry, rfl⟩

/-- An entry with nothing but a title stays in the recipe, under a made-up id. -/
theorem parse_spec_of_untyped_entry :
    let text := "\x7b\"report_id\":\"r\",\"name\":\"N\",\"sections\":[\x7b\"title\":\"T\"\x7d]\x7d"
    let fields := [("title", Json.string "T")]
    let raw := Json.object [("report_id", .string "r"), ("name", .string "N"),
      ("sections", .array [.object fields])]
    Json.parse? text = some raw ∧ (∃ recipe, Recipe.parse text = .ok recipe) ∧
      ∀ recipe, Recipe.parse text = .ok recipe →
        ∃ s, recipe.sections[0]? = some s ∧ s.id = "section-1" ∧ s.title = "T" := by
  intro text fields raw
  have h : Json.parse? text = some raw := by cbv
  obtain ⟨hrejected, hloaded⟩ := parse_spec h
  refine ⟨h, ?_, fun recipe hrecipe => ?_⟩
  · rw [← not_not (a := ∃ recipe, _), ← except_fails_iff, hrejected]
    rintro (hobject | hid | hname | hsections | ⟨value, hbrand, -⟩)
    · exact hobject rfl
    · exact hid ⟨"r", rfl, by decide⟩
    · exact hname ⟨"N", rfl, by decide⟩
    · cases hsections
    · cases hbrand
  · obtain ⟨-, -, entries, hentries, -, -, hobjects⟩ := hloaded recipe hrecipe
    obtain rfl : [.object fields] = entries := Option.some.inj hentries
    obtain ⟨s, hs, -, hid, htitle, -⟩ := hobjects 0 fields rfl
    exact ⟨s, hs, hid.trans (by decide), htitle⟩

end Recipe

end DiagnosticReport
