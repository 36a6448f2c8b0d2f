import DiagnosticReport.Proofs.Query.Pipeline
import DiagnosticReport.Query.Format

/-!
# Bindings and the places of their sources

The bindings of sources have one entry for each source, at its place: the id of the source and what
it finds, or a hole (`Bindings.KeepsPlaces`). An entry depends on the source at its place and on
nothing else, so no other source can shift it or take its value away. What can is the sort of a
source that breaks down: then there are no bindings at all (`Bindings.resolve?_keeps_places`,
`Bindings.resolve?_of_mixed_sort`).
-/

namespace DiagnosticReport

/-! ## Sorts that break down -/

namespace DataSource

/-- The sort of a data source breaks down on the items that the source keeps of a document. -/
def SortBreaks (source : DataSource) (document : Json) : Prop :=
  source.fault = none ∧ ∃ items key,
    resolvePath? document source.origin = some (.array items) ∧ source.pipeline.sort = some key ∧
      sort? key.compareItems (source.pipeline.kept items) = none

section

variable {source : DataSource} {document : Json}

theorem breaks_iff : source.breaks document ↔ source.SortBreaks document := by
  unfold breaks SortBreaks
  rw [Bool.and_eq_true, Option.isNone_iff_eq_none]
  refine and_congr_right fun _ => ?_
  cases resolvePath? document source.origin with
  | none => simp
  | some value =>
    rw [Option.any_some]
    cases value with
    | array items => simp [Pipeline.breaks_array_iff]
    | _ => simp [Pipeline.breaks]

/-- A sort breaks down only on many items on which its order is not transitive. -/
theorem SortBreaks.exists_sort (h : source.SortBreaks document) :
    ∃ items key, resolvePath? document source.origin = some (.array items) ∧
      source.pipeline.sort = some key ∧ 20 < (source.pipeline.kept items).length ∧
        ¬ TransitiveOn key.compareItems (source.pipeline.kept items) := by
  obtain ⟨-, items, key, hitems, hkey, hnone⟩ := h
  refine ⟨items, key, hitems, hkey, Nat.lt_of_not_le fun hfew => ?_, fun htrans => ?_⟩
  · rw [sort?_of_length_le hfew] at hnone
    cases hnone
  · rw [sort?_eq_stableSort htrans] at hnone
    cases hnone

/-! ## Sources and their entries -/

/-- A source finds nothing just if it could not be read or its path names nothing. -/
theorem resolve?_eq_none_iff :
    source.resolve? document = none ↔
      source.fault.isSome ∨ resolvePath? document source.origin = none := by
  rw [resolve?]
  split
  · next hfault => simp [hfault]
  · next hsound => simp [hsound]

end

/-- Sources are read entry by entry, each by its own place. -/
theorem getElem?_listOfJson (entries : List Json) (i : Nat) :
    (listOfJson (.array entries))[i]? = entries[i]?.map (ofJson i) :=
  List.getElem?_mapIdx

theorem getElem?_listOfJson_set {i j : Nat} (h : j ≠ i) (entries : List Json) (entry : Json) :
    (listOfJson (.array (entries.set j entry)))[i]? = (listOfJson (.array entries))[i]? := by
  rw [getElem?_listOfJson, getElem?_listOfJson, List.getElem?_set_ne h]

end DataSource

/-! ## Places -/

namespace Bindings

/-- The bindings hold what sources find in a document, each source at its own place. -/
structure KeepsPlaces (bindings : Bindings) (document : Json) (sources : List DataSource) :
    Prop where
  size : bindings.size = sources.length
  entry (i : Nat) :
    bindings.entries[i]? = sources[i]?.map fun source => (source.id, source.resolve? document)
  at? (i : Nat) : bindings.at? i = sources[i]?.bind fun source => source.resolve? document
  primary? : bindings.primary? = bindings.at? 0
  /-- A source that could not be read or finds nothing leaves a hole. -/
  hole {i : Nat} {source : DataSource} (hsource : sources[i]? = some source)
      (h : source.fault.isSome ∨ resolvePath? document source.origin = none) :
    bindings.entries[i]? = some (source.id, none)
  /-- An id stands for the first source that has it, whatever follows and whatever it finds. -/
  get? (before after : List DataSource) (source : DataSource)
      (hsources : sources = before ++ source :: after)
      (hfirst : ∀ earlier ∈ before, earlier.id ≠ source.id) :
    bindings.get? source.id = source.resolve? document
  unbound {id : String} (h : ∀ source ∈ sources, source.id ≠ id) : bindings.get? id = none

section

variable {document : Json} {sources : List DataSource}

theorem resolve?_eq_none_iff :
    resolve? document sources = none ↔ ∃ source ∈ sources, source.SortBreaks document := by
  rw [resolve?]
  split
  · next h => simpa [DataSource.breaks_iff] using h
  · next h => simpa [DataSource.breaks_iff] using h

theorem eq_resolve_of_resolve? {bindings : Bindings}
    (h : resolve? document sources = some bindings) : bindings = resolve document sources := by
  rw [resolve?, Option.ite_none_left_eq_some] at h
  exact (Option.some.inj h.2).symm

theorem get?_resolve (id : String) :
    (resolve document sources).get? id =
      (sources.find? fun source => source.id == id).bind fun source =>
        source.resolve? document := by
  rw [get?, resolve, List.find?_map]
  show Option.bind (Option.map _ (sources.find? fun source => source.id == id)) _ = _
  cases sources.find? fun source => source.id == id <;> rfl

theorem entries_resolve (i : Nat) :
    (resolve document sources).entries[i]? =
      sources[i]?.map fun source => (source.id, source.resolve? document) :=
  List.getElem?_map

theorem at?_resolve (i : Nat) :
    (resolve document sources).at? i =
      sources[i]?.bind fun source => source.resolve? document := by
  rw [at?, entries_resolve]
  cases sources[i]? <;> rfl

theorem keepsPlaces_resolve (document : Json) (sources : List DataSource) :
    (resolve document sources).KeepsPlaces document sources where
  size := List.length_map _
  entry := entries_resolve
  at? := at?_resolve
  primary? := rfl
  hole hsource h := by
    rw [entries_resolve, hsource, Option.map_some, DataSource.resolve?_eq_none_iff.2 h]
  get? before after source hsources hfirst := by
    have hnone : before.find? (fun earlier => earlier.id == source.id) = none := by
      rw [List.find?_eq_none]
      intro earlier hearlier
      simpa using hfirst earlier hearlier
    rw [get?_resolve, hsources, List.find?_append, hnone, Option.none_or,
      List.find?_cons_of_pos (by simp), Option.bind_some]
  unbound {id} h := by
    have hnone : sources.find? (fun source => source.id == id) = none := by
      rw [List.find?_eq_none]
      intro source hsource
      simpa using h source hsource
    rw [get?_resolve, hnone, Option.bind_none]

end

/-- **Bindings never shift.** Unless the sort of a source breaks down, and this takes more than 20
items and an order that is not transitive on them, sources have bindings that keep their places. An
entry depends on the document and on the source at its place alone: other sources with bindings,
the same one at that place, leave the entry and its value as they are. The source at a place is
read from the entry of the recipe there, whatever the entry at another place is changed into. -/
theorem resolve?_keeps_places (document : Json) (sources : List DataSource) :
    (resolve? document sources = none ↔ ∃ source ∈ sources, source.SortBreaks document) ∧
    (∀ source : DataSource, source.SortBreaks document → ∃ items key,
      resolvePath? document source.origin = some (.array items) ∧
        source.pipeline.sort = some key ∧ 20 < (source.pipeline.kept items).length ∧
        ¬ TransitiveOn key.compareItems (source.pipeline.kept items)) ∧
    (∀ bindings, resolve? document sources = some bindings →
      bindings.KeepsPlaces document sources ∧
      ∀ others changed, resolve? document others = some changed →
        ∀ i : Nat, others[i]? = sources[i]? →
          changed.entries[i]? = bindings.entries[i]? ∧ changed.at? i = bindings.at? i) ∧
    ∀ (entries : List Json) (entry : Json) (i j : Nat), j ≠ i →
      (DataSource.listOfJson (.array (entries.set j entry)))[i]? =
        (DataSource.listOfJson (.array entries))[i]? := by
  refine ⟨resolve?_eq_none_iff, fun source hbreaks => hbreaks.exists_sort, ?places,
    fun entries entry i j h => DataSource.getElem?_listOfJson_set h entries entry⟩
  case places =>
    intro bindings hbindings
    obtain rfl := eq_resolve_of_resolve? hbindings
    refine ⟨keepsPlaces_resolve document sources, ?_⟩
    intro others changed hchanged i hsame
    obtain rfl := eq_resolve_of_resolve? hchanged
    rw [entries_resolve, entries_resolve, at?_resolve, at?_resolve, hsame]
    exact ⟨rfl, rfl⟩

/-- A source that could not be read leaves a hole between two values, and its id stands for the
first of them. -/
theorem resolve?_keeps_places_of_holes :
    let document : Json := .object [("score", .number (.int 69)), ("items", .array [.null])]
    let sources : List DataSource := [{ id := "d", origin := "score" },
      { id := "d", fault := some (.missingField "from") },
      { id := "missing", origin := "nothing.here" }, { id := "all", origin := "items" }]
    ∃ bindings, resolve? document sources = some bindings ∧
      bindings.entries = [("d", some (.number (.int 69))), ("d", none), ("missing", none),
        ("all", some (.array [.null]))] ∧
      bindings.get? "d" = some (.number (.int 69)) ∧ bindings.at? 1 = none := by
  intro document sources
  have hsound : ¬ ∃ source ∈ sources, source.SortBreaks document := by
    simp only [← DataSource.breaks_iff]
    decide +kernel
  obtain ⟨hnone, -, hplaces, -⟩ := resolve?_keeps_places document sources
  obtain ⟨bindings, hbindings⟩ := Option.ne_none_iff_exists'.1 (mt hnone.1 hsound)
  obtain ⟨hkeeps, -⟩ := hplaces bindings hbindings
  refine ⟨bindings, hbindings, ?_, ?_, ?_⟩
  · obtain rfl := eq_resolve_of_resolve? hbindings
    rfl
  · exact (hkeeps.get? [] sources.tail _ rfl (List.forall_mem_nil _)).trans rfl
  · exact (hkeeps.at? 1).trans rfl

/-- A source whose sort breaks down takes away the value that the source before it finds. -/
theorem resolve?_of_mixed_sort :
    let item (value : Json) : Json := .object [("k", value)]
    let number (n : Int) : Json := item (.number (.int n))
    let items := [item (.string "91")] ++ List.replicate 9 (item (.string "9")) ++
      List.replicate 10 (number 9) ++ [number 10]
    let document : Json := .object [("score", .number (.int 69)), ("items", .array items)]
    let sound : DataSource := { id := "score", origin := "score" }
    let mixed : DataSource :=
      { id := "d", origin := "items", pipeline := { sort := some ⟨"k", .ascending⟩ } }
    resolve? document [sound] = some ⟨[("score", some (.number (.int 69)))]⟩ ∧
      resolve? document [sound, mixed] = none := by
  intro item number items document sound mixed
  have hpath : resolvePath? document "score" = some (.number (.int 69)) := rfl
  have hsound : ¬ [sound].any (fun source => source.breaks document) := by decide +kernel
  have hbreaks : mixed.SortBreaks document := DataSource.breaks_iff.1 (by decide +kernel)
  constructor
  · rw [resolve?, if_neg hsound]
    show some (mk [("score", (resolvePath? document "score").map sound.pipeline.apply)]) = _
    rw [hpath]
    rfl
  · exact resolve?_eq_none_iff.2
      ⟨mixed, List.mem_cons_of_mem _ (List.mem_singleton_self _), hbreaks⟩

end Bindings

end DiagnosticReport
