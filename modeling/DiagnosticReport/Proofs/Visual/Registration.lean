import DiagnosticReport.Proofs.Markup.Rendering
import DiagnosticReport.Proofs.Text.Escaped
import DiagnosticReport.Visual.Registry

/-!
# Histories of registrations

What a registry holds after any number of registrations is settled by the last one for each tag
(`Registry.get?_registerAll`), and a registry is settled by what it holds (`Registry.ext_get?`). So
the order of registrations under different tags does not matter, and a tag without a renderer is
shown as a placeholder, whatever was registered under other tags (`Registry.last_call_counts`).
-/

namespace DiagnosticReport

/-! ## One registration -/

theorem find?_insertRenderer (tag : String) (renderer : Renderer)
    (entries : List (String × Renderer)) (t : String) :
    (insertRenderer tag renderer entries).find? (fun entry => entry.1 == t) =
      if tag = t then some (tag, renderer) else entries.find? (fun entry => entry.1 == t) := by
  induction entries with
  | nil => by_cases h : tag = t <;> simp [insertRenderer, h]
  | cons first rest ih =>
    rw [insertRenderer]
    split
    · next same =>
      subst same
      by_cases h : first.1 = t <;> simp [h]
    · next differs =>
      split
      · by_cases h : tag = t <;> simp [h]
      · rw [List.find?_cons, List.find?_cons, ih]
        by_cases h : tag = t
        · have hfirst : first.1 ≠ t := fun e => differs (h.trans e.symm)
          simp [h, beq_false_of_ne hfirst]
        · simp [h]

/-- Among entries in the order of their tags each one is found under its tag. -/
theorem find?_of_mem_sorted {entries : List (String × Renderer)} {entry : String × Renderer}
    (hsorted : entries.Pairwise fun a b => a.1 < b.1) (hentry : entry ∈ entries) :
    entries.find? (fun other => other.1 == entry.1) = some entry := by
  induction entries with
  | nil => cases hentry
  | cons first rest ih =>
    obtain ⟨habove, hrest⟩ := List.pairwise_cons.1 hsorted
    rcases List.mem_cons.1 hentry with rfl | hentry
    · rw [List.find?_cons_of_pos (by simp)]
    · have hfirst : first.1 ≠ entry.1 := String.ne_of_lt (habove entry hentry)
      rw [List.find?_cons_of_neg (by simpa using hfirst), ih hrest hentry]

namespace Registry

section

variable {registry other : Registry} {tag : String}

/-- A registered renderer is found under its tag, and all others as before. -/
theorem get?_register (registry : Registry) (tag : String) (renderer : Renderer) (t : String) :
    (registry.register tag renderer).get? t =
      if tag = t then some renderer else registry.get? t := by
  unfold get? register
  rw [find?_insertRenderer]
  split <;> rfl

/-! ## What a registry holds -/

theorem get?_eq_some_iff {renderer : Renderer} :
    registry.get? tag = some renderer ↔ (tag, renderer) ∈ registry.entries := by
  rw [get?, Option.map_eq_some_iff]
  constructor
  · rintro ⟨⟨found, _⟩, hfind, rfl⟩
    obtain rfl : found = tag := by simpa using List.find?_some hfind
    exact List.mem_of_find?_eq_some hfind
  · intro hmem
    exact ⟨(tag, renderer), find?_of_mem_sorted registry.sorted hmem, rfl⟩

theorem mem_tags_iff : tag ∈ registry.tags ↔ registry.contains tag := by
  simp [tags, contains]

theorem contains_iff : registry.contains tag ↔ (registry.get? tag).isSome := by
  rw [contains, get?, Option.isSome_map, List.find?_isSome, List.any_eq_true]

theorem pairwise_tags (registry : Registry) : registry.tags.Pairwise (· < ·) :=
  List.pairwise_map.2 registry.sorted

/-- Two registries with the same renderers under all tags are one. -/
theorem ext_get? (h : ∀ tag, registry.get? tag = other.get? tag) : registry = other := by
  have hmem (entry : String × Renderer) :
      entry ∈ registry.entries ↔ entry ∈ other.entries := by
    rw [← get?_eq_some_iff, ← get?_eq_some_iff, h]
  have hnodup (r : Registry) : r.entries.Nodup :=
    r.sorted.imp fun hless hsame => String.ne_of_lt hless (congrArg Prod.fst hsame)
  have hperm : registry.entries.Perm other.entries :=
    (List.perm_ext_iff_of_nodup (hnodup registry) (hnodup other)).2 hmem
  have hentries : registry.entries = other.entries :=
    hperm.eq_of_pairwise (fun a b _ _ hab hba => absurd hab (String.lt_asymm hba))
      registry.sorted other.sorted
  cases registry
  cases other
  congr

end

/-! ## Many registrations -/

/-- Registrations one after the other, each under its tag. -/
def registerAll (registry : Registry) (calls : List (String × Renderer)) : Registry :=
  calls.foldl (fun registry call => registry.register call.1 call.2) registry

section

variable (registry : Registry) (calls : List (String × Renderer))

/-- The last call for a tag settles what is found under it, and without one nothing changes. -/
theorem get?_registerAll (tag : String) :
    (registry.registerAll calls).get? tag =
      (calls.reverse.lookup tag).or (registry.get? tag) := by
  induction calls generalizing registry with
  | nil => rfl
  | cons call calls ih =>
    have hcall : (registry.register call.1 call.2).get? tag =
        ([call].lookup tag).or (registry.get? tag) := by
      rw [get?_register, List.lookup_cons]
      by_cases h : call.1 = tag
      · simp [h]
      · simp [h, beq_false_of_ne (Ne.symm h)]
    show ((registry.register call.1 call.2).registerAll calls).get? tag = _
    rw [ih, hcall, List.reverse_cons, List.lookup_append, Option.or_assoc]

theorem contains_registerAll_iff (tag : String) :
    (registry.registerAll calls).contains tag ↔
      tag ∈ calls.map Prod.fst ∨ registry.contains tag := by
  rw [contains_iff, contains_iff, get?_registerAll, Option.isSome_or, Bool.or_eq_true,
    List.lookup_isSome_iff]
  simp

/-- Two neighbouring calls for different tags may change places. -/
theorem registerAll_swap (before after : List (String × Renderer))
    {first second : String × Renderer} (h : first.1 ≠ second.1) :
    registry.registerAll (before ++ second :: first :: after) =
      registry.registerAll (before ++ first :: second :: after) := by
  have hswap (r : Registry) :
      (r.register second.1 second.2).register first.1 first.2 =
        (r.register first.1 first.2).register second.1 second.2 := by
    apply ext_get?
    intro tag
    simp only [get?_register]
    by_cases hfirst : first.1 = tag
    · have hsecond : second.1 ≠ tag := fun e => h (hfirst.trans e.symm)
      simp [hfirst, hsecond]
    · simp [hfirst]
  unfold registerAll
  simp only [List.foldl_append, List.foldl_cons, hswap]

end

/-! ## Rendering -/

/-- The text of the placeholder for a tag without a renderer. -/
def unsupportedText (tag : String) : String :=
  "<div class=\"placeholder unsupported\">[Unsupported visual type: " ++ Text.escape tag ++
    "]</div>"

theorem render_unsupported (tag : String) : (unsupported tag).render = unsupportedText tag := by
  have hopen : Text.escape "[Unsupported visual type: " = "[Unsupported visual type: " := by decide
  have hclose : Text.escape "]" = "]" := by decide
  have hclass : Text.escape "placeholder unsupported" = "placeholder unsupported" := by decide
  have hdiv : "<div class=\"placeholder unsupported\">[Unsupported visual type: " =
      "<" ++ Tag.div.name ++ " class=\"" ++ "placeholder unsupported" ++ "\">" ++
        "[Unsupported visual type: " := by decide
  have hdivEnd : "]</div>" = "]" ++ ("</" ++ Tag.div.name ++ ">") := by decide
  unfold unsupportedText unsupported
  simp only [hdiv, hdivEnd, Markup.render_styled, Markup.render_text, Text.escape_append, hopen,
    hclose, hclass, String.append_assoc]

/-- **Registries and their histories.** After any registrations, the renderer under a tag is the one
of the last call for exactly this tag, or else the one that was there at the start. The tags are in
strict order, and they are those of the calls and of the start. Calls for different tags may change
places. A section is drawn by the renderer under its tag; if there is none, its placeholder is drawn
and nothing fails, whatever stands under other tags. -/
theorem last_call_counts (start : Registry) (calls : List (String × Renderer)) :
    let registry := start.registerAll calls
    (∀ tag, registry.get? tag = (calls.reverse.lookup tag).or (start.get? tag)) ∧
    registry.tags.Pairwise (· < ·) ∧
    (∀ tag, (tag ∈ registry.tags ↔ registry.contains tag) ∧
      (registry.contains tag ↔ tag ∈ calls.map Prod.fst ∨ start.contains tag)) ∧
    (∀ before after first second, calls = before ++ first :: second :: after →
      first.1 ≠ second.1 → start.registerAll (before ++ second :: first :: after) = registry) ∧
    ∀ bindings s options,
      (∀ renderer, registry.get? s.visual = some renderer →
        registry.render bindings s options = renderer bindings s options) ∧
      (¬ registry.contains s.visual → ∃ fragment,
        registry.render bindings s options = .drawn fragment ∧
          fragment.render = unsupportedText s.visual) := by
  intro registry
  refine ⟨get?_registerAll start calls, pairwise_tags registry,
    fun tag => ⟨mem_tags_iff, contains_registerAll_iff start calls tag⟩, ?swap, ?render⟩
  case swap =>
    rintro before after first second rfl hdifferent
    exact registerAll_swap start before after hdifferent
  case render =>
    intro bindings s options
    refine ⟨fun renderer hrenderer => ?_, fun hmissing => ⟨unsupported s.visual, ?_, ?_⟩⟩
    · rw [render, hrenderer]
    · rw [contains_iff, Option.not_isSome_iff_eq_none] at hmissing
      rw [render, hmissing]
    · exact render_unsupported s.visual

/-- A built-in tag that is taken over twice, and one that differs in a capital. -/
theorem last_call_counts_of_table :
    let failing : Renderer := fun _ s _ => .refused s.id
    let line : Renderer := fun _ _ _ => .drawn (.verbatim "<hr>")
    let calls := [("table", failing), ("table", line), ("sparkline", failing)]
    let registry := builtin.registerAll calls
    let s : Section := { id := "s", visual := "Table" }
    registry.get? "table" = some line ∧
      builtin.registerAll [("table", failing), ("sparkline", failing), ("table", line)] =
        registry ∧
      ¬ registry.contains s.visual ∧
      ∃ fragment, registry.render {} s {} = .drawn fragment ∧
        fragment.render = unsupportedText "Table" := by
  intro failing line calls registry s
  obtain ⟨hget, -, htags, hswap, hrender⟩ := last_call_counts builtin calls
  have hbuiltin : ¬ builtin.contains "Table" := by decide +kernel
  have hmissing : ¬ registry.contains s.visual := by
    rw [(htags s.visual).2, not_or]
    exact ⟨by decide, hbuiltin⟩
  exact ⟨(hget "table").trans rfl, hswap [("table", failing)] [] _ _ rfl (by decide), hmissing,
    (hrender {} s {}).2 hmissing⟩

end Registry

end DiagnosticReport
