import DiagnosticReport.Proofs.Markup.Grammar
import DiagnosticReport.Proofs.Visual.Attributes
import DiagnosticReport.Proofs.Visual.Registry
import DiagnosticReport.Report.Block

/-!
# Section blocks are well formed

The fragments of the built-in visuals and the blocks around them are properly nested elements with
names from a fixed list, for all bindings, sections and options. Their style classes and numbers
stand in them as they are.
-/

namespace DiagnosticReport

/-- The names of the elements in a fragment. -/
def fragmentNames : List String :=
  ["aside", "circle", "div", "g", "h3", "li", "line", "ol", "p", "path", "rect", "span", "svg",
   "table", "tbody", "td", "text", "th", "thead", "title", "tr", "ul"]

/-- The names of the elements in the block of a section. -/
def blockNames : List String :=
  "section" :: "h2" :: fragmentNames

/-- The elements of a block: those of fragments and the frame around them. -/
def Tag.isBlock (tag : Tag) : Bool :=
  tag.isDrawn || tag = block || tag = h2

theorem Tag.name_mem_fragmentNames (tag : Tag) (h : tag.isDrawn) : tag.name ∈ fragmentNames := by
  cases tag <;> revert h <;> decide

theorem Tag.name_mem_blockNames (tag : Tag) (h : tag.isBlock) : tag.name ∈ blockNames := by
  cases tag <;> revert h <;> decide

theorem Tag.isBlock_of_isDrawn (tag : Tag) (h : tag.isDrawn) : tag.isBlock := by
  simp [isBlock, h]

namespace Section

/-- A block adds its own frame and heading to the elements of the fragment. -/
theorem uses_block {p : Tag → Bool} {s : Section} {fragment : Markup} :
    (s.block fragment).Uses p ↔
      p .block ∧ p .h2 ∧ s.descriptionMarkup.Uses p ∧ p .div ∧ fragment.Uses p := by
  simp [block, and_assoc]

theorem uses_descriptionMarkup {p : Tag → Bool} (hp : p .p) (s : Section) :
    s.descriptionMarkup.Uses p := by
  rw [descriptionMarkup, Markup.uses_optional]
  intro m hm
  obtain ⟨text, -, rfl⟩ := Option.map_eq_some_iff.1 hm
  exact ⟨hp, trivial⟩

theorem uses_block_of_uses {fragment : Markup} (h : fragment.Uses Tag.isDrawn) (s : Section) :
    (s.block fragment).Uses Tag.isBlock :=
  uses_block.2 ⟨rfl, rfl, uses_descriptionMarkup rfl s, rfl, h.mono Tag.isBlock_of_isDrawn⟩

end Section

/-! ## Style classes -/

/-- No class that layout hints give has a character that is escaped. -/
theorem LayoutHints.isPlain_classes (hints : LayoutHints) :
    ∀ name ∈ hints.classes, Text.IsPlain name := by
  simp only [classes, List.forall_mem_append]
  refine ⟨⟨⟨⟨?before, ?after⟩, ?columns⟩, ?width⟩, ?emphasis⟩
  case before => cases hints.breakBefore <;> decide
  case after => cases hints.breakAfter <;> decide
  case width => cases hints.fullWidth <;> decide
  case columns =>
    intro name h
    simp only [columnsClass?, Option.mem_toList, Option.map_eq_some_iff, Option.filter_eq_some_iff,
      Bool.and_eq_true, decide_eq_true_eq] at h
    obtain ⟨n, ⟨-, hlow, hhigh⟩, rfl⟩ := h
    obtain rfl | rfl | rfl : n = 2 ∨ n = 3 ∨ n = 4 := by omega
    all_goals decide
  case emphasis =>
    intro name h
    simp only [emphasisClass?, Option.mem_toList, Option.map_eq_some_iff,
      Option.filter_eq_some_iff] at h
    obtain ⟨slug, ⟨⟨emphasis, -, rfl⟩, -⟩, rfl⟩ := h
    exact .append (by decide) (isPlain_styleSlug emphasis)

namespace Section

theorem escapeChar_of_isTagChar {c : Char} (h : isTagChar c) : Text.escapeChar c = [c] := by
  simp only [isTagChar, Bool.or_eq_true, beq_iff_eq] at h
  rcases h with (h | rfl) | rfl
  · exact Text.escapeChar_of_isAlphanum h
  · rfl
  · rfl

/-- No class of a block has a character that is escaped. -/
theorem isPlain_classes (s : Section) : ∀ name ∈ s.classes, Text.IsPlain name := by
  simp only [classes, List.forall_mem_append, List.forall_mem_singleton, Option.mem_toList]
  refine ⟨⟨by decide, fun name h => ?_⟩, ?_⟩
  · simp only [visualClass?, Option.ite_none_left_eq_some, Option.some.injEq] at h
    obtain ⟨-, rfl⟩ := h
    refine .append (by decide) fun c hc => ?_
    rw [String.toList_ofList] at hc
    exact escapeChar_of_isTagChar (List.mem_filter.1 hc).2
  · cases s.layout with
    | none => exact fun _ h => nomatch h
    | some hints => exact hints.isPlain_classes

theorem isPlain_intercalate_classes (s : Section) :
    Text.IsPlain (String.intercalate " " s.classes) :=
  Text.isPlain_intercalate (by decide) s.isPlain_classes

/-- A block has plain attributes if the fragment in it has. -/
theorem hasPlainAttributes_block {fragment : Markup} (h : fragment.HasPlainAttributes)
    (s : Section) : (s.block fragment).HasPlainAttributes := by
  have hdescription : s.descriptionMarkup.HasPlainAttributes := by
    rw [descriptionMarkup, Markup.hasPlainAttributes_optional]
    intro m hm
    obtain ⟨text, -, rfl⟩ := Option.map_eq_some_iff.1 hm
    simp +decide
  simp +decide [block, hdescription, isPlain_intercalate_classes, h, Attribute.holdsText]

end Section

/-- Whatever is drawn with the built-in visuals has plain attributes. -/
theorem Registry.hasPlainAttributes_of_drawn {bindings : Bindings} {s : Section}
    {options : RenderOptions} {fragment : Markup}
    (h : builtin.render bindings s options = .drawn fragment) : fragment.HasPlainAttributes := by
  unfold render at h
  rw [get?_builtin] at h
  cases hvisual : Visual.ofTag? s.visual with
  | none =>
    rw [hvisual] at h
    obtain rfl := Outcome.drawn.inj h
    simp +decide [unsupported]
  | some visual =>
    rw [hvisual] at h
    exact Visual.hasPlainAttributes_of_drawn h

/-! ## Rendering -/

/-- **Rendering with the built-in visuals.** A section is refused exactly if it asks for a
comparison of fewer than two bindings; any other is drawn, and then both its fragment and its block
are well formed, with no elements but those of the fixed lists. No more of their attributes need an
escape than may hold a text of the recipe or the document. -/
theorem Registry.render_builtin_wellFormed (bindings : Bindings) (s : Section)
    (options : RenderOptions) :
    (s.visual = "comparison_table" ∧ bindings.size < 2 ∧
      builtin.render bindings s options =
        .refused (Visual.TooFewSources.message ⟨s.id, bindings.size⟩)) ∨
    (¬(s.visual = "comparison_table" ∧ bindings.size < 2) ∧
      ∃ fragment, builtin.render bindings s options = .drawn fragment ∧
        fragment.WellFormed fragmentNames ∧ (s.block fragment).WellFormed blockNames ∧
        fragment.render = fragment.renderAsIs ∧
        (s.block fragment).render = (s.block fragment).renderAsIs) := by
  rcases render_builtin_cases bindings s options with ⟨hlacks, hrender⟩ | ⟨hlacks, hrender⟩
  · exact .inl ⟨hlacks.1, hlacks.2, hrender⟩
  · obtain ⟨fragment, hfragment, huses⟩ := hrender
    have hplain := hasPlainAttributes_of_drawn hfragment
    exact .inr ⟨hlacks, fragment, hfragment, huses.wellFormed Tag.name_mem_fragmentNames,
      (s.uses_block_of_uses huses).wellFormed Tag.name_mem_blockNames, hplain.render_eq,
      (s.hasPlainAttributes_block hplain).render_eq⟩

example : "script" ∉ blockNames := by decide

end DiagnosticReport
