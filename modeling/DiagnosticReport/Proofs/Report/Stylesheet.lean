import DiagnosticReport.Proofs.Markup.Reading
import DiagnosticReport.Report.Stylesheet

/-!
# Stylesheets hold no tags

No tag begins in the stylesheet of a report: the values of a brand lose every `<`, and the chapters
that every report carries have none.
-/

namespace DiagnosticReport

namespace Style

/-- No tag begins in the texts of a rule. -/
def Rule.IsPlain (rule : Rule) : Prop :=
  IsTagFree rule.selector ∧ ∀ d ∈ rule.declarations, IsTagFree d.1 ∧ IsTagFree d.2

/-- No tag begins in the texts of a chapter. -/
def Chapter.IsPlain (chapter : Chapter) : Prop :=
  IsTagFree chapter.title ∧ (∀ media ∈ chapter.media, IsTagFree media) ∧
    ∀ rules ∈ chapter.groups, ∀ rule ∈ rules, rule.IsPlain

instance (rule : Rule) : Decidable rule.IsPlain :=
  inferInstanceAs (Decidable (_ ∧ _))

instance (chapter : Chapter) : Decidable chapter.IsPlain :=
  inferInstanceAs (Decidable (_ ∧ _ ∧ _))

theorem isTagFree_renderDeclaration {d : String × String} (h : IsTagFree d.1 ∧ IsTagFree d.2) :
    IsTagFree (renderDeclaration d) := by
  simp only [renderDeclaration, isTagFree_append]
  exact ⟨⟨⟨h.1, by decide⟩, h.2⟩, by decide⟩

theorem Rule.IsPlain.isTagFree_render {rule : Rule} (h : rule.IsPlain) {indent : String}
    (hindent : IsTagFree indent) : IsTagFree (rule.render indent) := by
  have hdeclaration : ∀ d ∈ rule.declarations, IsTagFree (renderDeclaration d) :=
    fun d hd => isTagFree_renderDeclaration (h.2 d hd)
  unfold Rule.render
  split
  · simp only [isTagFree_append]
    refine ⟨⟨⟨⟨hindent, h.1⟩, by decide⟩, isTagFree_intercalate (by decide) ?_⟩, by decide⟩
    exact List.forall_mem_map.2 hdeclaration
  · simp only [isTagFree_append, isTagFree_join, List.forall_mem_map]
    refine ⟨⟨⟨⟨⟨hindent, h.1⟩, by decide⟩, fun d hd => ?_⟩, hindent⟩, by decide⟩
    exact ⟨⟨⟨hindent, by decide⟩, hdeclaration d hd⟩, by decide⟩

theorem isTagFree_renderGroups {indent : String} (hindent : IsTagFree indent)
    {groups : List (List Rule)} (h : ∀ rules ∈ groups, ∀ rule ∈ rules, rule.IsPlain) :
    IsTagFree (renderGroups indent groups) := by
  apply isTagFree_intercalate (by decide)
  simp only [List.forall_mem_map, isTagFree_join]
  exact fun rules hrules rule hrule => (h rules hrules rule hrule).isTagFree_render hindent

theorem Chapter.IsPlain.isTagFree_render {chapter : Chapter} (h : chapter.IsPlain) :
    IsTagFree chapter.render := by
  obtain ⟨htitle, hmedia, hgroups⟩ := h
  simp only [Chapter.render, isTagFree_append]
  refine ⟨⟨⟨by decide, htitle⟩, by decide⟩, ?_⟩
  cases hchapter : chapter.media with
  | none => exact isTagFree_renderGroups (by decide) hgroups
  | some media =>
    simp only [isTagFree_append]
    exact ⟨⟨⟨⟨by decide, hmedia media (by simp [hchapter])⟩, by decide⟩,
      isTagFree_renderGroups (by decide) hgroups⟩, by decide⟩

/-- No tag begins in a value from outside. -/
theorem isTagFree_value (raw : String) : IsTagFree (value raw) := by
  simp [IsTagFree, value, isUnsafe]

end Style

namespace Stylesheet

open Style

theorem isPlain_of_mem_chapters : ∀ chapter ∈ chapters, chapter.IsPlain := by
  decide +kernel

theorem isPlain_brandRule (brand : Brand) : (brandRule brand).IsPlain := by
  simp only [brandRule, block, Rule.IsPlain, List.forall_mem_cons]
  refine ⟨by decide, ⟨by decide, isTagFree_value _⟩, ⟨by decide, isTagFree_value _⟩,
    ⟨by decide, isTagFree_value _⟩, ⟨by decide, isTagFree_value _⟩, ?_⟩
  exact fun d hd => nomatch hd

/-- **No tag begins in a stylesheet**, whatever the brand is. -/
theorem isTagFree_text (brand : Brand) : IsTagFree (text brand) := by
  simp only [text, renderChapters, isTagFree_append, isTagFree_join, List.forall_mem_map]
  refine ⟨⟨by decide, (isPlain_brandRule brand).isTagFree_render (by decide)⟩, fun chapter h => ?_⟩
  exact ⟨by decide, (isPlain_of_mem_chapters chapter h).isTagFree_render⟩

end Stylesheet

end DiagnosticReport
