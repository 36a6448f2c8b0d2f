import DiagnosticReport.Markup.Basic

/-!
# Rendering piece by piece

The text of a piece of markup is put together from the texts of its parts. If only one part differs,
everything around it is a frame (`Frames`), from which the part can be told.
-/

namespace DiagnosticReport

/-! ## Elements -/

namespace Markup

theorem render_append (m n : Markup) : (m ++ n).render = m.render ++ n.render :=
  rfl

theorem render_concat (pieces : List Markup) :
    (concat pieces).render = String.join (pieces.map render) := by
  induction pieces with
  | nil => rfl
  | cons piece pieces ih =>
    rw [List.map_cons, String.join_cons, ← ih]
    rfl

theorem render_text (s : String) : (text s).render = Text.escape s :=
  rfl

theorem renderAttributes_nil : renderAttributes [] = "" :=
  rfl

theorem renderAttributes_cons (a : Attribute × String) (rest : List (Attribute × String)) :
    renderAttributes (a :: rest) = renderAttribute a ++ renderAttributes rest := by
  apply String.toList_injective
  simp [renderAttributes]

theorem render_element (tag : Tag) (attributes : List (Attribute × String)) (body : Markup) :
    (element tag attributes body).render =
      "<" ++ tag.name ++ renderAttributes attributes ++ ">" ++ body.render ++
        ("</" ++ tag.name ++ ">") := by
  simp only [render, String.append_assoc]

theorem render_plain (tag : Tag) (body : Markup) :
    (plain tag body).render =
      "<" ++ tag.name ++ ">" ++ body.render ++ ("</" ++ tag.name ++ ">") := by
  rw [plain, render_element, renderAttributes_nil, String.append_empty]

theorem render_styled (tag : Tag) (styleClass : String) (body : Markup) :
    (styled tag styleClass body).render =
      "<" ++ tag.name ++ " class=\"" ++ Text.escape styleClass ++ "\">" ++ body.render ++
        ("</" ++ tag.name ++ ">") := by
  have hopen : " class=\"" = " " ++ Attribute.styleClass.name ++ "=\"" := by decide
  have hclose : "\">" = "\"" ++ ">" := by decide
  rw [styled, render_element, renderAttributes_cons, renderAttributes_nil, hopen, hclose]
  simp only [renderAttribute, String.append_empty, String.append_assoc]

end Markup

/-! ## Frames -/

/-- Each outer text is the inner one with the same text before it and the same text behind it. -/
def Frames {α : Type} (inner outer : α → String) : Prop :=
  ∃ front back, ∀ a, outer a = front ++ inner a ++ back

namespace Frames

variable {α : Type} {inner outer : α → String}

theorem refl (inner : α → String) : Frames inner inner :=
  ⟨"", "", fun a => by simp⟩

/-- What is in the frame can be told from the whole. -/
theorem inner_eq (h : Frames inner outer) {a b : α} (hab : outer a = outer b) :
    inner a = inner b := by
  obtain ⟨front, back, hframe⟩ := h
  rw [hframe, hframe, String.append_left_inj, String.append_right_inj] at hab
  exact hab

theorem append_left (h : Frames inner outer) (s : String) : Frames inner fun a => s ++ outer a := by
  obtain ⟨front, back, hframe⟩ := h
  exact ⟨s ++ front, back, fun a => by simp only [hframe, String.append_assoc]⟩

theorem append_right (h : Frames inner outer) (s : String) :
    Frames inner fun a => outer a ++ s := by
  obtain ⟨front, back, hframe⟩ := h
  exact ⟨front, back ++ s, fun a => by simp only [hframe, String.append_assoc]⟩

/-- One of several texts with another text between them. -/
theorem intercalate (h : Frames inner outer) (between : String) (before after : List String) :
    Frames inner fun a => between.intercalate (before ++ outer a :: after) := by
  induction before with
  | nil =>
    cases after with
    | nil => simpa using h
    | cons next after =>
      simp only [List.nil_append, String.intercalate_cons_cons]
      exact (h.append_right _).append_right _
  | cons first before ih =>
    have hmore (a : α) : before ++ outer a :: after ≠ [] := by simp
    simp only [List.cons_append, String.intercalate_cons_of_ne_nil (hmore _)]
    exact ih.append_left _

variable {body : α → Markup}

/-- The body of an element. -/
theorem element (h : Frames inner fun a => (body a).render) (tag : Tag)
    (attributes : List (Attribute × String)) :
    Frames inner fun a => (Markup.element tag attributes (body a)).render := by
  simp only [Markup.render_element]
  exact (h.append_left _).append_right _

/-- One of several pieces. -/
theorem concat (h : Frames inner fun a => (body a).render) (before after : List Markup) :
    Frames inner fun a => (Markup.concat (before ++ body a :: after)).render := by
  induction before with
  | nil => exact h.append_right _
  | cons first before ih => exact ih.append_left _

end Frames

end DiagnosticReport
