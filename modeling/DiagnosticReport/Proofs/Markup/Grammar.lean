import DiagnosticReport.Proofs.Markup.Elements
import DiagnosticReport.Proofs.Markup.Reading
import DiagnosticReport.Proofs.Text.Escaped

/-!
# Rendered markup is well formed

`IsMarkup` is the grammar of texts with properly nested elements: between the tags and between the
quotes of attributes stands nothing that could begin or end either of them. It does not know the
tree that a text was rendered from. Markup without verbatim parts renders into the grammar
(`isMarkup_render`), and its tags are read back one by one, whatever its texts and attributes hold
(`readTags_render_append`).
-/

namespace DiagnosticReport

/-! ## The grammar of texts -/

/-- A text that neither begins nor ends a tag or the value of an attribute. -/
def IsInert (s : String) : Prop :=
  ∀ c ∈ s.toList, c ≠ '<' ∧ c ≠ '>' ∧ c ≠ '"'

instance (s : String) : Decidable (IsInert s) :=
  List.decidableBAll _ _

theorem IsInert.isTagFree {s : String} (h : IsInert s) : IsTagFree s :=
  fun hmem => (h _ hmem).1 rfl

theorem IsInert.not_gt {s : String} (h : IsInert s) : '>' ∉ s.toList :=
  fun hmem => (h _ hmem).2.1 rfl

/-- Attributes with their values in double quotes. -/
inductive IsAttributes : String → Prop
  | nil : IsAttributes ""
  | cons (name : Attribute) {value rest : String} (hvalue : IsInert value)
      (hrest : IsAttributes rest) :
      IsAttributes (" " ++ name.name ++ "=\"" ++ value ++ "\"" ++ rest)

/-- Texts and properly nested elements of the given names. -/
inductive IsMarkup (names : List String) : String → Prop
  | text {s : String} (h : IsInert s) : IsMarkup names s
  | element {name attributes body : String} (hname : name ∈ names)
      (hattributes : IsAttributes attributes) (hbody : IsMarkup names body) :
      IsMarkup names ("<" ++ name ++ attributes ++ ">" ++ body ++ "</" ++ name ++ ">")
  | leaf {name attributes : String} (hname : name ∈ names)
      (hattributes : IsAttributes attributes) :
      IsMarkup names ("<" ++ name ++ attributes ++ "/>")
  | append {first second : String} (hfirst : IsMarkup names first)
      (hsecond : IsMarkup names second) : IsMarkup names (first ++ second)

/-! ## Names and escaped texts -/

theorem isInert_escape (s : String) : IsInert (Text.escape s) := by
  intro c hc
  obtain ⟨hlt, hgt, hquot, -⟩ := Text.not_special_of_mem_escape hc
  exact ⟨hlt, hgt, hquot⟩

theorem Tag.isInert_name (tag : Tag) : IsInert tag.name := by
  cases tag <;> decide

theorem Attribute.isInert_name (a : Attribute) : IsInert a.name := by
  cases a <;> decide

theorem IsAttributes.isTagFree {s : String} (h : IsAttributes s) : IsTagFree s := by
  induction h with
  | nil => decide
  | cons name hvalue _ ih =>
    have hname := name.isInert_name.isTagFree
    simp only [isTagFree_append]
    exact ⟨⟨⟨⟨⟨by decide, hname⟩, by decide⟩, hvalue.isTagFree⟩, by decide⟩, ih⟩

theorem IsAttributes.not_gt {s : String} (h : IsAttributes s) : '>' ∉ s.toList := by
  induction h with
  | nil => decide
  | cons name hvalue _ ih =>
    have hname := name.isInert_name.not_gt
    simp only [String.toList_append, List.mem_append, not_or]
    exact ⟨⟨⟨⟨⟨by decide, hname⟩, by decide⟩, hvalue.not_gt⟩, by decide⟩, ih⟩

namespace Markup

/-! ## Attributes -/

theorem isAttributes_renderAttributes (attributes : List (Attribute × String)) :
    IsAttributes (renderAttributes attributes) := by
  induction attributes with
  | nil => exact .nil
  | cons a attributes ih =>
    have h := IsAttributes.cons a.1 (isInert_escape a.2) ih
    rwa [show renderAttributes (a :: attributes) =
      " " ++ a.1.name ++ "=\"" ++ Text.escape a.2 ++ "\"" ++ renderAttributes attributes by
        simp [renderAttributes, renderAttribute]]

/-! ## Rendering -/

/-- What stands in the tags of the elements, in the order of the tags. -/
def tags : Markup → List (List Char)
  | empty | text _ | bullet | verbatim _ => []
  | element tag attributes body =>
    (tag.name ++ renderAttributes attributes).toList :: body.tags ++ [('/' :: tag.name.toList)]
  | leaf tag attributes => [(tag.name ++ renderAttributes attributes ++ "/").toList]
  | append first second => first.tags ++ second.tags

theorem isMarkup_render {p : Tag → Bool} {names : List String}
    (hnames : ∀ tag, p tag → tag.name ∈ names) :
    ∀ {m : Markup}, m.Uses p → IsMarkup names m.render
  | empty, _ => .text (by decide)
  | text s, _ => .text (isInert_escape s)
  | bullet, _ => .text (by decide)
  | element tag attributes body, h =>
    .element (hnames tag h.1) (isAttributes_renderAttributes attributes)
      (isMarkup_render hnames h.2)
  | leaf tag attributes, h => .leaf (hnames tag h) (isAttributes_renderAttributes attributes)
  | append first second, h => .append (isMarkup_render hnames h.1) (isMarkup_render hnames h.2)

/-- What stands in a tag of an element holds no bracket. -/
theorem bracket_not_mem_open (tag : Tag) (attributes : List (Attribute × String)) :
    '<' ∉ (tag.name ++ renderAttributes attributes).toList ∧
      '>' ∉ (tag.name ++ renderAttributes attributes).toList := by
  have hname := tag.isInert_name
  have hattributes := isAttributes_renderAttributes attributes
  simp only [String.toList_append, List.mem_append, not_or]
  exact ⟨⟨hname.isTagFree, hattributes.isTagFree⟩, hname.not_gt, hattributes.not_gt⟩

/-- A tag of an element is read as its name and its attributes, with what ends it. -/
theorem readTags_name_attributes (tag : Tag) (attributes : List (Attribute × String))
    {ending : List Char} (h : '<' ∉ ending) (h' : '>' ∉ ending) (rest : List Char) :
    readTags ('<' :: ((tag.name ++ renderAttributes attributes).toList ++ ending ++ '>' :: rest)) =
      ((tag.name ++ renderAttributes attributes).toList ++ ending) :: readTags rest := by
  obtain ⟨hlt, hgt⟩ := bracket_not_mem_open tag attributes
  apply readTags_tag
  · rw [List.mem_append, not_or]
    exact ⟨hlt, h⟩
  · rw [List.mem_append, not_or]
    exact ⟨hgt, h'⟩

theorem readTags_closing (tag : Tag) (rest : List Char) :
    readTags ('<' :: ('/' :: tag.name.toList ++ '>' :: rest)) =
      ('/' :: tag.name.toList) :: readTags rest := by
  have hname := tag.isInert_name
  apply readTags_tag
  · exact List.not_mem_cons_of_ne_of_not_mem (by decide) hname.isTagFree
  · exact List.not_mem_cons_of_ne_of_not_mem (by decide) hname.not_gt

/-- **The tags of rendered markup are the tags of its elements**: no text and no attribute adds,
removes or changes one. -/
theorem readTags_render_append {p : Tag → Bool} {m : Markup} (h : m.Uses p) (rest : List Char) :
    readTags (m.render.toList ++ rest) = m.tags ++ readTags rest := by
  induction m generalizing rest with
  | empty => rfl
  | text s => exact readTags_append_of_not_mem (isInert_escape s).isTagFree rest
  | bullet => exact readTags_append_of_not_mem (by decide) rest
  | element tag attributes body ih =>
    have hrender : (element tag attributes body).render.toList ++ rest =
        '<' :: ((tag.name ++ renderAttributes attributes).toList ++ [] ++ '>' ::
          (body.render.toList ++ '<' :: ('/' :: tag.name.toList ++ '>' :: rest))) := by
      simp [render]
    rw [hrender, readTags_name_attributes tag attributes (by simp) (by simp), ih h.2,
      readTags_closing]
    simp [tags]
  | leaf tag attributes =>
    have hrender : (leaf tag attributes).render.toList ++ rest =
        '<' :: ((tag.name ++ renderAttributes attributes).toList ++ ['/'] ++ '>' :: rest) := by
      simp [render]
    rw [hrender, readTags_name_attributes tag attributes (by decide) (by decide)]
    simp [tags]
  | append first second ihFirst ihSecond =>
    rw [render, String.toList_append, List.append_assoc, ihFirst h.1, ihSecond h.2, tags,
      List.append_assoc]
  | verbatim s => exact h.elim

theorem Uses.readTags_render {p : Tag → Bool} {m : Markup} (h : m.Uses p) :
    readTags m.render.toList = m.tags := by
  have hread := readTags_render_append h []
  rwa [List.append_nil, readTags, List.append_nil] at hread

theorem Uses.isClosed {p : Tag → Bool} {m : Markup} (h : m.Uses p) : IsClosed m.render.toList := by
  intro rest
  rw [readTags_render_append h, h.readTags_render]

/-- What holds of no tag of the elements that are used holds of no tag of the markup. -/
theorem Uses.forall_tags {p : Tag → Bool} {q : List Char → Bool}
    (hopen : ∀ tag, p tag → ∀ rest, q (tag.name.toList ++ rest) = false)
    (hclose : ∀ tag, p tag → q ('/' :: tag.name.toList) = false) {m : Markup} (h : m.Uses p) :
    ∀ t ∈ m.tags, q t = false := by
  induction m with
  | empty | text | bullet => exact fun t ht => nomatch ht
  | element tag attributes body ih =>
    intro t ht
    rw [tags, List.cons_append, List.mem_cons, List.mem_append, List.mem_singleton] at ht
    rcases ht with rfl | ht | rfl
    · rw [String.toList_append]
      exact hopen tag h.1 _
    · exact ih h.2 t ht
    · exact hclose tag h.1
  | leaf tag attributes =>
    intro t ht
    obtain rfl := List.mem_singleton.1 ht
    rw [String.toList_append, String.toList_append, List.append_assoc]
    exact hopen tag h _
  | append first second ihFirst ihSecond =>
    intro t ht
    rcases List.mem_append.1 ht with ht | ht
    · exact ihFirst h.1 t ht
    · exact ihSecond h.2 t ht
  | verbatim s => exact h.elim

/-! ## Well-formed markup -/

/-- The rendered text is properly nested elements of the given names, and the tags read in it are
those of the elements of the markup. -/
structure WellFormed (names : List String) (m : Markup) : Prop where
  grammar : IsMarkup names m.render
  tags_eq : readTags m.render.toList = m.tags

theorem Uses.wellFormed {p : Tag → Bool} {names : List String} {m : Markup} (h : m.Uses p)
    (hnames : ∀ tag, p tag → tag.name ∈ names) : m.WellFormed names :=
  ⟨isMarkup_render hnames h, h.readTags_render⟩

end Markup

end DiagnosticReport
