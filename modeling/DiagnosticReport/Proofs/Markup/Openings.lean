import DiagnosticReport.Proofs.Markup.Grammar

/-!
# Reading markup by how its tags open

`Markup.opened opening` holds the bodies of the elements whose tags begin with a text, such as
`div class="score-tile `. There are as many of them as there are places in the rendered text at
which such a tag begins (`Markup.Uses.occurrences_eq`): no text and no attribute adds one.
-/

namespace DiagnosticReport

/-- The beginning of a tag, which does not reach the end of the tag. -/
def IsOpening (opening : String) : Prop :=
  opening.toList ≠ [] ∧ '/' ∉ opening.toList ∧ '>' ∉ opening.toList

instance (opening : String) : Decidable (IsOpening opening) :=
  inferInstanceAs (Decidable (_ ∧ _ ∧ _))

namespace Markup

/-! ## Openings -/

def attributeChars (a : Attribute × String) : List Char :=
  ' ' :: a.1.name.toList ++ '=' :: '"' :: a.2.toList.flatMap Text.escapeChar ++ ['"']

/-- The tag of an element begins with a text. -/
def opens (opening : String) (tag : Tag) (attributes : List (Attribute × String)) : Bool :=
  opening.toList.isPrefixOf (tag.name.toList ++ attributes.flatMap attributeChars)

/-- The bodies of the elements whose tags begin with a text, in the order of the tags. -/
def opened (opening : String) : Markup → List Markup
  | empty | text _ | bullet | verbatim _ => []
  | element tag attributes body =>
    (if opens opening tag attributes then [body] else []) ++ body.opened opening
  | leaf tag attributes => if opens opening tag attributes then [empty] else []
  | append first second => first.opened opening ++ second.opened opening

section

variable {opening : String} {tag : Tag} {attributes : List (Attribute × String)} {body : Markup}

@[simp] theorem opened_append {first second : Markup} :
    (first ++ second).opened opening = first.opened opening ++ second.opened opening := rfl

@[simp] theorem opened_concat {pieces : List Markup} :
    (concat pieces).opened opening = pieces.flatMap (opened opening) := by
  induction pieces with
  | nil => rfl
  | cons piece pieces ih =>
    rw [List.flatMap_cons, ← ih]
    rfl

theorem opened_element_of_opens (h : opens opening tag attributes) :
    (element tag attributes body).opened opening = body :: body.opened opening := by
  rw [opened, if_pos h, List.singleton_append]

theorem opened_element_of_not_opens (h : opens opening tag attributes = false) :
    (element tag attributes body).opened opening = body.opened opening := by
  rw [opened, h, if_neg Bool.false_ne_true, List.nil_append]

theorem opened_concat_eq_nil {pieces : List Markup}
    (h : ∀ piece ∈ pieces, piece.opened opening = []) : (concat pieces).opened opening = [] := by
  rw [opened_concat]
  exact List.flatMap_eq_nil_iff.2 h

section

variable {β γ : Type} {read : Markup → β} {shown : γ → β}

theorem map_opened_concat_map {draw : γ → Markup}
    (h : ∀ c, ((draw c).opened opening).map read = [shown c]) (members : List γ) :
    ((concat (members.map draw)).opened opening).map read = members.map shown := by
  rw [opened_concat, List.flatMap_map, List.map_flatMap, List.map_eq_flatMap]
  exact List.flatMap_congr fun c _ => h c

theorem map_opened_concat_mapIdx {draw : Nat → γ → Markup}
    (h : ∀ i c, ((draw i c).opened opening).map read = [shown c]) (members : List γ) :
    ((concat (members.mapIdx draw)).opened opening).map read = members.map shown := by
  have hmap := map_opened_concat_map (fun p : γ × Nat => h p.2 p.1) members.zipIdx
  have hshown : members.zipIdx.map (fun p => shown p.1) = members.map shown := by
    rw [← Function.comp_def shown, ← List.map_map, List.zipIdx_map_fst]
  rw [List.mapIdx_eq_zipIdx_map, ← hshown, ← hmap]

end

/-! ## Tags of the rendered text -/

theorem toList_renderAttribute (a : Attribute × String) :
    (renderAttribute a).toList = attributeChars a := by
  simp [renderAttribute, attributeChars, Text.toList_escape]

theorem toList_name_attributes (tag : Tag) (attributes : List (Attribute × String)) :
    (tag.name ++ renderAttributes attributes).toList =
      tag.name.toList ++ attributes.flatMap attributeChars := by
  rw [String.toList_append, renderAttributes, String.toList_join, List.flatMap_map]
  simp only [toList_renderAttribute]

variable (hopening : IsOpening opening)
include hopening

theorem isPrefixOf_closing (tag : Tag) :
    opening.toList.isPrefixOf ('/' :: tag.name.toList) = false := by
  obtain ⟨hne, hslash, -⟩ := hopening
  cases hchars : opening.toList with
  | nil => exact absurd hchars hne
  | cons c cs =>
    have hc : c ≠ '/' := fun h => hslash (hchars ▸ h ▸ List.mem_cons_self ..)
    exact Bool.and_eq_false_iff.2 (.inl (beq_eq_false_iff_ne.2 hc))

/-- The mark of an element without a closing tag is not part of an opening. -/
theorem isPrefixOf_append_slash (cs : List Char) :
    opening.toList.isPrefixOf (cs ++ ['/']) = opening.toList.isPrefixOf cs := by
  rw [Bool.eq_iff_iff, List.isPrefixOf_iff_prefix, List.isPrefixOf_iff_prefix,
    List.prefix_concat_iff]
  exact or_iff_right fun h => hopening.2.1 (h ▸ by simp)

theorem countP_tags (m : Markup) :
    m.tags.countP opening.toList.isPrefixOf = (m.opened opening).length := by
  induction m with
  | empty | text | bullet | verbatim => rfl
  | element tag attributes body ih =>
    rw [tags, List.cons_append, List.countP_cons, List.countP_append, ih, List.countP_singleton,
      isPrefixOf_closing hopening, toList_name_attributes, ← opens, opened, List.length_append]
    cases opens opening tag attributes <;> simp [Nat.add_comm]
  | leaf tag attributes =>
    have hslash : "/".toList = ['/'] := rfl
    rw [tags, List.countP_singleton, String.toList_append, hslash, isPrefixOf_append_slash hopening,
      toList_name_attributes, ← opens, opened]
    cases opens opening tag attributes <;> rfl
  | append first second ihFirst ihSecond =>
    rw [tags, List.countP_append, ihFirst, ihSecond, opened, List.length_append]

/-- **Counting in the text.** A tag begins with the opening at as many places of the rendered text
as there are elements with such a tag. -/
theorem Uses.occurrences_eq {p : Tag → Bool} {m : Markup} (h : m.Uses p) :
    occurrences ("<" ++ opening) m.render = (m.opened opening).length := by
  rw [occurrences_opening hopening.2.2, h.readTags_render, countP_tags hopening]

/-- Markup of other elements has none whose tag begins so. -/
theorem Uses.opened_eq_nil {p : Tag → Bool} {m : Markup} (h : m.Uses p)
    (htags : ∀ tag, p tag → ∀ rest, opening.toList.isPrefixOf (tag.name.toList ++ rest) = false) :
    m.opened opening = [] := by
  have hnone := h.forall_tags htags fun tag _ => isPrefixOf_closing hopening tag
  rw [← List.length_eq_zero_iff, ← countP_tags hopening, List.countP_eq_zero]
  exact fun t ht => Bool.eq_false_iff.1 (hnone t ht)

end

end Markup

end DiagnosticReport
