import DiagnosticReport.Markup.Basic

/-!
# The elements of markup

`Markup.Uses p` says that a piece of markup is built from texts and from elements that `p` allows,
with no verbatim part. It unfolds along the ways in which markup is put together, so that the
elements of a drawing are read off its definition.
-/

namespace DiagnosticReport.Markup

/-- The markup has no verbatim part and all its elements are among the given ones. -/
def Uses (p : Tag → Bool) : Markup → Prop
  | empty | text _ | bullet => True
  | element tag _ body => p tag ∧ body.Uses p
  | leaf tag _ => p tag
  | append first second => first.Uses p ∧ second.Uses p
  | verbatim _ => False

section

variable {p q : Tag → Bool}

@[simp] theorem uses_empty : empty.Uses p := trivial

@[simp] theorem uses_text (s : String) : (text s).Uses p := trivial

@[simp] theorem uses_bullet : bullet.Uses p := trivial

@[simp] theorem uses_element {tag : Tag} {attributes : List (Attribute × String)} {body : Markup} :
    (element tag attributes body).Uses p ↔ p tag ∧ body.Uses p := Iff.rfl

@[simp] theorem uses_leaf {tag : Tag} {attributes : List (Attribute × String)} :
    (leaf tag attributes).Uses p ↔ p tag := Iff.rfl

@[simp] theorem uses_append {first second : Markup} :
    (first ++ second).Uses p ↔ first.Uses p ∧ second.Uses p := Iff.rfl

@[simp] theorem uses_styled {tag : Tag} {styleClass : String} {body : Markup} :
    (styled tag styleClass body).Uses p ↔ p tag ∧ body.Uses p := Iff.rfl

@[simp] theorem uses_plain {tag : Tag} {body : Markup} :
    (plain tag body).Uses p ↔ p tag ∧ body.Uses p := Iff.rfl

@[simp] theorem uses_concat {pieces : List Markup} :
    (concat pieces).Uses p ↔ ∀ piece ∈ pieces, piece.Uses p := by
  induction pieces with
  | nil => simp [concat]
  | cons piece pieces ih =>
    rw [List.forall_mem_cons, ← ih]
    rfl

@[simp high] theorem uses_concat_mapIdx {α : Type} {f : Nat → α → Markup} {l : List α} :
    (concat (l.mapIdx f)).Uses p ↔ ∀ i (h : i < l.length), (f i l[i]).Uses p := by
  rw [uses_concat]
  constructor
  · exact fun h i hi => h _ (List.mem_mapIdx.2 ⟨i, hi, rfl⟩)
  · intro h piece hpiece
    obtain ⟨i, hi, rfl⟩ := List.mem_mapIdx.1 hpiece
    exact h i hi

@[simp] theorem uses_optional {piece : Option Markup} :
    (optional piece).Uses p ↔ ∀ m ∈ piece, m.Uses p := by
  cases piece <;> simp [optional]

@[simp] theorem uses_ite {c : Prop} [Decidable c] {first second : Markup} :
    (if c then first else second).Uses p ↔ (c → first.Uses p) ∧ (¬c → second.Uses p) := by
  split <;> simp [*]

theorem uses_join {between : Markup} (hbetween : between.Uses p) {pieces : List Markup}
    (hpieces : ∀ piece ∈ pieces, piece.Uses p) : (join between pieces).Uses p := by
  induction pieces using join.induct with
  | case1 => exact uses_empty
  | case2 piece => exact hpieces piece (by simp)
  | case3 piece rest hrest ih =>
    rw [join]
    · exact ⟨⟨hpieces piece (by simp), hbetween⟩, ih fun m hm => hpieces m (by simp [hm])⟩
    · exact hrest

/-- Markup of some elements is markup of more elements. -/
theorem Uses.mono (h : ∀ tag, p tag → q tag) : ∀ {m : Markup}, m.Uses p → m.Uses q
  | empty, _ | text _, _ | bullet, _ => trivial
  | element tag _ _, hm => ⟨h tag hm.1, hm.2.mono h⟩
  | leaf tag _, hm => h tag hm
  | append _ _, hm => ⟨hm.1.mono h, hm.2.mono h⟩

end

end DiagnosticReport.Markup
