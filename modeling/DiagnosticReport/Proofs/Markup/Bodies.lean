import DiagnosticReport.Proofs.Markup.Openings

/-!
# Reading the bodies of elements

`readElements` reads a text without knowing what it was rendered from: it takes what stands between
each tag of a name and the next tag that ends this name. Of rendered markup it reads the bodies of
the elements of the name, if none of these stands in another one (`Separate.readElements_render`).
-/

namespace DiagnosticReport

/-! ## Reading a text -/

/-- What stands before the first place at which another text stands. -/
def upTo (ending : List Char) : List Char → List Char
  | [] => []
  | c :: cs => if ending.isPrefixOf (c :: cs) then [] else c :: upTo ending cs

def isNameChar (c : Char) : Bool :=
  c != ' ' && c != '>' && c != '/'

/-- The name with which a tag begins. -/
def tagName (cs : List Char) : List Char :=
  cs.takeWhile isNameChar

def endTag (name : List Char) : List Char :=
  '<' :: ('/' :: name ++ ['>'])

def readBodies (name : List Char) : List Char → List (List Char)
  | [] => []
  | c :: cs =>
    if c = '<' ∧ tagName cs = name then
      upTo (endTag name) (cs.dropWhile (· != '>')).tail :: readBodies name cs
    else readBodies name cs

/-- What stands between each tag of a name and the next tag that ends this name. -/
def readElements (name text : String) : List String :=
  (readBodies name.toList text.toList).map String.ofList

/-- Texts between tags are passed over. -/
theorem readBodies_append_of_not_mem {cs : List Char} (h : '<' ∉ cs) (name rest : List Char) :
    readBodies name (cs ++ rest) = readBodies name rest := by
  induction cs with
  | nil => rfl
  | cons c cs ih =>
    rw [List.cons_append, readBodies, if_neg fun hc => List.ne_of_not_mem_cons h hc.1.symm,
      ih (List.not_mem_of_not_mem_cons h)]

/-- A text without the ending tag is read up to that tag. -/
theorem upTo_append {name cs : List Char} (hname : '>' ∉ name) (hclosed : IsClosed cs)
    (hcs : '/' :: name ∉ readTags cs) (rest : List Char) :
    upTo (endTag name) (cs ++ (endTag name ++ rest)) = cs := by
  induction cs with
  | nil => simp [endTag, upTo]
  | cons c cs ih =>
    obtain ⟨hmem, htail⟩ := hclosed.of_cons
    have hslash : '>' ∉ '/' :: name := List.not_mem_cons_of_ne_of_not_mem (by decide) hname
    rw [readTags] at hcs
    have hnot : ¬ (endTag name).isPrefixOf (c :: (cs ++ (endTag name ++ rest))) := by
      rw [endTag, List.isPrefixOf_cons_cons]
      by_cases hc : c = '<'
      · rw [if_pos hc] at hcs
        rw [isPrefixOf_append_close hslash (List.mem_append_left _ (hmem hc)),
          takeWhile_append_of_mem (hmem hc)]
        simpa [hc] using Ne.symm (List.ne_of_not_mem_cons hcs)
      · simp [Ne.symm hc]
    rw [List.cons_append, upTo, if_neg hnot, ih htail]
    split at hcs
    · exact List.not_mem_of_not_mem_cons hcs
    · exact hcs

/-! ## Names of tags -/

theorem Tag.all_isNameChar (tag : Tag) : tag.name.toList.all isNameChar := by
  cases tag <;> decide

/-- Tags have different names. -/
theorem Tag.name_injective {tag other : Tag} (h : tag.name.toList = other.name.toList) :
    tag = other := by
  cases tag <;> cases other <;> first | rfl | exact absurd h (by decide)

theorem Tag.name_ne_nil (tag : Tag) : tag.name.toList ≠ [] := by
  cases tag <;> decide

namespace Markup

section

variable (tag other : Tag) (attributes : List (Attribute × String)) (rest : List Char)

theorem tagName_open {x : Char} (hx : x = '>' ∨ x = '/') :
    tagName (tag.name.toList ++ attributes.flatMap attributeChars ++ x :: rest) =
      tag.name.toList := by
  rw [tagName, List.append_assoc, List.takeWhile_append_of_pos]
  · cases attributes with
    | nil => rcases hx with rfl | rfl <;> simp [isNameChar]
    | cons a attributes => simp [attributeChars, isNameChar]
  · exact List.all_eq_true.1 tag.all_isNameChar

theorem lt_not_mem_open : '<' ∉ tag.name.toList ++ attributes.flatMap attributeChars :=
  toList_name_attributes tag attributes ▸ (bracket_not_mem_open tag attributes).1

theorem gt_not_mem_open : '>' ∉ tag.name.toList ++ attributes.flatMap attributeChars :=
  toList_name_attributes tag attributes ▸ (bracket_not_mem_open tag attributes).2

/-- At a tag of its name, the reader takes what stands up to the end tag. -/
theorem readBodies_self :
    readBodies tag.name.toList
        ('<' :: (tag.name.toList ++ attributes.flatMap attributeChars ++ '>' :: rest)) =
      upTo (endTag tag.name.toList) rest :: readBodies tag.name.toList rest := by
  have hdrop : (tag.name.toList ++ attributes.flatMap attributeChars ++ '>' :: rest).dropWhile
      (· != '>') = '>' :: rest := by
    rw [List.dropWhile_append_of_pos]
    · simp
    · intro c hc
      have hne : c ≠ '>' := fun h => gt_not_mem_open tag attributes (h ▸ hc)
      simpa using hne
  rw [readBodies, if_pos ⟨rfl, tagName_open tag attributes rest (.inl rfl)⟩, hdrop, List.tail_cons,
    readBodies_append_of_not_mem (lt_not_mem_open tag attributes), readBodies, if_neg (by simp)]

/-- Tags of other names are passed over. -/
theorem readBodies_of_ne (h : other ≠ tag) {x : Char} (hx : x = '>' ∨ x = '/') :
    readBodies tag.name.toList
        ('<' :: (other.name.toList ++ attributes.flatMap attributeChars ++ x :: rest)) =
      readBodies tag.name.toList rest := by
  have hname : tagName (other.name.toList ++ attributes.flatMap attributeChars ++ x :: rest) ≠
      tag.name.toList := by
    rw [tagName_open other attributes rest hx]
    exact fun heq => h (Tag.name_injective heq)
  have hx' : x ≠ '<' := by
    rcases hx with rfl | rfl <;> decide
  rw [readBodies, if_neg fun hc => hname hc.2,
    readBodies_append_of_not_mem (lt_not_mem_open other attributes), readBodies,
    if_neg fun hc => hx' hc.1]

/-- End tags are passed over. -/
theorem readBodies_endTag :
    readBodies tag.name.toList (endTag other.name.toList ++ rest) =
      readBodies tag.name.toList rest := by
  have hname : tagName ('/' :: other.name.toList ++ ['>'] ++ rest) ≠ tag.name.toList :=
    Ne.symm tag.name_ne_nil
  have hnot : '<' ∉ '/' :: other.name.toList ++ ['>'] := by
    have hmem := other.isInert_name.isTagFree
    simpa [IsTagFree] using hmem
  rw [endTag, List.cons_append, readBodies, if_neg fun hc => hname hc.2,
    readBodies_append_of_not_mem hnot]

end

/-! ## Reading a tree -/

/-- The bodies of the elements with a tag, in the order of the tags. -/
def bodies (tag : Tag) : Markup → List Markup
  | empty | text _ | bullet | leaf .. | verbatim _ => []
  | element other _ body => (if other = tag then [body] else []) ++ body.bodies tag
  | append first second => first.bodies tag ++ second.bodies tag

/-- There is no verbatim part, no element of the tag stands in another one, and none closes
itself. -/
def Separate (tag : Tag) : Markup → Prop
  | empty | text _ | bullet => True
  | element other _ body => (other = tag → body.Uses (· != tag)) ∧ body.Separate tag
  | leaf other _ => other ≠ tag
  | append first second => first.Separate tag ∧ second.Separate tag
  | verbatim _ => False

section

variable {tag other : Tag} {attributes : List (Attribute × String)} {body first second : Markup}

@[simp] theorem bodies_text (s : String) : (text s).bodies tag = [] := rfl

@[simp] theorem bodies_append :
    (first ++ second).bodies tag = first.bodies tag ++ second.bodies tag := rfl

@[simp] theorem bodies_plain : (plain other body).bodies tag =
    (if other = tag then [body] else []) ++ body.bodies tag := rfl

@[simp] theorem bodies_styled {styleClass : String} : (styled other styleClass body).bodies tag =
    (if other = tag then [body] else []) ++ body.bodies tag := rfl

@[simp] theorem bodies_concat {pieces : List Markup} :
    (concat pieces).bodies tag = pieces.flatMap (bodies tag) := by
  induction pieces with
  | nil => rfl
  | cons piece pieces ih =>
    rw [List.flatMap_cons, ← ih]
    rfl

@[simp] theorem separate_text (s : String) : (text s).Separate tag := trivial

@[simp] theorem separate_append :
    (first ++ second).Separate tag ↔ first.Separate tag ∧ second.Separate tag := Iff.rfl

@[simp] theorem separate_plain : (plain other body).Separate tag ↔
    (other = tag → body.Uses (· != tag)) ∧ body.Separate tag := Iff.rfl

@[simp] theorem separate_styled {styleClass : String} :
    (styled other styleClass body).Separate tag ↔
      (other = tag → body.Uses (· != tag)) ∧ body.Separate tag := Iff.rfl

@[simp] theorem separate_concat {pieces : List Markup} :
    (concat pieces).Separate tag ↔ ∀ piece ∈ pieces, piece.Separate tag := by
  induction pieces with
  | nil => simp [concat, Separate]
  | cons piece pieces ih =>
    rw [List.forall_mem_cons, ← ih]
    rfl

/-- Markup of other elements has none of the tag. -/
theorem Uses.separate {m : Markup} {p : Tag → Bool} (h : m.Uses p) (htag : p tag = false) :
    m.Separate tag ∧ m.bodies tag = [] := by
  induction m with
  | empty | text | bullet => exact ⟨trivial, rfl⟩
  | element other attributes body ih =>
    have hne : other ≠ tag := fun heq => Bool.eq_false_iff.1 htag (heq ▸ h.1)
    obtain ⟨hseparate, hbodies⟩ := ih h.2
    exact ⟨⟨fun heq => absurd heq hne, hseparate⟩, by rw [bodies, if_neg hne, hbodies]; rfl⟩
  | leaf other attributes => exact ⟨fun heq => Bool.eq_false_iff.1 htag (heq ▸ h), rfl⟩
  | append first second ihFirst ihSecond =>
    obtain ⟨hfirst, hfirst'⟩ := ihFirst h.1
    obtain ⟨hsecond, hsecond'⟩ := ihSecond h.2
    exact ⟨⟨hfirst, hsecond⟩, by rw [bodies, hfirst', hsecond']; rfl⟩
  | verbatim s => exact h.elim

end

/-! ## Reading what was rendered -/

/-- The body of an element is read up to the end of the element. -/
theorem Uses.upTo_render {tag : Tag} {body : Markup} (h : body.Uses (· != tag))
    (rest : List Char) :
    upTo (endTag tag.name.toList) (body.render.toList ++ (endTag tag.name.toList ++ rest)) =
      body.render.toList := by
  refine upTo_append tag.isInert_name.not_gt h.isClosed ?_ rest
  rw [h.readTags_render]
  have hnone := h.forall_tags (q := (· == '/' :: tag.name.toList)) ?_ ?_
  · exact fun hmem => by simpa using hnone _ hmem
  · intro other _ rest
    obtain ⟨c, cs, hchars⟩ := List.exists_cons_of_ne_nil other.name_ne_nil
    have hname : isNameChar c :=
      List.all_eq_true.1 other.all_isNameChar c (hchars ▸ List.mem_cons_self ..)
    have hslash : c ≠ '/' := by
      rintro rfl
      cases hname
    simp [hchars, hslash]
  · intro other hother
    have hne : other.name.toList ≠ tag.name.toList := fun heq => by
      simp [Tag.name_injective heq] at hother
    simpa using hne

/-- Where tags of one name do not stand inside each other, the bodies are read back in front of any
text. -/
theorem Separate.readBodies_render_append {tag : Tag} {m : Markup} (h : m.Separate tag)
    (rest : List Char) :
    readBodies tag.name.toList (m.render.toList ++ rest) =
      (m.bodies tag).map (fun body => body.render.toList) ++ readBodies tag.name.toList rest := by
  induction m generalizing rest with
  | empty => rfl
  | text s => exact readBodies_append_of_not_mem (isInert_escape s).isTagFree _ rest
  | bullet => exact readBodies_append_of_not_mem (by decide) _ rest
  | element other attributes body ih =>
    have hrender : (element other attributes body).render.toList ++ rest =
        '<' :: (other.name.toList ++ attributes.flatMap attributeChars ++
          '>' :: (body.render.toList ++ (endTag other.name.toList ++ rest))) := by
      rw [← toList_name_attributes]
      simp [render, endTag]
    rw [hrender, bodies]
    by_cases hother : other = tag
    · subst hother
      rw [readBodies_self, (h.1 rfl).upTo_render, ih h.2, readBodies_endTag, if_pos rfl]
      rfl
    · rw [readBodies_of_ne _ _ _ _ hother (.inl rfl), ih h.2, readBodies_endTag, if_neg hother]
      rfl
  | leaf other attributes =>
    have hrender : (leaf other attributes).render.toList ++ rest =
        '<' :: (other.name.toList ++ attributes.flatMap attributeChars ++ '/' :: '>' :: rest) := by
      rw [← toList_name_attributes]
      simp [render]
    rw [hrender, readBodies_of_ne _ _ _ _ h (.inr rfl), readBodies, if_neg (by simp)]
    rfl
  | append first second ihFirst ihSecond =>
    rw [render, String.toList_append, List.append_assoc, ihFirst h.1, ihSecond h.2, bodies,
      List.map_append, List.append_assoc]
  | verbatim s => exact h.elim

/-- **Reading elements back.** -/
theorem Separate.readElements_render {tag : Tag} {m : Markup} (h : m.Separate tag) :
    readElements tag.name m.render = (m.bodies tag).map render := by
  have hread := h.readBodies_render_append []
  rw [List.append_nil, readBodies, List.append_nil] at hread
  rw [readElements, hread, List.map_map]
  exact List.map_congr_left fun body _ => String.ofList_toList

end Markup

end DiagnosticReport
