import DiagnosticReport.Text.Case
import Mathlib.Data.List.Infix

/-!
# Reading tags

`readTags` reads off what stands between each `<` of a text and the next `>`, and `occurrences`
counts the places at which a text stands in another. A text that starts with `<` occurs as often as
there are tags that go on like it, so occurrences in a document are counted tag by tag
(`occurrences_opening`, `occurrences_tag`).
-/

namespace DiagnosticReport

/-! ## Texts without tags -/

/-- No tag begins in the text. -/
def IsTagFree (s : String) : Prop :=
  '<' ∉ s.toList

-- The bytes of a text are at hand, its characters have to be decoded.
theorem isTagFree_of_bytes {s : String} (h : 60 ∉ s.toByteArray.data.toList) : IsTagFree s := by
  intro hmem
  have hbyte : 60 ∈ s.toList.flatMap String.utf8EncodeChar :=
    List.mem_flatMap.2 ⟨'<', hmem, by decide⟩
  rw [← String.utf8Encode_toList, List.utf8Encode] at h
  exact h (by simpa using hbyte)

instance (s : String) : Decidable (IsTagFree s) :=
  if h : 60 ∉ s.toByteArray.data.toList then .isTrue (isTagFree_of_bytes h)
  else inferInstanceAs (Decidable ('<' ∉ s.toList))

@[simp] theorem isTagFree_append {s t : String} :
    IsTagFree (s ++ t) ↔ IsTagFree s ∧ IsTagFree t := by
  simp [IsTagFree]

@[simp] theorem isTagFree_join {texts : List String} :
    IsTagFree (String.join texts) ↔ ∀ s ∈ texts, IsTagFree s := by
  simp [IsTagFree, String.toList_join]

theorem isTagFree_intercalate {between : String} {texts : List String}
    (hbetween : IsTagFree between) (htexts : ∀ s ∈ texts, IsTagFree s) :
    IsTagFree (between.intercalate texts) := by
  induction texts with
  | nil => rw [String.intercalate_nil]; decide
  | cons s texts ih =>
    obtain ⟨hs, htexts⟩ := List.forall_mem_cons.1 htexts
    cases texts with
    | nil => simpa using hs
    | cons t texts =>
      rw [String.intercalate_cons_cons]
      simp only [isTagFree_append]
      exact ⟨⟨hs, hbetween⟩, ih htexts⟩

/-! ## Tags -/

/-- What stands between each `<` of a text and the next `>`. -/
def readTags : List Char → List (List Char)
  | [] => []
  | c :: cs => if c = '<' then cs.takeWhile (· != '>') :: readTags cs else readTags cs

/-- Texts between tags are passed over. -/
theorem readTags_append_of_not_mem {cs : List Char} (h : '<' ∉ cs) (rest : List Char) :
    readTags (cs ++ rest) = readTags rest := by
  induction cs with
  | nil => rfl
  | cons c cs ih =>
    rw [List.cons_append, readTags, if_neg (Ne.symm (List.ne_of_not_mem_cons h)),
      ih (List.not_mem_of_not_mem_cons h)]

/-- A tag is read up to its end. -/
theorem readTags_tag {cs : List Char} (h : '<' ∉ cs) (h' : '>' ∉ cs) (rest : List Char) :
    readTags ('<' :: (cs ++ '>' :: rest)) = cs :: readTags rest := by
  have htag : (cs ++ '>' :: rest).takeWhile (· != '>') = cs := by
    rw [List.takeWhile_append_of_pos fun c hc => ?_]
    · simp
    · simpa using fun e : c = '>' => h' (e ▸ hc)
  have hrest : readTags (cs ++ '>' :: rest) = readTags rest := by
    rw [readTags_append_of_not_mem h, readTags, if_neg (by decide)]
  rw [readTags, if_pos rfl, htag, hrest]

/-- Every tag that begins in the text ends in it, so what follows is read on its own. -/
def IsClosed (cs : List Char) : Prop :=
  ∀ rest, readTags (cs ++ rest) = readTags cs ++ readTags rest

/-- A text without tags reads as none. -/
theorem IsTagFree.readTags_eq {s : String} (h : IsTagFree s) : readTags s.toList = [] := by
  have hread := readTags_append_of_not_mem h []
  rwa [List.append_nil, readTags] at hread

theorem IsTagFree.isClosed {s : String} (h : IsTagFree s) : IsClosed s.toList := by
  intro rest
  rw [readTags_append_of_not_mem h, h.readTags_eq, List.nil_append]

/-- Closed texts in a row are closed. -/
theorem IsClosed.append {cs ds : List Char} (hcs : IsClosed cs) (hds : IsClosed ds) :
    IsClosed (cs ++ ds) := by
  intro rest
  rw [List.append_assoc, hcs, hds, hcs, List.append_assoc]

/-- The tags of closed texts in a row are read text by text. -/
theorem IsClosed.flatMap {α : Type} {f : α → List Char} {l : List α}
    (h : ∀ a ∈ l, IsClosed (f a)) :
    IsClosed (l.flatMap f) ∧ readTags (l.flatMap f) = l.flatMap fun a => readTags (f a) := by
  induction l with
  | nil => exact ⟨fun rest => rfl, rfl⟩
  | cons a l ih =>
    obtain ⟨ha, hl⟩ := List.forall_mem_cons.1 h
    obtain ⟨ihClosed, ihTags⟩ := ih hl
    exact ⟨ha.append ihClosed, by rw [List.flatMap_cons, ha, ihTags, List.flatMap_cons]⟩

theorem takeWhile_append_of_mem {cs : List Char} (h : '>' ∈ cs) (rest : List Char) :
    (cs ++ rest).takeWhile (· != '>') = cs.takeWhile (· != '>') := by
  induction cs with
  | nil => cases h
  | cons c cs ih =>
    rw [List.cons_append, List.takeWhile_cons, List.takeWhile_cons]
    by_cases hc : c = '>'
    · simp [hc]
    · rw [ih (List.mem_of_ne_of_mem (Ne.symm hc) h)]

theorem mem_of_takeWhile_append {cs : List Char}
    (h : (cs ++ ['<']).takeWhile (· != '>') = cs.takeWhile (· != '>')) : '>' ∈ cs := by
  induction cs with
  | nil => exact absurd h (by decide)
  | cons c cs ih =>
    rw [List.cons_append, List.takeWhile_cons, List.takeWhile_cons] at h
    by_cases hc : c = '>'
    · simp [hc]
    · simp only [bne_iff_ne, ne_eq, hc, not_false_eq_true, if_true, List.cons.injEq] at h
      exact List.mem_cons_of_mem c (ih h.2)

/-- One more `<` after a text is read as a tag of its own. -/
def KeepsMarker (cs : List Char) : Prop :=
  readTags (cs ++ ['<']) = readTags cs ++ [[]]

instance (cs : List Char) : Decidable (KeepsMarker cs) :=
  inferInstanceAs (Decidable (_ = _))

theorem KeepsMarker.of_cons {c : Char} {cs : List Char} (h : KeepsMarker (c :: cs)) :
    (c = '<' → '>' ∈ cs) ∧ KeepsMarker cs := by
  unfold KeepsMarker at h ⊢
  rw [List.cons_append, readTags, readTags] at h
  by_cases hc : c = '<'
  · simp only [hc, if_true, List.cons_append, List.cons.injEq] at h
    exact ⟨fun _ => mem_of_takeWhile_append h.1, h.2⟩
  · simp only [hc, if_false] at h
    exact ⟨fun e => absurd e hc, h⟩

-- A tag that is left open would run on into the marker.
/-- A text that keeps its markers is closed. -/
theorem KeepsMarker.isClosed {cs : List Char} (h : KeepsMarker cs) : IsClosed cs := by
  induction cs with
  | nil => exact fun _ => rfl
  | cons c cs ih =>
    intro rest
    obtain ⟨hmem, hcs⟩ := h.of_cons
    rw [List.cons_append, readTags, readTags, ih hcs]
    by_cases hc : c = '<'
    · simp only [hc, if_true, takeWhile_append_of_mem (hmem hc), List.cons_append]
    · simp only [hc, if_false]

theorem IsClosed.of_cons {c : Char} {cs : List Char} (h : IsClosed (c :: cs)) :
    (c = '<' → '>' ∈ cs) ∧ IsClosed cs := by
  have hmarker : KeepsMarker (c :: cs) := h ['<']
  exact ⟨hmarker.of_cons.1, hmarker.of_cons.2.isClosed⟩

/-- Lower-casing makes no brackets. -/
theorem toLower_eq_bracket_iff {c d : Char} (hd : d = '<' ∨ d = '>') : c.toLower = d ↔ c = d := by
  unfold Char.toLower
  split
  · next h =>
    -- a capital is neither a bracket nor turned into one
    have hval : 65 ≤ c.toNat ∧ c.toNat ≤ 90 := by
      simpa [UInt32.le_iff_toNat_le] using h
    constructor
    · intro e
      have := congrArg (fun x : Char => x.val.toNat) e
      rcases hd with rfl | rfl <;> simp at this <;> omega
    · rintro rfl
      rcases hd with rfl | rfl <;> simp at hval
  · exact Iff.rfl

/-- Tags keep their places when a text is put into lower case. -/
theorem readTags_map_toLower (cs : List Char) :
    readTags (cs.map Char.toLower) = (readTags cs).map (List.map Char.toLower) := by
  have hclose : (fun c => c != '>') ∘ Char.toLower = fun c => c != '>' := by
    funext c
    simp [bne, beq_eq_decide, toLower_eq_bracket_iff (.inr rfl)]
  induction cs with
  | nil => rfl
  | cons c cs ih =>
    simp only [List.map_cons, readTags, toLower_eq_bracket_iff (.inl rfl), ih]
    split
    · rw [List.takeWhile_map, hclose, List.map_cons]
    · rfl

/-! ## Occurrences -/

/-- The number of places at which a text stands in another one. -/
def occurrences (needle text : String) : Nat :=
  text.toList.tails.countP needle.toList.isPrefixOf

/-- A needle without an end marker is found in front of the next one or not at all. -/
theorem isPrefixOf_takeWhile {needle : List Char} (h : '>' ∉ needle) (cs : List Char) :
    needle.isPrefixOf (cs.takeWhile (· != '>')) = needle.isPrefixOf cs := by
  induction needle generalizing cs with
  | nil => simp
  | cons n ns ih =>
    cases cs with
    | nil => rfl
    | cons c cs =>
      rw [List.takeWhile_cons, List.isPrefixOf_cons_cons]
      by_cases hc : c = '>'
      · have hn : n ≠ '>' := (List.ne_of_not_mem_cons h).symm
        simp [hc, hn]
      · rw [if_pos (by simpa using hc), List.isPrefixOf_cons_cons,
          ih (List.not_mem_of_not_mem_cons h)]

/-- A tag reads as the given text exactly if the text stands there with a `>` after it. -/
theorem isPrefixOf_append_close {needle cs : List Char} (h : '>' ∉ needle) (hcs : '>' ∈ cs) :
    (needle ++ ['>']).isPrefixOf cs = (cs.takeWhile (· != '>') == needle) := by
  induction cs generalizing needle with
  | nil => cases hcs
  | cons c cs ih =>
    cases needle with
    | nil =>
      rw [List.nil_append, List.isPrefixOf_cons_cons, List.takeWhile_cons]
      by_cases hc : c = '>'
      · simp [hc]
      · simp [hc, Ne.symm hc]
    | cons n ns =>
      rw [List.cons_append, List.isPrefixOf_cons_cons, List.takeWhile_cons]
      by_cases hc : c = '>'
      · simp [hc, (List.ne_of_not_mem_cons h).symm]
      · have hmem := List.mem_of_ne_of_mem (Ne.symm hc) hcs
        rw [if_pos (by simpa using hc), ih (List.not_mem_of_not_mem_cons h) hmem,
          List.cons_beq_cons, BEq.comm]

/-- A text that opens a tag occurs once for each tag that goes on like it. -/
theorem occurrences_opening {needle : String} (h : '>' ∉ needle.toList) (text : String) :
    occurrences ("<" ++ needle) text = (readTags text.toList).countP needle.toList.isPrefixOf := by
  unfold occurrences
  rw [show ("<" ++ needle).toList = '<' :: needle.toList by simp]
  induction text.toList with
  | nil => rfl
  | cons c cs ih =>
    rw [List.tails_cons, List.countP_cons, ih, readTags]
    by_cases hc : c = '<'
    · simp [hc, List.countP_cons, isPrefixOf_takeWhile h]
    · simp [hc, Ne.symm hc]

/-- A whole tag occurs once for each tag that reads like it. -/
theorem occurrences_tag {needle text : String} (h : '>' ∉ needle.toList)
    (htext : IsClosed text.toList) :
    occurrences ("<" ++ needle ++ ">") text =
      (readTags text.toList).countP (· == needle.toList) := by
  unfold occurrences
  rw [show ("<" ++ needle ++ ">").toList = '<' :: (needle.toList ++ ['>']) by simp]
  revert htext
  induction text.toList with
  | nil => exact fun _ => rfl
  | cons c cs ih =>
    intro htext
    obtain ⟨hmem, hcs⟩ := htext.of_cons
    rw [List.tails_cons, List.countP_cons, ih hcs, readTags]
    by_cases hc : c = '<'
    · simp [hc, List.countP_cons, isPrefixOf_append_close h (hmem hc)]
    · simp [hc, Ne.symm hc]

end DiagnosticReport
