import DiagnosticReport.Proofs.Markup.Bodies
import DiagnosticReport.Proofs.Markup.Rendering
import DiagnosticReport.Proofs.Visual.Attributes
import DiagnosticReport.Visual.Prose
import Mathlib.Data.List.TakeWhile

/-!
# Paragraphs

A text falls into paragraphs at pairs of line breaks. Between two texts that are put together with
such a pair, a line break at the end of the first one shifts the pairs in the second one, but what
is shifted is blank and is trimmed or dropped: the paragraphs of the whole are those of the one and
then those of the other. So the prose items of a section keep their paragraphs to themselves.
-/

namespace DiagnosticReport

/-! ## Blanks at the ends -/

namespace Text

/-- A blank in front is trimmed. -/
theorem trimChars_cons {c : Char} (hc : isBlank c) (cs : List Char) :
    trimChars (c :: cs) = trimChars cs := by
  rw [trimChars, trimChars, List.dropWhile_cons_of_pos hc]

/-- A blank at the end is trimmed. -/
theorem trimChars_concat {c : Char} (hc : isBlank c) (cs : List Char) :
    trimChars (cs ++ [c]) = trimChars cs := by
  rw [trimChars, trimChars, List.dropWhile_append]
  split
  · next h => rw [List.isEmpty_iff.1 h, List.dropWhile_cons_of_pos hc, List.dropWhile_nil]
  · rw [List.reverse_append, List.reverse_singleton, List.singleton_append,
      List.dropWhile_cons_of_pos hc]

/-- Trimming leaves nothing of blanks, and something of everything else. -/
theorem trimChars_eq_nil_iff {cs : List Char} : trimChars cs = [] ↔ ∀ c ∈ cs, isBlank c := by
  rw [trimChars, List.reverse_eq_nil_iff, List.dropWhile_eq_nil_iff]
  simp only [List.mem_reverse]
  constructor
  · intro h
    by_contra hnot
    -- what is left starts with a character that is not blank
    have hne : cs.dropWhile isBlank ≠ [] := mt List.dropWhile_eq_nil_iff.1 hnot
    have hhead := List.head_dropWhile_not isBlank hne
    rw [h _ (List.head_mem hne)] at hhead
    cases hhead
  · intro h c hc
    exact h c ((List.dropWhile_sublist isBlank).subset hc)

end Text

namespace Visual

/-! ## Pieces -/

/-- There is always a piece, if only an empty one. -/
theorem splitAtBlankLines_ne_nil (cs : List Char) : splitAtBlankLines cs ≠ [] := by
  unfold splitAtBlankLines
  split
  · exact List.cons_ne_nil _ _
  · exact List.cons_ne_nil _ _
  · split <;> exact List.cons_ne_nil _ _

/-- A character that begins no blank line belongs to the first piece. -/
theorem splitAtBlankLines_cons {c : Char} {cs : List Char} (h : c = '\n' → cs.head? ≠ some '\n') :
    splitAtBlankLines (c :: cs) = (splitAtBlankLines cs).modifyHead (c :: ·) := by
  rw [splitAtBlankLines]
  · split
    · next heq => rw [heq, List.modifyHead_cons]
    · next heq => exact absurd heq (splitAtBlankLines_ne_nil cs)
  · rintro rest rfl rfl
    exact h rfl rfl

/-- A text is read by pairs of line breaks and single characters that begin none. -/
@[elab_as_elim]
theorem split_induction {motive : List Char → Prop} (nil : motive [])
    (pair : ∀ rest, motive rest → motive ('\n' :: '\n' :: rest))
    (single : ∀ c rest, (c = '\n' → rest.head? ≠ some '\n') → motive rest → motive (c :: rest))
    (cs : List Char) : motive cs := by
  have hhead {c : Char} {rest : List Char}
      (hne : ∀ tail, c = '\n' → rest = '\n' :: tail → False) (hc : c = '\n') :
      rest.head? ≠ some '\n' := by
    intro hhead
    obtain ⟨tail, htail⟩ := List.head?_eq_some_iff.1 hhead
    exact hne tail hc htail
  induction cs using splitAtBlankLines.induct with
  | case1 => exact nil
  | case2 rest ih => exact pair rest ih
  | case3 c rest hne _ _ _ ih => exact single c rest (hhead hne) ih
  | case4 c rest hne _ ih => exact single c rest (hhead hne) ih

/-- But for line breaks, the pieces have the characters of the text. -/
theorem forall_mem_split {p : Char → Prop} (hp : p '\n') (cs : List Char) :
    (∀ piece ∈ splitAtBlankLines cs, ∀ c ∈ piece, p c) ↔ ∀ c ∈ cs, p c := by
  induction cs using split_induction with
  | nil => simp [splitAtBlankLines]
  | pair rest ih => simp [splitAtBlankLines, ih, hp]
  | single c rest hc ih =>
    obtain ⟨first, others, hsplit⟩ :=
      List.exists_cons_of_ne_nil (splitAtBlankLines_ne_nil rest)
    rw [splitAtBlankLines_cons hc, List.forall_mem_cons, ← ih, hsplit]
    simp [and_assoc]

theorem modifyHead_nil_append (pieces : List (List Char)) :
    pieces.modifyHead ([] ++ ·) = pieces := by
  cases pieces <;> rfl

/-- The pieces that are left of a text when they are trimmed. -/
def kept (pieces : List (List Char)) : List (List Char) :=
  (pieces.map Text.trimChars).filter fun cs => !cs.isEmpty

/-- Whether a piece is kept does not depend on the others. -/
theorem kept_cons (piece : List Char) (pieces : List (List Char)) :
    kept (piece :: pieces) = kept [piece] ++ kept pieces := by
  rw [kept, ← List.singleton_append, List.map_append, List.filter_append]
  rfl

/-- Blanks at the ends of a piece make no difference to what is kept. -/
theorem kept_congr {piece other : List Char} (h : Text.trimChars piece = Text.trimChars other)
    (pieces : List (List Char)) : kept (piece :: pieces) = kept (other :: pieces) := by
  rw [kept, kept, List.map_cons, List.map_cons, h]

/-- A line break in front of a text may change the pairs in it, but no paragraph. -/
theorem kept_split_cons_newline (cs : List Char) :
    kept (splitAtBlankLines ('\n' :: cs)) = kept (splitAtBlankLines cs) := by
  induction cs with
  | nil => decide
  | cons c cs ih =>
    by_cases hc : c = '\n'
    · subst hc
      exact ih.symm
    · obtain ⟨first, others, hsplit⟩ :=
        List.exists_cons_of_ne_nil (splitAtBlankLines_ne_nil (c :: cs))
      rw [splitAtBlankLines_cons (by simpa using hc), hsplit, List.modifyHead_cons]
      exact kept_congr (Text.trimChars_cons (by decide) first) others

/-- The paragraphs of two texts with a pair of line breaks between them; the first one goes on
after characters that were read before. -/
theorem kept_split_append (ds cs before : List Char) :
    kept ((splitAtBlankLines (cs ++ '\n' :: '\n' :: ds)).modifyHead (before ++ ·)) =
      kept ((splitAtBlankLines cs).modifyHead (before ++ ·)) ++ kept (splitAtBlankLines ds) := by
  induction cs using split_induction generalizing before with
  | nil => exact kept_cons _ _
  | pair rest ih =>
    have hrest := ih []
    rw [modifyHead_nil_append, modifyHead_nil_append] at hrest
    rw [List.cons_append, List.cons_append, splitAtBlankLines, splitAtBlankLines,
      List.modifyHead_cons, List.modifyHead_cons, kept_cons _ (splitAtBlankLines (rest ++ _)),
      hrest, kept_cons _ (splitAtBlankLines rest), List.append_assoc]
  | single c rest hc ih =>
    by_cases hlast : c = '\n' ∧ rest = []
    · -- the line break makes a pair with the first one that follows
      obtain ⟨rfl, rfl⟩ := hlast
      show kept ((before ++ []) :: splitAtBlankLines ('\n' :: ds)) = kept [before ++ ['\n']] ++ _
      rw [kept_cons, kept_split_cons_newline, List.append_nil,
        kept_congr (Text.trimChars_concat (by decide) before)]
    · have hc' : c = '\n' → (rest ++ '\n' :: '\n' :: ds).head? ≠ some '\n' := by
        intro heq
        obtain ⟨d, tail, rfl⟩ := List.exists_cons_of_ne_nil fun hnil => hlast ⟨heq, hnil⟩
        exact hc heq
      have hpush : (fun x : List Char => before ++ x) ∘ (fun x => c :: x) =
          fun x => (before ++ [c]) ++ x := by
        funext x
        simp
      rw [List.cons_append, splitAtBlankLines_cons hc', splitAtBlankLines_cons hc,
        List.modifyHead_modifyHead, List.modifyHead_modifyHead, hpush]
      exact ih (before ++ [c])

/-! ## Texts -/

/-- **A blank line ends a paragraph**, whatever stands on both sides of it. -/
theorem paragraphTexts_append (a b : String) :
    paragraphTexts (a ++ "\n\n" ++ b) = paragraphTexts a ++ paragraphTexts b := by
  have hsplit := kept_split_append b.toList a.toList []
  rw [modifyHead_nil_append, modifyHead_nil_append] at hsplit
  have htext : (a ++ "\n\n" ++ b).toList = a.toList ++ '\n' :: '\n' :: b.toList := by
    simp
  show (kept (splitAtBlankLines (a ++ "\n\n" ++ b).toList)).map String.ofList = _
  rw [htext, hsplit, List.map_append]
  rfl

/-- Only a blank text has no paragraphs. -/
theorem paragraphTexts_eq_nil_iff (text : String) :
    paragraphTexts text = [] ↔ Text.isAllBlank text := by
  have hpieces (pieces : List (List Char)) :
      kept pieces = [] ↔ ∀ piece ∈ pieces, ∀ c ∈ piece, Text.isBlank c := by
    simp [kept, List.filter_eq_nil_iff, Text.trimChars_eq_nil_iff]
  rw [Text.isAllBlank, List.all_eq_true, ← forall_mem_split (by decide), ← hpieces]
  exact List.map_eq_nil_iff

/-- Texts with blank lines between them have the paragraphs of each. -/
theorem paragraphTexts_intercalate (texts : List String) :
    paragraphTexts ("\n\n".intercalate texts) = texts.flatMap paragraphTexts := by
  induction texts with
  | nil => decide
  | cons text texts ih =>
    cases texts with
    | nil => simp
    | cons next texts =>
      rw [String.intercalate_cons_cons, paragraphTexts_append, ih]
      rfl

/-- Blank texts have no paragraphs, so they can be left out. -/
theorem flatMap_filter_not_blank (texts : List String) :
    (texts.filter fun text => !Text.isAllBlank text).flatMap paragraphTexts =
      texts.flatMap paragraphTexts := by
  induction texts with
  | nil => rfl
  | cons text texts ih =>
    rw [List.filter_cons, List.flatMap_cons]
    by_cases hblank : Text.isAllBlank text
    · rw [if_neg (by simp [hblank]), (paragraphTexts_eq_nil_iff text).2 hblank, ih]
      rfl
    · rw [if_pos (by simp [hblank]), List.flatMap_cons, ih]

/-- The proses of all items of a section, blank ones included. -/
def proses (bindings : Bindings) (s : Section) : List String :=
  (Item.all s bindings.primary?).map (Item.prose s)

/-- A section with a prose item shows the paragraphs of its items. -/
theorem paragraphTexts_sectionText {bindings : Bindings} {s : Section}
    (h : ∃ text ∈ proses bindings s, ¬ Text.isAllBlank text) :
    paragraphTexts (sectionText bindings s) = (proses bindings s).flatMap paragraphTexts ∧
      ¬ Text.isAllBlank (sectionText bindings s) := by
  obtain ⟨text, htext, hblank⟩ := h
  have hne : (proses bindings s).filter (fun text => !Text.isAllBlank text) ≠ [] :=
    List.ne_nil_of_mem (List.mem_filter.2 ⟨htext, by simpa using hblank⟩)
  have hsection : paragraphTexts (sectionText bindings s) =
      (proses bindings s).flatMap paragraphTexts := by
    rw [sectionText, ← proses]
    simp only [List.isEmpty_iff, if_neg hne]
    rw [paragraphTexts_intercalate, flatMap_filter_not_blank]
  refine ⟨hsection, ?_⟩
  rw [← paragraphTexts_eq_nil_iff, hsection, List.flatMap_eq_nil_iff]
  exact fun hnone => hblank ((paragraphTexts_eq_nil_iff text).1 (hnone text htext))

/-! ## Drawings -/

/-- The text of paragraphs, as it stands in a drawing. -/
def paragraphsText (texts : List String) : String :=
  String.join (texts.map fun text => "<p>" ++ Text.escape text ++ "</p>")

theorem render_paragraphs (text : String) :
    (paragraphs text).render = paragraphsText (paragraphTexts text) := by
  have hopen : "<" ++ Tag.p.name ++ ">" = "<p>" := by decide
  have hclose : "</" ++ Tag.p.name ++ ">" = "</p>" := by decide
  rw [paragraphs, Markup.render_concat, List.map_map, paragraphsText]
  refine congrArg String.join (List.map_congr_left fun text _ => ?_)
  rw [Function.comp_apply, Markup.render_plain, hopen, hclose, Markup.render_text]

theorem paragraphsText_append (texts others : List String) :
    paragraphsText (texts ++ others) = paragraphsText texts ++ paragraphsText others := by
  rw [paragraphsText, List.map_append, String.join_append]
  rfl

/-- The paragraphs of texts are drawn text by text. -/
theorem paragraphsText_flatMap (texts : List String) :
    paragraphsText (texts.flatMap paragraphTexts) =
      String.join (texts.map fun text => (paragraphs text).render) := by
  induction texts with
  | nil => rfl
  | cons text texts ih =>
    rw [List.flatMap_cons, List.map_cons, String.join_cons, ← ih, render_paragraphs,
      paragraphsText_append]

/-- The paragraphs of a text are elements of their own, one for each. -/
theorem bodies_paragraphs (text : String) :
    (paragraphs text).bodies .p = (paragraphTexts text).map .text := by
  rw [paragraphs, Markup.bodies_concat, List.flatMap_map, List.map_eq_flatMap]
  rfl

theorem separate_paragraphs (text : String) : (paragraphs text).Separate .p := by
  simp [paragraphs]

section

variable {bindings : Bindings} {s : Section}
  (h : ∃ text ∈ proses bindings s, ¬ Text.isAllBlank text) (options : RenderOptions)

/-- The heading of a callout. -/
def calloutHeading (s : Section) : Markup :=
  .optional ((s.textOption? "heading").map fun heading =>
    .styled .div "callout-heading" (.text heading))

theorem render_calloutHeading (s : Section) :
    (calloutHeading s).render = ((s.textOption? "heading").map fun heading =>
      "<div class=\"callout-heading\">" ++ Text.escape heading ++ "</div>").getD "" := by
  have hopen : "<" ++ Tag.div.name ++ " class=\"" ++ Text.escape "callout-heading" ++ "\">" =
      "<div class=\"callout-heading\">" := by decide
  rw [calloutHeading]
  cases s.textOption? "heading" with
  | none => rfl
  | some heading =>
    rw [Option.map_some, Markup.optional, Markup.render_styled, hopen]
    rfl

theorem separate_calloutHeading (s : Section) :
    (calloutHeading s).Separate .p ∧ (calloutHeading s).bodies .p = [] := by
  rw [calloutHeading]
  cases s.textOption? "heading" with
  | none => exact ⟨trivial, rfl⟩
  | some heading => simp [Markup.optional]

include h

theorem drawTextBlock_eq :
    drawTextBlock bindings s options =
      .styled .div "text-block" (paragraphs (sectionText bindings s)) :=
  if_neg (paragraphTexts_sectionText h).2

theorem drawCalloutBox_eq :
    drawCalloutBox bindings s options =
      .styled .aside ("callout callout-" ++ calloutVariant s)
        (calloutHeading s ++ paragraphs (sectionText bindings s)) :=
  if_neg (paragraphTexts_sectionText h).2

/-- The prose of a section is drawn item by item. -/
theorem render_sectionText :
    (paragraphs (sectionText bindings s)).render =
      String.join ((proses bindings s).map fun text => (paragraphs text).render) := by
  rw [render_paragraphs, (paragraphTexts_sectionText h).1, paragraphsText_flatMap]

/-- A text block is its prose, item by item. -/
theorem render_drawTextBlock :
    (drawTextBlock bindings s options).render =
      "<div class=\"text-block\">" ++
        String.join ((proses bindings s).map fun text => (paragraphs text).render) ++ "</div>" := by
  have hopen : "<" ++ Tag.div.name ++ " class=\"" ++ Text.escape "text-block" ++ "\">" =
      "<div class=\"text-block\">" := by decide
  have hclose : "</" ++ Tag.div.name ++ ">" = "</div>" := by decide
  rw [drawTextBlock_eq h, Markup.render_styled, hopen, hclose, render_sectionText h]

/-- A callout is its heading, if there is one, and its prose, item by item. -/
theorem render_drawCalloutBox :
    (drawCalloutBox bindings s options).render =
      "<aside class=\"callout callout-" ++ calloutVariant s ++ "\">" ++
        ((s.textOption? "heading").map fun heading =>
          "<div class=\"callout-heading\">" ++ Text.escape heading ++ "</div>").getD "" ++
        String.join ((proses bindings s).map fun text => (paragraphs text).render) ++
        "</aside>" := by
  have hvariant : Text.IsPlain ("callout callout-" ++ calloutVariant s) :=
    .append (by decide) (isPlain_calloutVariant s)
  have hopen : "<" ++ Tag.aside.name ++ " class=\"" ++ ("callout callout-" ++ calloutVariant s) =
      "<aside class=\"callout callout-" ++ calloutVariant s := by
    rw [← String.append_assoc]
    exact congrArg (· ++ calloutVariant s) (by decide)
  have hclose : "</" ++ Tag.aside.name ++ ">" = "</aside>" := by decide
  rw [drawCalloutBox_eq h, Markup.render_styled, hvariant.escape_eq, hopen, hclose,
    Markup.render_append, render_calloutHeading, render_sectionText h, ← String.append_assoc]

/-- The paragraphs of a section are those of its items, in their order. -/
theorem bodies_sectionText :
    ((paragraphs (sectionText bindings s)).bodies .p).map Markup.render =
      (proses bindings s).flatMap fun text => (paragraphTexts text).map Text.escape := by
  rw [bodies_paragraphs, (paragraphTexts_sectionText h).1, List.map_map, List.map_flatMap]
  rfl

/-- From the text of a text block, the paragraphs of its items are read back. -/
theorem readElements_drawTextBlock :
    readElements "p" (drawTextBlock bindings s options).render =
      (proses bindings s).flatMap fun text => (paragraphTexts text).map Text.escape := by
  have hseparate : (drawTextBlock bindings s options).Separate .p := by
    rw [drawTextBlock_eq h]
    simp [separate_paragraphs]
  rw [show "p" = Tag.p.name from rfl, hseparate.readElements_render, drawTextBlock_eq h,
    Markup.bodies_styled, if_neg (by decide), List.nil_append, bodies_sectionText h]

/-- From the text of a callout, the paragraphs of its items are read back. -/
theorem readElements_drawCalloutBox :
    readElements "p" (drawCalloutBox bindings s options).render =
      (proses bindings s).flatMap fun text => (paragraphTexts text).map Text.escape := by
  obtain ⟨hheading, hbodies⟩ := separate_calloutHeading s
  have hseparate : (drawCalloutBox bindings s options).Separate .p := by
    rw [drawCalloutBox_eq h]
    simp [separate_paragraphs, hheading]
  rw [show "p" = Tag.p.name from rfl, hseparate.readElements_render, drawCalloutBox_eq h,
    Markup.bodies_styled, if_neg (by decide), List.nil_append, Markup.bodies_append, hbodies,
    List.nil_append, bodies_sectionText h]

end

/-- **Prose keeps to its item.** The paragraphs of two texts with a pair of line breaks between them
are those of the one and those of the other. So if an item of a section has a prose that is not
blank, what a text block and a callout hold is what the paragraphs of the items are on their own, in
the order of the items, and each paragraph that is read from the drawing is one of a single item.
Only the paragraphs of a blank prose are none. -/
theorem prose_paragraphs :
    (∀ a b, (paragraphs (a ++ "\n\n" ++ b)).render =
      (paragraphs a).render ++ (paragraphs b).render) ∧
    (∀ text, paragraphTexts text = [] ↔ Text.isAllBlank text) ∧
    ∀ bindings s options, (∃ text ∈ proses bindings s, ¬ Text.isAllBlank text) →
      let body := String.join ((proses bindings s).map fun text => (paragraphs text).render)
      let heading := ((s.textOption? "heading").map fun heading =>
        "<div class=\"callout-heading\">" ++ Text.escape heading ++ "</div>").getD ""
      let shown := (proses bindings s).flatMap fun text => (paragraphTexts text).map Text.escape
      (drawTextBlock bindings s options).render = "<div class=\"text-block\">" ++ body ++ "</div>" ∧
      (drawCalloutBox bindings s options).render =
        "<aside class=\"callout callout-" ++ calloutVariant s ++ "\">" ++ heading ++ body ++
          "</aside>" ∧
      readElements "p" (drawTextBlock bindings s options).render = shown ∧
      readElements "p" (drawCalloutBox bindings s options).render = shown := by
  refine ⟨fun a b => ?_, paragraphTexts_eq_nil_iff, fun bindings s options h => ?_⟩
  · rw [render_paragraphs, paragraphTexts_append, paragraphsText_append, render_paragraphs,
      render_paragraphs]
  · intro body heading shown
    exact ⟨render_drawTextBlock h options, render_drawCalloutBox h options,
      readElements_drawTextBlock h options, readElements_drawCalloutBox h options⟩

/-- Of three items the first ends and the last begins with a line break, and the one between them is
blank. -/
theorem prose_paragraphs_of_line_breaks :
    let items := [Json.string "First.\n\nSecond\n", .string " \n", .string "\nThird\n\n\nFourth"]
    let s : Section := { id := "a", visual := "text_block" }
    let bindings : Bindings := ⟨[("items", some (.array items))]⟩
    (∃ text ∈ proses bindings s, ¬ Text.isAllBlank text) ∧
      ∀ options, readElements "p" (drawTextBlock bindings s options).render =
        ["First.", "Second", "Third", "Fourth"] := by
  intro items s bindings
  have hsome : ∃ text ∈ proses bindings s, ¬ Text.isAllBlank text :=
    ⟨"First.\n\nSecond\n", by decide, by decide⟩
  refine ⟨hsome, fun options => ?_⟩
  obtain ⟨-, -, hread, -⟩ := prose_paragraphs.2.2 bindings s options hsome
  rw [hread]
  decide

end Visual

end DiagnosticReport
