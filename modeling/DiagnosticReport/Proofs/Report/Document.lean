import DiagnosticReport.Proofs.Report.Block
import DiagnosticReport.Proofs.Report.Stylesheet
import DiagnosticReport.Report.Document

/-!
# The tags of a report

A report is a fixed frame of lines around its title, its stylesheet, its header, the blocks of its
sections and its footer. Title and stylesheet hold no tags and the other parts only those of their
elements, so the tags of a report are known one by one (`Recipe.readTags_report`), and what they
are counts the sections, the styles and the scripts of the text.
-/

namespace DiagnosticReport

/-! ## The frame

The lines of a document that are the same in every report stand between its parts: after
`headLines` the title, after `styleLines` the stylesheet, after `bodyLines` the header, after
`mainLines` the sections and after `footerLines` the footer.
-/

def headLines : List String :=
  ["<!DOCTYPE html>\n", "<html lang=\"en\">\n", "<head>\n", "    <meta charset=\"UTF-8\">\n",
   "    <meta name=\"viewport\" content=\"width=device-width, initial-scale=1.0\">\n",
   "    <title>"]

def styleLines : List String :=
  ["</title>\n", "    <style>"]

def bodyLines : List String :=
  ["</style>\n", "</head>\n", "<body>\n", "    <div class=\"container\">\n", "        "]

def mainLines : List String :=
  ["\n", "        <main>"]

def footerLines : List String :=
  ["</main>\n", "        "]

def endLines : List String :=
  ["\n", "    </div>\n", "</body>\n", "</html>"]

def frontLines : List String :=
  headLines ++ styleLines ++ bodyLines ++ mainLines

def backLines : List String :=
  footerLines ++ endLines

def lineTags (lines : List String) : List (List Char) :=
  lines.flatMap fun line => readTags line.toList

/-- What stands before the header of a document. -/
def documentTop (title stylesheet : String) : String :=
  String.join (headLines ++ [title] ++ styleLines ++ [stylesheet] ++ bodyLines)

/-- A document is its fixed lines with four texts between them. -/
theorem documentText_eq (title stylesheet header sections footer : String) :
    documentText title stylesheet header sections footer =
      documentTop title stylesheet ++ header ++ String.join mainLines ++ sections ++
        String.join footerLines ++ footer ++ String.join endLines := by
  unfold documentText documentTop headLines styleLines bodyLines mainLines footerLines endLines
  apply String.toList_injective
  simp only [String.toList_append, String.toList_join, List.append_assoc, List.flatMap_cons,
    List.flatMap_nil, List.append_nil, List.cons_append, List.nil_append, -String.reduceToList]

theorem keepsMarker_of_mem_lines :
    ∀ line ∈ headLines ++ styleLines ++ bodyLines ++ mainLines ++ footerLines ++ endLines,
      KeepsMarker line.toList := by
  decide +kernel

/-- The tags of fixed lines are read line by line. -/
theorem readTags_lines {lines : List String} (h : ∀ line ∈ lines, KeepsMarker line.toList) :
    IsClosed (String.join lines).toList ∧ readTags (String.join lines).toList = lineTags lines := by
  rw [String.toList_join]
  exact IsClosed.flatMap fun line hline => (h line hline).isClosed

/-- A title and a stylesheet without tags add none to the top of a document. -/
theorem readTags_documentTop {title stylesheet : String} (htitle : IsTagFree title)
    (hstylesheet : IsTagFree stylesheet) :
    IsClosed (documentTop title stylesheet).toList ∧
    readTags (documentTop title stylesheet).toList =
      lineTags (headLines ++ styleLines ++ bodyLines) := by
  have hlines := keepsMarker_of_mem_lines
  simp only [List.forall_mem_append] at hlines
  obtain ⟨⟨⟨⟨⟨hhead, hstyle⟩, hbody⟩, -⟩, -⟩, -⟩ := hlines
  have hclosed : ∀ part ∈ headLines ++ [title] ++ styleLines ++ [stylesheet] ++ bodyLines,
      IsClosed part.toList := by
    simp only [List.forall_mem_append, List.forall_mem_singleton]
    exact ⟨⟨⟨⟨fun l h => (hhead l h).isClosed, htitle.isClosed⟩,
      fun l h => (hstyle l h).isClosed⟩, hstylesheet.isClosed⟩, fun l h => (hbody l h).isClosed⟩
  obtain ⟨hjoin, htags⟩ := IsClosed.flatMap hclosed
  rw [documentTop, String.toList_join]
  refine ⟨hjoin, htags.trans ?_⟩
  simp only [List.flatMap_append, List.flatMap_singleton, htitle.readTags_eq,
    hstylesheet.readTags_eq, List.append_nil, lineTags]

/-- The tags of a document are those of its lines and of the parts between them. -/
theorem readTags_documentText {title stylesheet header sections footer : String}
    (htitle : IsTagFree title) (hstylesheet : IsTagFree stylesheet)
    (hheader : IsClosed header.toList) (hsections : IsClosed sections.toList)
    (hfooter : IsClosed footer.toList) :
    IsClosed (documentText title stylesheet header sections footer).toList ∧
    readTags (documentText title stylesheet header sections footer).toList =
      lineTags (headLines ++ styleLines ++ bodyLines) ++ readTags header.toList ++
        lineTags mainLines ++ readTags sections.toList ++ lineTags footerLines ++
        readTags footer.toList ++ lineTags endLines := by
  have hlines := keepsMarker_of_mem_lines
  simp only [List.forall_mem_append] at hlines
  obtain ⟨⟨⟨-, hmain⟩, hfoot⟩, hend⟩ := hlines
  obtain ⟨htop, htopTags⟩ := readTags_documentTop htitle hstylesheet
  obtain ⟨hmainClosed, hmainTags⟩ := readTags_lines hmain
  obtain ⟨hfootClosed, hfootTags⟩ := readTags_lines hfoot
  obtain ⟨hendClosed, hendTags⟩ := readTags_lines hend
  have hhead := (htop.append hheader).append hmainClosed
  have hfront := (hhead.append hsections).append hfootClosed
  rw [documentText_eq]
  simp only [String.toList_append]
  refine ⟨(hfront.append hfooter).append hendClosed, ?_⟩
  rw [hfront.append hfooter, hfront, hhead.append hsections, hhead, htop.append hheader, htop,
    htopTags, hmainTags, hfootTags, hendTags]

/-! ## The parts of a report -/

/-- The elements that are no section of a report. -/
def Tag.isInside (tag : Tag) : Bool :=
  tag ≠ block

theorem Tag.isInside_of_isDrawn (tag : Tag) (h : tag.isDrawn) : tag.isInside := by
  cases tag <;> first | rfl | exact h

/-- The header of a report has no elements but those that stand inside of one. -/
theorem uses_reportHeader (recipe : Recipe) (document : Json) (brand : Brand) :
    (reportHeader recipe document brand).Uses Tag.isInside := by
  have hitem : ∀ label content, Markup.Uses Tag.isInside content →
      (headerItem label content).Uses Tag.isInside := by
    intro label content h
    simp [headerItem, h, Tag.isInside]
  have hitems : ∀ item ∈ headerItems recipe document, item.Uses Tag.isInside := by
    simp only [headerItems, List.forall_mem_append, List.forall_mem_singleton, Option.mem_toList,
      Option.map_eq_some_iff]
    refine ⟨⟨hitem _ _ (by simp [identifier, Tag.isInside]), ?_⟩, ?_⟩
    · rintro item ⟨run, -, rfl⟩
      exact hitem _ _ (by simp [identifier, Tag.isInside])
    · rintro item ⟨time, -, rfl⟩
      exact hitem _ _ (by simp)
  have hbetween : (Markup.text " " ++ .bullet ++ .text " ").Uses Tag.isInside := by simp
  have hline := Markup.uses_join hbetween hitems
  simp [reportHeader, hline, Tag.isInside]

theorem uses_reportFooter (text : String) : (reportFooter text).Uses Tag.isInside := by
  simp [reportFooter, Tag.isInside]

theorem uses_placeholder {p : Tag → Bool} (hp : p .div) (message : String) :
    (placeholder message).Uses p := by
  simp [placeholder, hp]

namespace Section

/-- What stands in a block is drawn with the elements of fragments, failures included. -/
theorem uses_fragment_outcome (s : Section) (options : RenderOptions) (document : Json) :
    (s.outcome .builtin options document).fragment.Uses Tag.isDrawn := by
  unfold outcome
  cases s.fault with
  | some fault => exact uses_placeholder rfl _
  | none =>
    rcases Registry.render_builtin_cases (.resolve document s.sources) s options with
      ⟨-, hrender⟩ | ⟨-, fragment, hrender, huses⟩
    · simp only [hrender]
      exact uses_placeholder rfl _
    · simp only [hrender]
      exact huses

/-- What stands in the tag that opens the block of a section. -/
def openingTag (s : Section) : String :=
  "section" ++ Markup.renderAttributes
    [(.styleClass, String.intercalate " " s.classes), (.id, s.id)]

/-- The block of a section opens with its own tag, and between that and the closing one there is
no other section. -/
theorem exists_body (s : Section) (options : RenderOptions) (document : Json) :
    ∃ body : Markup, body.Uses Tag.isInside ∧
      (s.render .builtin options document).render =
        "<" ++ s.openingTag ++ ">" ++ body.render ++ "</section>\n" ∧
      (s.render .builtin options document).tags =
        s.openingTag.toList :: body.tags ++ ["/section".toList] := by
  have hfragment := (s.uses_fragment_outcome options document).mono Tag.isInside_of_isDrawn
  have hdescription := s.uses_descriptionMarkup (p := Tag.isInside) rfl
  have hclose : "</" ++ Tag.block.name ++ ">" ++ Text.escape "\n" = "</section>\n" := by decide
  refine ⟨.text "\n    " ++ .plain .h2 (.text s.title) ++ .text "\n    " ++ s.descriptionMarkup ++
    .text "\n    " ++ .styled .div "section-body" (s.outcome .builtin options document).fragment ++
    .text "\n", ?_, ?_, ?_⟩
  · simp [hfragment, hdescription, Tag.isInside]
  · rw [← hclose]
    simp only [openingTag, ← String.append_assoc]
    rfl
  · exact List.append_nil _

end Section

/-! ## The tags of a report -/

/-- A test that picks no tag of the elements inside of blocks. -/
structure SparesInside (q : List Char → Bool) : Prop where
  opening : ∀ tag : Tag, tag.isInside → ∀ rest, q (tag.name.toList ++ rest) = false
  closing : ∀ tag : Tag, tag.isInside → q ('/' :: tag.name.toList) = false

namespace Recipe

section

variable (recipe : Recipe) (given : RenderOptions) (document : Json)

/-- The blocks of a report have no elements but those of blocks. -/
theorem uses_blocks : ∀ m ∈ recipe.blocks .builtin given document, m.Uses Tag.isBlock := by
  simp only [blocks, List.forall_mem_map]
  exact fun s _ => s.uses_block_of_uses (s.uses_fragment_outcome _ _)

/-- The tags of a report, from its first line to its last. -/
theorem readTags_report :
    IsClosed (recipe.report .builtin given document).toList ∧
    readTags (recipe.report .builtin given document).toList =
      lineTags (headLines ++ styleLines ++ bodyLines) ++
        (reportHeader recipe document (recipe.options given).brand).tags ++ lineTags mainLines ++
        (recipe.blocks .builtin given document).flatMap Markup.tags ++ lineTags footerLines ++
        (reportFooter (recipe.options given).footerText).tags ++ lineTags endLines := by
  have hheader := uses_reportHeader recipe document (recipe.options given).brand
  have hfooter := uses_reportFooter (recipe.options given).footerText
  have hblocks := recipe.uses_blocks given document
  obtain ⟨hclosed, htags⟩ := IsClosed.flatMap fun m hm => (hblocks m hm).isClosed
  have hread : readTags (String.join
      ((recipe.blocks .builtin given document).map Markup.render)).toList =
      (recipe.blocks .builtin given document).flatMap Markup.tags := by
    rw [String.toList_join, List.flatMap_map, htags]
    exact List.flatMap_congr fun m hm => (hblocks m hm).readTags_render
  rw [← hheader.readTags_render, ← hfooter.readTags_render, ← hread]
  apply readTags_documentText (isInert_escape _).isTagFree (Stylesheet.isTagFree_text _)
    hheader.isClosed _ hfooter.isClosed
  rw [String.toList_join, List.flatMap_map]
  exact hclosed

/-- The tags of a report that a test picks: those of the frame, and of each section its opening and
its closing one. -/
theorem filter_readTags_report {q : List Char → Bool} (hq : SparesInside q) :
    (readTags (recipe.report .builtin given document).toList).filter q =
      (lineTags frontLines).filter q ++
      (recipe.sections.flatMap fun s =>
        [s.openingTag.toList, "/section".toList].filter q) ++
      (lineTags backLines).filter q := by
  have hnone : ∀ {m : Markup}, m.Uses Tag.isInside → m.tags.filter q = [] := by
    intro m h
    simpa using h.forall_tags hq.opening hq.closing
  have hblock : ∀ s : Section,
      (s.render .builtin (recipe.options given) document).tags.filter q =
        [s.openingTag.toList, "/section".toList].filter q := by
    intro s
    obtain ⟨body, hbody, -, htags⟩ := s.exists_body (recipe.options given) document
    rw [htags, List.filter_append, List.filter_cons, hnone hbody]
    simp only [List.filter_cons, List.filter_nil]
    split <;> rfl
  rw [(recipe.readTags_report given document).2]
  simp only [List.filter_append, hnone (uses_reportHeader _ _ _), hnone (uses_reportFooter _),
    List.nil_append, List.filter_flatMap, blocks, List.flatMap_map, hblock, frontLines, backLines,
    lineTags, List.flatMap_append, List.append_assoc]

/-- The number of tags of a report that a test picks, if it picks the same number of each
section. -/
theorem countP_readTags_report {q : List Char → Bool} (hq : SparesInside q) {n : Nat}
    (hsection : ∀ s : Section, [s.openingTag.toList, "/section".toList].countP q = n) :
    (readTags (recipe.report .builtin given document).toList).countP q =
      (lineTags frontLines ++ lineTags backLines).countP q + recipe.sections.length * n := by
  rw [List.countP_eq_length_filter, recipe.filter_readTags_report given document hq,
    List.length_append, List.length_append, List.length_flatMap, List.countP_append]
  simp only [← List.countP_eq_length_filter, hsection, List.map_const', List.sum_replicate_nat]
  omega

end

/-! ## Sections, styles and scripts -/

/-- The tag opens a section. -/
def opensSection : List Char → Bool :=
  "section ".toList.isPrefixOf

/-- The tag is one of a script, in any letter case. -/
def isScript (t : List Char) : Bool :=
  "script".toList.isPrefixOf (t.map Char.toLower)

theorem sparesInside_opensSection : SparesInside opensSection where
  opening tag h rest := by cases tag <;> first | rfl | cases h
  closing _ _ := rfl

theorem sparesInside_closesSection : SparesInside (· == "/section".toList) where
  opening tag _ rest := by cases tag <;> rfl
  closing tag h := by cases tag <;> first | rfl | cases h

theorem sparesInside_opensStyle : SparesInside (· == "style".toList) where
  opening tag _ rest := by cases tag <;> rfl
  closing tag _ := by cases tag <;> rfl

theorem sparesInside_closesStyle : SparesInside (· == "/style".toList) where
  opening tag _ rest := by cases tag <;> rfl
  closing tag _ := by cases tag <;> rfl

/-- No element inside of a report is a script. -/
theorem sparesInside_isScript : SparesInside isScript where
  opening tag _ rest := by cases tag <;> rfl
  closing _ _ := rfl

/-- What the frame of a document holds of sections, styles and scripts: one style. -/
theorem countP_frame :
    let frame := lineTags frontLines ++ lineTags backLines
    frame.countP opensSection = 0 ∧ frame.countP (· == "/section".toList) = 0 ∧
      frame.countP (· == "style".toList) = 1 ∧ frame.countP (· == "/style".toList) = 1 ∧
      frame.countP isScript = 0 := by
  decide +kernel

theorem filter_sectionTags (s : Section) :
    [s.openingTag.toList, "/section".toList].filter opensSection = [s.openingTag.toList] := by
  have hopening : opensSection s.openingTag.toList := by
    simp [opensSection, Section.openingTag, Markup.renderAttributes, Markup.renderAttribute]
  have hclosing : opensSection "/section".toList = false := rfl
  simp only [List.filter_cons, List.filter_nil, hopening, hclosing]
  rfl

section

variable (recipe : Recipe) (given : RenderOptions) (document : Json)

/-- The tags that open sections are those of the sections of the recipe, in their order. -/
theorem filter_opensSection :
    (readTags (recipe.report .builtin given document).toList).filter opensSection =
      recipe.sections.map fun s => s.openingTag.toList := by
  have hframe := countP_frame.1
  rw [List.countP_eq_length_filter, List.length_eq_zero_iff, List.filter_append,
    List.append_eq_nil_iff] at hframe
  rw [recipe.filter_readTags_report given document sparesInside_opensSection, hframe.1, hframe.2]
  simp only [filter_sectionTags, List.nil_append, List.append_nil]
  exact List.flatMap_pure_eq_map _ _

/-- A report opens one section for each of the recipe. -/
theorem occurrences_opensSection :
    occurrences "<section " (recipe.report .builtin given document) = recipe.sections.length := by
  have hneedle : '>' ∉ "section ".toList := by decide
  have hcount : (readTags (recipe.report .builtin given document).toList).countP opensSection =
      recipe.sections.length := by
    rw [List.countP_eq_length_filter, filter_opensSection, List.length_map]
  exact (occurrences_opening hneedle _).trans hcount

/-- A whole tag occurs in a report as often as it stands in the frame and at the sections. -/
theorem occurrences_tag_report {needle : String} (hneedle : '>' ∉ needle.toList)
    (hspares : SparesInside (· == needle.toList)) {n : Nat}
    (hsection : ∀ s : Section,
      [s.openingTag.toList, "/section".toList].countP (· == needle.toList) = n) :
    occurrences ("<" ++ needle ++ ">") (recipe.report .builtin given document) =
      (lineTags frontLines ++ lineTags backLines).countP (· == needle.toList) +
        recipe.sections.length * n := by
  rw [occurrences_tag hneedle (recipe.readTags_report given document).1]
  exact recipe.countP_readTags_report given document hspares hsection

/-- A report closes one section for each of the recipe. -/
theorem occurrences_closesSection :
    occurrences "</section>" (recipe.report .builtin given document) = recipe.sections.length := by
  have hsection : ∀ s : Section,
      [s.openingTag.toList, "/section".toList].countP (· == "/section".toList) = 1 := by
    intro s
    simp [Section.openingTag]
  have hcount := recipe.occurrences_tag_report given document (by decide)
    sparesInside_closesSection hsection
  rwa [countP_frame.2.1, Nat.zero_add, Nat.mul_one] at hcount

/-- A report has one stylesheet. -/
theorem occurrences_opensStyle :
    occurrences "<style>" (recipe.report .builtin given document) = 1 := by
  have hsection : ∀ s : Section,
      [s.openingTag.toList, "/section".toList].countP (· == "style".toList) = 0 := by
    intro s
    simp [Section.openingTag]
  have hcount := recipe.occurrences_tag_report given document (by decide)
    sparesInside_opensStyle hsection
  rwa [countP_frame.2.2.1, Nat.mul_zero] at hcount

theorem occurrences_closesStyle :
    occurrences "</style>" (recipe.report .builtin given document) = 1 := by
  have hsection : ∀ s : Section,
      [s.openingTag.toList, "/section".toList].countP (· == "/style".toList) = 0 := by
    intro s
    simp [Section.openingTag]
  have hcount := recipe.occurrences_tag_report given document (by decide)
    sparesInside_closesStyle hsection
  rwa [countP_frame.2.2.2.1, Nat.mul_zero] at hcount

/-- There is no script in a report, not even in capitals. -/
theorem occurrences_script :
    occurrences "<script" (Text.lowerAscii (recipe.report .builtin given document)) = 0 := by
  have hneedle : '>' ∉ "script".toList := by decide
  have hsection : ∀ s : Section, [s.openingTag.toList, "/section".toList].countP isScript = 0 := by
    intro s
    have hopening : isScript s.openingTag.toList = false := by
      rw [Section.openingTag, String.toList_append]
      rfl
    have hclosing : isScript "/section".toList = false := rfl
    rw [List.countP_cons, List.countP_cons, hopening, hclosing]
    rfl
  have hlower : (Text.lowerAscii (recipe.report .builtin given document)).toList =
      (recipe.report .builtin given document).toList.map Char.toLower := String.toList_ofList
  have hcount := recipe.countP_readTags_report given document sparesInside_isScript hsection
  rw [countP_frame.2.2.2.2, Nat.mul_zero] at hcount
  refine (occurrences_opening hneedle _).trans ?_
  rw [hlower, readTags_map_toLower, List.countP_map]
  exact hcount

/-- **The outline of a report.** The blocks of the sections stand one after the other in the order
of the recipe, each within the tags of its section, and there are no other sections. There is one
style and no script. This holds whatever the recipe, the document and the options say and whichever
sections fail. -/
theorem report_outline :
    (∃ front back, recipe.report .builtin given document =
      front ++ String.join ((recipe.blocks .builtin given document).map Markup.render) ++ back) ∧
    (∀ s ∈ recipe.sections, ∃ body,
      (s.render .builtin (recipe.options given) document).render =
        "<" ++ s.openingTag ++ ">" ++ body ++ "</section>\n") ∧
    (readTags (recipe.report .builtin given document).toList).filter opensSection =
      recipe.sections.map (fun s => s.openingTag.toList) ∧
    occurrences "<section " (recipe.report .builtin given document) = recipe.sections.length ∧
    occurrences "</section>" (recipe.report .builtin given document) = recipe.sections.length ∧
    occurrences "<style>" (recipe.report .builtin given document) = 1 ∧
    occurrences "</style>" (recipe.report .builtin given document) = 1 ∧
    occurrences "<script" (Text.lowerAscii (recipe.report .builtin given document)) = 0 := by
  refine ⟨?_, fun s _ => ?_, recipe.filter_opensSection given document,
    recipe.occurrences_opensSection given document,
    recipe.occurrences_closesSection given document,
    recipe.occurrences_opensStyle given document,
    recipe.occurrences_closesStyle given document,
    recipe.occurrences_script given document⟩
  · refine ⟨documentTop (Text.escape recipe.name) (Stylesheet.text (recipe.options given).brand) ++
      (reportHeader recipe document (recipe.options given).brand).render ++ String.join mainLines,
      String.join footerLines ++ (reportFooter (recipe.options given).footerText).render ++
        String.join endLines, ?_⟩
    rw [report, documentText_eq]
    simp only [String.append_assoc]
  · obtain ⟨body, -, hrender, -⟩ := s.exists_body (recipe.options given) document
    exact ⟨body.render, hrender⟩

end

end Recipe

end DiagnosticReport
