import DiagnosticReport.Proofs.Query.Bindings
import DiagnosticReport.Proofs.Report.Identity

/-!
# The sections of a report

The block of a section is a text of its own: its frame shows the section and its body shows what
became of the drawing, and neither depends on the other sections (`Recipe.report?_sections`). A
section that could not be read, one that is refused and one whose renderer breaks down have a
placeholder for a body. What no placeholder stands for is the sort of a data source: if it breaks
down, there is no report (`Recipe.report?_of_mixed_sort`).
-/

namespace DiagnosticReport

namespace Section

/-! ## Blocks -/

/-- The paragraph of a description that is not blank. -/
def descriptionText (s : Section) : String :=
  match s.description with
  | some text =>
    if Text.isAllBlank text then ""
    else "<p class=\"section-description\">" ++ Text.escape text ++ "</p>"
  | none => ""

/-- The text of the block of a section around the text of its body. -/
def blockText (s : Section) (body : String) : String :=
  "<section class=\"" ++ String.intercalate " " s.classes ++ "\" id=\"" ++ Text.escape s.id ++
    "\">" ++
  "\n    <h2>" ++ Text.escape s.title ++ "</h2>" ++
  "\n    " ++ s.descriptionText ++
  "\n    <div class=\"section-body\">" ++ body ++ "</div>" ++
  "\n</section>\n"

theorem render_descriptionMarkup (s : Section) :
    s.descriptionMarkup.render = s.descriptionText := by
  unfold descriptionMarkup descriptionText
  cases s.description with
  | none => rfl
  | some text =>
    cases hblank : Text.isAllBlank text with
    | true =>
      rw [Option.filter_some_neg (by simp [hblank])]
      simp only [hblank]
      rfl
    | false =>
      rw [Option.filter_some_pos (by simp [hblank])]
      simp only [hblank]
      exact Markup.render_styled _ _ _

theorem render_block (s : Section) (fragment : Markup) :
    (s.block fragment).render = s.blockText fragment.render := by
  have hclasses :
      Text.escape (String.intercalate " " s.classes) = String.intercalate " " s.classes :=
    s.isPlain_intercalate_classes.escape_eq
  have hmargin : Text.escape "\n    " = "\n    " := by decide
  have hline : Text.escape "\n" = "\n" := by decide
  have hbody : Text.escape "section-body" = "section-body" := by decide
  have hopen : "<section class=\"" =
      "<" ++ Tag.block.name ++ (" " ++ Attribute.styleClass.name ++ "=\"") := by decide
  have hid : "\" id=\"" = "\"" ++ (" " ++ Attribute.id.name ++ "=\"") := by decide
  have hend : "\">" = "\"" ++ ">" := by decide
  have htitle : "\n    <h2>" = "\n    " ++ ("<" ++ Tag.h2.name ++ ">") := by decide
  have htitleEnd : "</h2>" = "</" ++ Tag.h2.name ++ ">" := by decide
  have hdiv : "\n    <div class=\"section-body\">" =
      "\n    " ++ ("<" ++ Tag.div.name ++ " class=\"" ++ "section-body" ++ "\">") := by decide
  have hdivEnd : "</div>" = "</" ++ Tag.div.name ++ ">" := by decide
  have hclose : "\n</section>\n" = "\n" ++ ("</" ++ Tag.block.name ++ ">") ++ "\n" := by decide
  unfold blockText block
  -- both sides are written out as the same pieces in a row
  simp only [hdiv, hdivEnd, htitle, htitleEnd, hopen, hid, hclose, Markup.render_append,
    Markup.render_text, Markup.render_element, Markup.render_plain, Markup.render_styled,
    Markup.renderAttributes_cons, Markup.renderAttributes_nil, Markup.renderAttribute,
    render_descriptionMarkup, hclasses, hmargin, hline, hbody, hend, String.append_empty,
    String.append_assoc]

/-! ## Bodies -/

/-- The text of a placeholder. -/
def placeholderText (message : String) : String :=
  "<div class=\"placeholder\">[" ++ Text.escape message ++ "]</div>"

/-- The text of the body of a section over a document: what its renderer draws, or else a
placeholder, with the reason if there is one. -/
def bodyText (registry : Registry) (options : RenderOptions) (document : Json) (s : Section) :
    String :=
  match s.fault with
  | some fault => placeholderText ("Section could not be rendered: " ++ fault.message)
  | none =>
    match registry.render (.resolve document s.sources) s options with
    | .drawn fragment => fragment.render
    | .refused message => placeholderText ("Section could not be rendered: " ++ message)
    | .broken => placeholderText "Section could not be rendered"

theorem render_placeholder (message : String) :
    (placeholder message).render = placeholderText message := by
  have hopen : Text.escape "[" = "[" := by decide
  have hclose : Text.escape "]" = "]" := by decide
  have hclass : Text.escape "placeholder" = "placeholder" := by decide
  have hdiv : "<div class=\"placeholder\">[" =
      "<" ++ Tag.div.name ++ " class=\"" ++ "placeholder" ++ "\">" ++ "[" := by decide
  have hdivEnd : "]</div>" = "]" ++ ("</" ++ Tag.div.name ++ ">") := by decide
  unfold placeholderText placeholder
  simp only [hdiv, hdivEnd, Markup.render_styled, Markup.render_text, Text.escape_append, hopen,
    hclose, hclass, String.append_assoc]

theorem notRendered_some (reason : String) :
    notRendered (some reason) = "Section could not be rendered: " ++ reason := by
  have hcolon : "Section could not be rendered: " = "Section could not be rendered" ++ ": " := by
    decide
  rw [hcolon, String.append_assoc]
  rfl

theorem render_fragment_outcome (registry : Registry) (options : RenderOptions) (document : Json)
    (s : Section) :
    (s.outcome registry options document).fragment.render =
      s.bodyText registry options document := by
  unfold outcome bodyText
  cases s.fault with
  | some fault =>
    dsimp only [Outcome.fragment]
    rw [render_placeholder, notRendered_some]
  | none =>
    dsimp only
    cases registry.render (.resolve document s.sources) s options with
    | drawn fragment => rfl
    | refused message =>
      dsimp only [Outcome.fragment]
      rw [render_placeholder, notRendered_some]
    | broken =>
      dsimp only [Outcome.fragment]
      rw [render_placeholder]
      rfl

end Section

/-! ## Sorts that break down -/

/-- The sort of one of the data sources of a section breaks down. -/
def Section.SortBreaks (s : Section) (document : Json) : Prop :=
  s.fault = none ∧ ∃ source ∈ s.sources, source.SortBreaks document

theorem Section.breaks_iff {s : Section} {document : Json} :
    s.breaks document ↔ s.SortBreaks document := by
  simp [breaks, SortBreaks, DataSource.breaks_iff]

instance (s : Section) (document : Json) : Decidable (s.SortBreaks document) :=
  decidable_of_iff _ Section.breaks_iff

/-! ## The main element -/

theorem SparesInside.lacks {t : List Char} (h : SparesInside (· == t)) {m : Markup}
    (huses : m.Uses Tag.isInside) : Lacks t m.render.toList := by
  refine ⟨huses.isClosed, ?_⟩
  rw [huses.readTags_render]
  intro hmem
  have hspared := huses.forall_tags (q := (· == t)) h.opening h.closing t hmem
  simp at hspared

theorem Lacks.occurrences_eq {tag text : String} (htag : '>' ∉ tag.toList)
    (h : Lacks tag.toList text.toList) : occurrences ("<" ++ tag ++ ">") text = 0 := by
  rw [occurrences_tag htag h.closed, List.countP_eq_zero]
  intro t ht heq
  exact h.not_mem (eq_of_beq heq ▸ ht)

theorem sparesInside_opensMain : SparesInside (· == "main".toList) where
  opening tag _ rest := by cases tag <;> rfl
  closing tag _ := by cases tag <;> rfl

theorem sparesInside_closesMain : SparesInside (· == "/main".toList) where
  opening tag _ rest := by cases tag <;> rfl
  closing tag _ := by cases tag <;> rfl

namespace Recipe

/-- The text of a report before its main element. -/
def front (recipe : Recipe) (given : RenderOptions) (document : Json) : String :=
  documentTop (Text.escape recipe.name) (Stylesheet.text (recipe.options given).brand) ++
    (reportHeader recipe document (recipe.options given).brand).render ++ "\n        "

/-- The text of a report behind its main element. -/
def back (recipe : Recipe) (given : RenderOptions) : String :=
  "\n        " ++ (reportFooter (recipe.options given).footerText).render ++ String.join endLines

section

variable (recipe : Recipe) (given : RenderOptions) (document : Json)

theorem occurrences_front : occurrences "<main>" (recipe.front given document) = 0 := by
  have hlines : "main".toList ∉ lineTags (headLines ++ styleLines ++ bodyLines) := by
    decide +kernel
  obtain ⟨hclosed, htags⟩ := readTags_documentTop (isInert_escape recipe.name).isTagFree
    (Stylesheet.isTagFree_text (recipe.options given).brand)
  have hheader := sparesInside_opensMain.lacks
    (uses_reportHeader recipe document (recipe.options given).brand)
  have hmargin : IsTagFree "\n        " := by decide
  have htop : Lacks "main".toList (documentTop (Text.escape recipe.name)
      (Stylesheet.text (recipe.options given).brand)).toList := ⟨hclosed, htags ▸ hlines⟩
  have hmain : "<main>" = "<" ++ "main" ++ ">" := by decide
  rw [hmain]
  apply Lacks.occurrences_eq (by decide)
  unfold front
  simp only [String.toList_append]
  exact (htop.append hheader).append (hmargin.lacks _)

theorem occurrences_back : occurrences "</main>" (recipe.back given) = 0 := by
  have hlines := keepsMarker_of_mem_lines
  simp only [List.forall_mem_append] at hlines
  obtain ⟨hclosed, htags⟩ := readTags_lines hlines.2
  have hend : "/main".toList ∉ lineTags endLines := by decide +kernel
  have hfooter := sparesInside_closesMain.lacks
    (uses_reportFooter (recipe.options given).footerText)
  have hmargin : IsTagFree "\n        " := by decide
  have hlast : Lacks "/main".toList (String.join endLines).toList := ⟨hclosed, htags ▸ hend⟩
  have hmain : "</main>" = "<" ++ "/main" ++ ">" := by decide
  rw [hmain]
  apply Lacks.occurrences_eq (by decide)
  unfold back
  simp only [String.toList_append]
  exact ((hmargin.lacks _).append hfooter).append hlast

/-- The main element of a report holds the blocks of its sections, and nothing else depends on
them. -/
theorem report_eq (registry : Registry) :
    recipe.report registry given document =
      recipe.front given document ++ "<main>" ++
        String.join (recipe.sections.map fun s =>
          s.blockText (s.bodyText registry (recipe.options given) document)) ++
        "</main>" ++ recipe.back given := by
  have hblocks : (recipe.blocks registry given document).map Markup.render =
      recipe.sections.map fun s =>
        s.blockText (s.bodyText registry (recipe.options given) document) := by
    rw [blocks, List.map_map]
    refine List.map_congr_left fun s _ => ?_
    rw [Function.comp_apply, Section.render, Section.render_block, Section.render_fragment_outcome]
  have hmain : String.join mainLines = "\n        " ++ "<main>" := by decide +kernel
  have hfooter : String.join footerLines = "</main>" ++ "\n        " := by decide +kernel
  unfold report front back
  rw [documentText_eq, hblocks, hmain, hfooter]
  simp only [String.append_assoc]

theorem report?_eq_none_iff (registry : Registry) :
    recipe.report? registry given document = none ↔
      ∃ s ∈ recipe.sections, s.SortBreaks document := by
  unfold report? breaks
  simp [Section.breaks_iff]

/-- **The sections of a report are apart from each other.** The main element of a report is one
block for each section, in the order of the recipe, and a block depends on no other section: around
the same text, other sections have their own blocks. A section that could not be read, that is
refused or whose renderer breaks down keeps its frame around a placeholder, and none of these ends
the report. There is no report exactly if the sort of a data source breaks down, which takes more
than 20 items and an order that is not transitive on them. -/
theorem report?_sections (registry : Registry) :
    (∃ front back, occurrences "<main>" front = 0 ∧ occurrences "</main>" back = 0 ∧
      ∀ sections : List Section, (∀ s ∈ sections, ¬ s.SortBreaks document) →
        { recipe with sections }.report? registry given document =
          some (front ++ "<main>" ++
            String.join (sections.map fun s =>
              s.blockText (s.bodyText registry (recipe.options given) document)) ++
            "</main>" ++ back)) ∧
    (recipe.report? registry given document = none ↔
      ∃ s ∈ recipe.sections, s.SortBreaks document) ∧
    ∀ s : Section, s.SortBreaks document → ∃ source ∈ s.sources, ∃ items key,
      resolvePath? document source.origin = some (.array items) ∧
        source.pipeline.sort = some key ∧ 20 < (source.pipeline.kept items).length ∧
        ¬ TransitiveOn key.compareItems (source.pipeline.kept items) := by
  refine ⟨⟨recipe.front given document, recipe.back given, recipe.occurrences_front given document,
    recipe.occurrences_back given, fun sections hsections => ?_⟩,
    recipe.report?_eq_none_iff given document registry, fun s hs => ?_⟩
  · have hbreaks : ({ recipe with sections }).breaks document = false := by
      simpa [breaks, Section.breaks_iff] using hsections
    rw [report?, hbreaks, report_eq]
    rfl
  · obtain ⟨-, source, hsource, hbreaks⟩ := hs
    exact ⟨source, hsource, hbreaks.exists_sort⟩

end

/-- A section that could not be read, one that is refused, one whose renderer breaks down and one
with a fragment from outside stand side by side. -/
theorem report?_sections_of_failures :
    let registry := ((Registry.empty.register "boom" fun _ _ _ => .broken).register "bad"
      fun _ _ _ => .refused "no <data>").register "own" fun _ _ _ => .drawn (.verbatim "<hr>")
    let item (n : Int) : Json := .object [("k", .number (.int n))]
    let document : Json := .object [("items", .array [item 2, item 1])]
    let source : DataSource :=
      { id := "d", origin := "items", pipeline := { sort := some ⟨"k", .ascending⟩ } }
    let unread : Section := { id := "1", fault := some (.missingField "title") }
    let refused : Section := { id := "2", visual := "bad", sources := [source] }
    let broken : Section := { id := "3", visual := "boom", sources := [source] }
    let drawn : Section := { id := "4", visual := "own", sources := [source] }
    let sections := [unread, refused, broken, drawn]
    let recipe : Recipe := { reportId := "r", name := "R", sections }
    (∀ s ∈ sections, ¬ s.SortBreaks document) ∧
      ∃ front back, recipe.report? registry {} document =
        some (front ++ "<main>" ++
          (unread.blockText
              (Section.placeholderText "Section could not be rendered: missing field `title`") ++
            refused.blockText
              (Section.placeholderText "Section could not be rendered: no <data>") ++
            broken.blockText (Section.placeholderText "Section could not be rendered") ++
            drawn.blockText "<hr>") ++
          "</main>" ++ back) := by
  intro registry item document source unread refused broken drawn sections recipe
  have hsections : ∀ s ∈ sections, ¬ s.SortBreaks document := by decide +kernel
  obtain ⟨⟨front, back, -, -, hreport⟩, -⟩ := recipe.report?_sections {} document registry
  exact ⟨hsections, front, back, hreport sections hsections⟩

/-- A sort by a field that is a number on some of the items and a text on others ends the report,
although the section has nothing to draw. -/
theorem report?_of_mixed_sort :
    let item (value : Json) : Json := .object [("k", value)]
    let number (n : Int) : Json := item (.number (.int n))
    let items := [item (.string "91")] ++ List.replicate 9 (item (.string "9")) ++
      List.replicate 10 (number 9) ++ [number 10]
    let document : Json := .object [("items", .array items)]
    let source : DataSource :=
      { id := "d", origin := "items", pipeline := { sort := some ⟨"k", .ascending⟩ } }
    let s : Section := { id := "s", title := "S", visual := "none", sources := [source] }
    let recipe : Recipe := { reportId := "r", name := "R", sections := [s] }
    s.render? .builtin {} document = none ∧ recipe.report? .builtin {} document = none := by
  intro item number items document source s recipe
  have hbreaks : s.SortBreaks document := by decide +kernel
  have hreport := recipe.report?_eq_none_iff {} document .builtin
  refine ⟨?_, hreport.2 ⟨s, List.mem_singleton_self s, hbreaks⟩⟩
  rw [Section.render?, if_pos (Section.breaks_iff.2 hbreaks)]

end Recipe

end DiagnosticReport
