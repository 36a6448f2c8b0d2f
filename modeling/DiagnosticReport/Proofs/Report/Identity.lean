import DiagnosticReport.Proofs.Report.Document
import DiagnosticReport.Proofs.Text.Escaped

/-!
# Reports tell their ids

The first identifier in the text of a report is the id of its recipe, so two recipes with different
ids have different reports, over whatever documents and with whatever options.
-/

namespace DiagnosticReport

/-! ## Reading a text behind a tag -/

/-- The text behind the first tag that reads like the given one, up to the next tag. -/
def textAfter (tag : List Char) : List Char → List Char
  | [] => []
  | c :: cs =>
    if c = '<' ∧ cs.takeWhile (· != '>') = tag then
      (cs.dropWhile (· != '>')).tail.takeWhile (· != '<')
    else textAfter tag cs

/-- The text ends all its tags, and none of them reads like the given one. -/
structure Lacks (tag : List Char) (cs : List Char) : Prop where
  closed : IsClosed cs
  not_mem : tag ∉ readTags cs

/-- A tag with its brackets. -/
def bracketed (tag : String) : String :=
  "<" ++ tag ++ ">"

theorem toList_bracketed_append (tag : String) (rest : List Char) :
    (bracketed tag).toList ++ rest = '<' :: (tag.toList ++ '>' :: rest) := by
  simp [bracketed]

theorem IsTagFree.lacks {s : String} (h : IsTagFree s) (tag : List Char) : Lacks tag s.toList :=
  ⟨h.isClosed, by rw [h.readTags_eq]; exact List.not_mem_nil⟩

namespace Lacks

variable {tag cs ds : List Char}

theorem append (hcs : Lacks tag cs) (hds : Lacks tag ds) : Lacks tag (cs ++ ds) := by
  refine ⟨hcs.closed.append hds.closed, ?_⟩
  rw [hcs.closed, List.mem_append, not_or]
  exact ⟨hcs.not_mem, hds.not_mem⟩

theorem bracketed {other : String} (hlt : '<' ∉ other.toList) (hgt : '>' ∉ other.toList)
    (hne : tag ≠ other.toList) : Lacks tag (bracketed other).toList := by
  have hread : ∀ rest, readTags ((DiagnosticReport.bracketed other).toList ++ rest) =
      other.toList :: readTags rest := by
    intro rest
    rw [toList_bracketed_append, readTags_tag hlt hgt]
  have hone := hread []
  rw [List.append_nil] at hone
  refine ⟨fun rest => ?_, ?_⟩
  · rw [hread, hone]
    rfl
  · rw [hone]
    simpa [readTags] using hne

/-- A text without the tag is passed over. -/
theorem textAfter_append (h : Lacks tag cs) (rest : List Char) :
    textAfter tag (cs ++ rest) = textAfter tag rest := by
  obtain ⟨hclosed, hnot⟩ := h
  induction cs with
  | nil => rfl
  | cons c cs ih =>
    obtain ⟨hmem, hcs⟩ := hclosed.of_cons
    rw [readTags] at hnot
    rw [List.cons_append, textAfter]
    by_cases hc : c = '<'
    · rw [if_pos hc] at hnot
      have hne : cs.takeWhile (· != '>') ≠ tag := (List.ne_of_not_mem_cons hnot).symm
      rw [takeWhile_append_of_mem (hmem hc), if_neg fun hboth => hne hboth.2,
        ih hcs (List.not_mem_of_not_mem_cons hnot)]
    · rw [if_neg hc] at hnot
      rw [if_neg fun hboth => hc hboth.1, ih hcs hnot]

end Lacks

theorem textAfter_bracketed {tag text : String} (htag : '>' ∉ tag.toList) (htext : IsTagFree text)
    (rest : List Char) :
    textAfter tag.toList ((bracketed tag).toList ++ (text.toList ++ '<' :: rest)) =
      text.toList := by
  have hpass : ∀ c ∈ tag.toList, (c != '>') = true := by
    intro c hc
    simpa using fun e : c = '>' => htag (e ▸ hc)
  have hpassText : ∀ c ∈ text.toList, (c != '<') = true := by
    intro c hc
    simpa using fun e : c = '<' => htext (e ▸ hc)
  rw [toList_bracketed_append, textAfter, List.takeWhile_append_of_pos hpass,
    List.dropWhile_append_of_pos hpass]
  simp [List.takeWhile_append_of_pos hpassText]

/-! ## The header of a report -/

/-- What stands in the tag of an identifier. -/
def identifierTag : String :=
  Tag.code.name ++ Markup.renderAttributes [(.styleClass, "monospace")]

/-- The elements that are no identifier. -/
def Tag.isNoCode (tag : Tag) : Bool :=
  tag ≠ code

theorem Markup.exists_render_join (between first : Markup) (more : List Markup) :
    ∃ rest, (join between (first :: more)).render = first.render ++ rest := by
  cases more with
  | nil => exact ⟨"", String.append_empty.symm⟩
  | cons second more =>
    refine ⟨between.render ++ (join between (second :: more)).render, ?_⟩
    rw [← String.append_assoc]
    rfl

/-- What stands in a header before the line of its items. -/
def headerTop (recipe : Recipe) (brand : Brand) : Markup :=
  .text "\n    " ++
  .optional (brand.logoText.map fun logo => .styled .div "logo" (.text logo)) ++
  .text "\n    " ++ .plain .h1 (.text recipe.name) ++ .text "\n    "

theorem lacks_headerTop (recipe : Recipe) (brand : Brand) :
    Lacks identifierTag.toList (headerTop recipe brand).render.toList := by
  have huses : (headerTop recipe brand).Uses Tag.isNoCode := by
    simp [headerTop, Tag.isNoCode]
  have hnone := huses.forall_tags (q := "code".toList.isPrefixOf)
    (fun tag h rest => by cases tag <;> first | rfl | cases h) (fun _ _ => rfl)
  have hcode : "code".toList.isPrefixOf identifierTag.toList := by
    rw [identifierTag, String.toList_append]
    rfl
  refine ⟨huses.isClosed, ?_⟩
  rw [huses.readTags_render]
  intro hmem
  rw [hnone _ hmem] at hcode
  cases hcode

/-- What stands in a header before the identifier of the report. -/
def headerFront (recipe : Recipe) (brand : Brand) : String :=
  bracketed "header" ++ (headerTop recipe brand).render ++
    bracketed ("div" ++ Markup.renderAttributes [(.styleClass, "meta")]) ++ bracketed "span" ++
    Text.escape "Report: "

theorem lacks_headerFront (recipe : Recipe) (brand : Brand) :
    Lacks identifierTag.toList (headerFront recipe brand).toList := by
  have hheader : Lacks identifierTag.toList (bracketed "header").toList :=
    .bracketed (by decide) (by decide) (by decide)
  have hline : Lacks identifierTag.toList
      (bracketed ("div" ++ Markup.renderAttributes [(.styleClass, "meta")])).toList :=
    .bracketed (by decide) (by decide) (by decide)
  have hspan : Lacks identifierTag.toList (bracketed "span").toList :=
    .bracketed (by decide) (by decide) (by decide)
  have hlabel := (isInert_escape "Report: ").isTagFree.lacks identifierTag.toList
  simp only [headerFront, String.toList_append]
  exact (((hheader.append (lacks_headerTop recipe brand)).append hline).append hspan).append hlabel

/-- The first identifier in a header is the id of the recipe. -/
theorem exists_render_reportHeader (recipe : Recipe) (document : Json) (brand : Brand) :
    ∃ rest, (reportHeader recipe document brand).render =
      headerFront recipe brand ++ bracketed identifierTag ++ Text.escape recipe.reportId ++
        "<" ++ rest := by
  obtain ⟨more, hmore⟩ := Markup.exists_render_join (.text " " ++ .bullet ++ .text " ")
    (headerItem "Report" (identifier recipe.reportId))
    (((metaText? document "assessment_run_id").map fun run =>
      headerItem "Assessment" (identifier run)).toList ++
    ((metaText? document "created_at").map fun time => headerItem "Created" (.text time)).toList)
  have hitem : (headerItem "Report" (identifier recipe.reportId)).render =
      bracketed "span" ++ (Text.escape "Report: " ++ (bracketed identifierTag ++
        Text.escape recipe.reportId ++ "</" ++ "code" ++ ">")) ++ "</" ++ "span" ++ ">" := rfl
  have hheader : (reportHeader recipe document brand).render =
      bracketed "header" ++ ((headerTop recipe brand).render ++
        (bracketed ("div" ++ Markup.renderAttributes [(.styleClass, "meta")]) ++
          (Markup.join (.text " " ++ .bullet ++ .text " ") (headerItems recipe document)).render ++
          "</" ++ "div" ++ ">") ++ Text.escape "\n") ++ "</" ++ "header" ++ ">" := rfl
  have hitems : headerItems recipe document = headerItem "Report" (identifier recipe.reportId) ::
      (((metaText? document "assessment_run_id").map fun run =>
        headerItem "Assessment" (identifier run)).toList ++
      ((metaText? document "created_at").map fun time =>
        headerItem "Created" (.text time)).toList) := rfl
  have hslash : "</" = "<" ++ "/" := by decide
  rw [hheader, hitems, hmore, hitem, hslash]
  simp only [headerFront, String.append_assoc]
  exact ⟨_, rfl⟩

/-! ## The id of a report -/

namespace Recipe

/-- The id of a recipe is read in its report. -/
theorem textAfter_report (recipe : Recipe) (registry : Registry) (given : RenderOptions)
    (document : Json) :
    textAfter identifierTag.toList (recipe.report registry given document).toList =
      (Text.escape recipe.reportId).toList := by
  obtain ⟨rest, hheader⟩ := exists_render_reportHeader recipe document (recipe.options given).brand
  have hescape : ∀ s, IsTagFree (Text.escape s) := fun s => (isInert_escape s).isTagFree
  obtain ⟨hclosed, htags⟩ := readTags_documentTop (hescape recipe.name)
    (Stylesheet.isTagFree_text (recipe.options given).brand)
  have hlines : identifierTag.toList ∉ lineTags (headLines ++ styleLines ++ bodyLines) := by
    decide +kernel
  have htop : Lacks identifierTag.toList
      (documentTop (Text.escape recipe.name)
        (Stylesheet.text (recipe.options given).brand)).toList :=
    ⟨hclosed, htags ▸ hlines⟩
  have hfront := htop.append (lacks_headerFront recipe (recipe.options given).brand)
  rw [report, documentText_eq, hheader]
  simp only [String.toList_append, List.append_assoc]
  rw [← List.append_assoc, hfront.textAfter_append]
  exact textAfter_bracketed (by decide) (hescape _) _

/-- **Reports of different recipes differ.** Two recipes with one report have one id, over whatever
documents and with whatever options they are rendered. -/
theorem reportId_eq_of_report_eq {recipe other : Recipe} {registry registry' : Registry}
    {given given' : RenderOptions} {document document' : Json}
    (h : recipe.report registry given document = other.report registry' given' document') :
    recipe.reportId = other.reportId := by
  apply Text.escape_injective
  apply String.toList_injective
  rw [← recipe.textAfter_report registry given document, h,
    other.textAfter_report registry' given' document']

end Recipe

end DiagnosticReport
