import DiagnosticReport.Proofs.Report.Stylesheet

/-!
# Comments in stylesheets

The values of a brand cannot end their declarations, but they can open a comment, which then goes on
into the declarations and rules behind it. The stylesheet without its comments still holds the four
declarations and all chapters just if no value leaves a comment open
(`Stylesheet.declarations_kept_iff`).
-/

namespace DiagnosticReport

namespace Style

/-! ## Comments -/

/-- What a text shows outside its comments, each of which goes up to the next closing mark, and
whether it ends within a comment; the text may start within one. -/
def scanComments : Bool → List Char → List Char × Bool
  | inside, [] => ([], inside)
  | false, '/' :: '*' :: rest => scanComments true rest
  | true, '*' :: '/' :: rest => scanComments false rest
  | true, _ :: rest => scanComments true rest
  | false, c :: rest => ((c :: (scanComments false rest).1), (scanComments false rest).2)

/-- A text without its comments. -/
def withoutComments (s : String) : String :=
  String.ofList (scanComments false s.toList).1

/-- No comment is left open at the end of a text. -/
def closesComments (s : String) : Bool :=
  !(scanComments false s.toList).2

/-- Dropping comments leaves some of the characters, in their order. -/
theorem scanComments_sublist (inside : Bool) (cs : List Char) :
    (scanComments inside cs).1.Sublist cs := by
  fun_induction scanComments inside cs with
  | case1 => exact List.Sublist.refl _
  | case2 rest ih => exact (ih.cons _).cons _
  | case3 rest ih => exact (ih.cons _).cons _
  | case4 c rest _ ih => exact ih.cons _
  | case5 c rest _ ih => exact ih.cons_cons _

theorem exists_cons_of_append_eq_cons {cs rest others : List Char} {c d : Char} (hd : c ≠ d)
    (h : cs ++ c :: rest = d :: others) : ∃ more, cs = d :: more := by
  cases cs with
  | nil => exact absurd (List.cons.inj h).1 hd
  | cons e more => exact ⟨more, by rw [(List.cons.inj h).1]⟩

/-- A text can be scanned in two parts, unless a mark may lie across the cut. -/
theorem scanComments_append (inside : Bool) (cs : List Char) {c : Char} (hslash : c ≠ '/')
    (hstar : c ≠ '*') (rest : List Char) :
    scanComments inside (cs ++ c :: rest) =
      ((scanComments inside cs).1 ++ (scanComments (scanComments inside cs).2 (c :: rest)).1,
        (scanComments (scanComments inside cs).2 (c :: rest)).2) := by
  fun_induction scanComments inside cs with
  | case1 inside => rfl
  | case2 cs ih => exact ih
  | case3 cs ih => exact ih
  | case4 d cs hmark ih =>
    rw [List.cons_append, scanComments, ih]
    intro others hd hcs
    obtain ⟨more, hmore⟩ := exists_cons_of_append_eq_cons hslash hcs
    exact hmark more hd hmore
  | case5 d cs hmark ih =>
    rw [List.cons_append, scanComments, ih, List.cons_append]
    intro others hd hcs
    obtain ⟨more, hmore⟩ := exists_cons_of_append_eq_cons hstar hcs
    exact hmark more hd hmore

/-- Nothing begins a comment without a slash. -/
theorem scanComments_append_of_not_mem {cs : List Char} (h : '/' ∉ cs) (rest : List Char) :
    scanComments false (cs ++ rest) =
      (cs ++ (scanComments false rest).1, (scanComments false rest).2) := by
  induction cs with
  | nil => rfl
  | cons c cs ih =>
    obtain ⟨hc, hcs⟩ := List.ne_and_not_mem_of_not_mem_cons h
    rw [List.cons_append, scanComments, ih hcs, List.cons_append]
    exact fun _ hslash => absurd hslash.symm hc

/-- Nothing ends a comment without a slash. -/
theorem scanComments_true_of_not_mem {cs : List Char} (h : '/' ∉ cs) :
    scanComments true cs = ([], true) := by
  induction cs with
  | nil => rfl
  | cons c cs ih =>
    have hcs : '/' ∉ cs := fun hmem => h (List.mem_cons_of_mem _ hmem)
    rw [scanComments, ih hcs]
    rintro others - rfl
    exact hcs List.mem_cons_self

/-! ## Declarations -/

/-- A declaration on a line of its own. -/
def declarationLine (d : String × String) : List Char :=
  "    ".toList ++ (renderDeclaration d).toList ++ ['\n']

/-- A declaration whose value is without its comments. -/
def cleanDeclaration (d : String × String) : String × String :=
  (d.1, withoutComments d.2)

/-- The name of a declaration can open no comment, and neither it nor the value holds a
separator. -/
structure IsSingle (d : String × String) : Prop where
  slash : '/' ∉ d.1.toList
  name : ';' ∉ d.1.toList
  value : ';' ∉ d.2.toList

theorem not_mem_scanComments {c : Char} {cs : List Char} (h : c ∉ cs) (inside : Bool) :
    c ∉ (scanComments inside cs).1 :=
  fun hmem => h ((scanComments_sublist inside cs).subset hmem)

theorem IsSingle.clean {d : String × String} (h : IsSingle d) : IsSingle (cleanDeclaration d) where
  slash := h.slash
  name := h.name
  value := by
    rw [cleanDeclaration, withoutComments, String.toList_ofList]
    exact not_mem_scanComments h.value false

/-- A cleaned value holds no separator. -/
theorem isSingle_value {name : String} (h : '/' ∉ name.toList ∧ ';' ∉ name.toList) (raw : String) :
    IsSingle (name, value raw) where
  slash := h.1
  name := h.2
  value := by simp [value, isUnsafe]

theorem toList_declarationLine (d : String × String) :
    declarationLine d =
      "    ".toList ++ d.1.toList ++ ": ".toList ++ d.2.toList ++ [';', '\n'] := by
  simp [declarationLine, renderDeclaration]

section

variable {d : String × String} (h : IsSingle d)

include h

/-- A declaration has one separator. -/
theorem count_declarationLine : (declarationLine d).count ';' = 1 := by
  simp [toList_declarationLine, List.count_eq_zero_of_not_mem h.name,
    List.count_eq_zero_of_not_mem h.value]

/-- In the line of a declaration, a comment can begin in the value only. -/
theorem scanComments_declarationLine (rest : List Char) :
    (scanComments false (declarationLine d ++ rest)).1 =
      "    ".toList ++ d.1.toList ++ ": ".toList ++ (scanComments false d.2.toList).1 ++
        (scanComments (scanComments false d.2.toList).2 (';' :: '\n' :: rest)).1 := by
  have hname : '/' ∉ "    ".toList ++ d.1.toList ++ ": ".toList := by
    simp [h.slash]
  have hline : declarationLine d ++ rest =
      ("    ".toList ++ d.1.toList ++ ": ".toList) ++ (d.2.toList ++ ';' :: '\n' :: rest) := by
    simp [toList_declarationLine]
  rw [hline, scanComments_append_of_not_mem hname, scanComments_append _ _ (by decide) (by decide)]
  simp only [List.append_assoc]

/-- A declaration whose value closes its comments is kept. -/
theorem scanComments_declarationLine_of_closes (hcloses : closesComments d.2) (rest : List Char) :
    (scanComments false (declarationLine d ++ rest)).1 =
      declarationLine (cleanDeclaration d) ++ (scanComments false rest).1 := by
  have hend : (scanComments false d.2.toList).2 = false := by
    rw [closesComments, Bool.not_eq_true'] at hcloses
    exact hcloses
  rw [scanComments_declarationLine h, hend, toList_declarationLine, cleanDeclaration]
  simp [scanComments, withoutComments]

/-- A declaration whose value leaves a comment open loses its separator. -/
theorem count_scanComments_declarationLine (hopen : ¬ closesComments d.2) (rest : List Char) :
    (scanComments false (declarationLine d ++ rest)).1.count ';' =
      (scanComments true rest).1.count ';' := by
  have hend : (scanComments false d.2.toList).2 = true := by
    rw [closesComments, Bool.not_eq_true', Bool.not_eq_false] at hopen
    exact hopen
  have hvalue : ';' ∉ (scanComments false d.2.toList).1 := not_mem_scanComments h.value false
  rw [scanComments_declarationLine h, hend]
  simp [scanComments, List.count_eq_zero_of_not_mem h.name, List.count_eq_zero_of_not_mem hvalue]

end

/-- Declarations, each on a line of its own. -/
def declarationLines (declarations : List (String × String)) : List Char :=
  declarations.flatMap declarationLine

section

variable {declarations : List (String × String)} (h : ∀ d ∈ declarations, IsSingle d)

include h

theorem count_declarationLines :
    (declarationLines declarations).count ';' = declarations.length := by
  induction declarations with
  | nil => rfl
  | cons d declarations ih =>
    obtain ⟨hd, hrest⟩ := List.forall_mem_cons.1 h
    rw [declarationLines, List.flatMap_cons, List.count_append, count_declarationLine hd,
      List.length_cons, ← declarationLines, ih hrest, Nat.add_comm]

/-- If all values close their comments, all lines are left. -/
theorem scanComments_declarationLines_of_closes (hcloses : ∀ d ∈ declarations, closesComments d.2)
    (rest : List Char) :
    (scanComments false (declarationLines declarations ++ rest)).1 =
      declarationLines (declarations.map cleanDeclaration) ++ (scanComments false rest).1 := by
  induction declarations with
  | nil => rfl
  | cons d declarations ih =>
    obtain ⟨hd, hrest⟩ := List.forall_mem_cons.1 h
    obtain ⟨hdcloses, hrestcloses⟩ := List.forall_mem_cons.1 hcloses
    rw [declarationLines, List.flatMap_cons, List.append_assoc,
      scanComments_declarationLine_of_closes hd hdcloses, ← declarationLines,
      ih hrest hrestcloses, List.map_cons, declarationLines, declarationLines, List.flatMap_cons,
      List.append_assoc]

/-- From outside and from within a comment, no more separators are left than the declarations and
what follows them have. -/
theorem count_scanComments_declarationLines_le {tail : List Char} {n : Nat}
    (htail : ∀ inside, (scanComments inside ('\x7d' :: tail)).1.count ';' ≤ n) (inside : Bool) :
    (scanComments inside (declarationLines declarations ++ '\x7d' :: tail)).1.count ';' ≤
      declarations.length + n := by
  rw [scanComments_append _ _ (by decide) (by decide), List.count_append,
    ← count_declarationLines h]
  exact Nat.add_le_add ((scanComments_sublist _ _).count_le _) (htail _)

/-- A separator is lost if a value leaves a comment open. -/
theorem count_scanComments_declarationLines_lt {tail : List Char} {n : Nat}
    (htail : ∀ inside, (scanComments inside ('\x7d' :: tail)).1.count ';' ≤ n)
    (hopen : ¬ ∀ d ∈ declarations, closesComments d.2) :
    (scanComments false (declarationLines declarations ++ '\x7d' :: tail)).1.count ';' <
      declarations.length + n := by
  induction declarations with
  | nil => exact absurd (List.forall_mem_nil _) hopen
  | cons d declarations ih =>
    obtain ⟨hd, hrest⟩ := List.forall_mem_cons.1 h
    rw [declarationLines, List.flatMap_cons, List.append_assoc, ← declarationLines,
      List.length_cons]
    by_cases hclosed : closesComments d.2
    -- The value leaves no comment open, so a later one does.
    · have hlater : ¬ ∀ d ∈ declarations, closesComments d.2 := fun hall =>
        hopen (List.forall_mem_cons.2 ⟨hclosed, hall⟩)
      have hlt := ih hrest hlater
      rw [scanComments_declarationLine_of_closes hd hclosed, List.count_append,
        count_declarationLine hd.clean]
      omega
    -- The separator of this declaration is lost, and the comment gives none back.
    · have hle := count_scanComments_declarationLines_le hrest htail true
      rw [count_scanComments_declarationLine hd hclosed]
      omega

end

/-! ## Declarations that are kept -/

/-- A text holds declarations in their order and goes on to a given end. -/
def HoldsDeclarations (ending : String) : List (String × String) → String → Prop
  | [], text => ∃ before, text = before ++ ending
  | d :: declarations, text => ∃ before rest, text = before ++ renderDeclaration d ++ rest ∧
      HoldsDeclarations ending declarations rest

theorem HoldsDeclarations.append {ending text : String} {declarations : List (String × String)}
    (h : HoldsDeclarations ending declarations text) (before : String) :
    HoldsDeclarations ending declarations (before ++ text) := by
  cases declarations with
  | nil =>
    obtain ⟨first, rfl⟩ := h
    exact ⟨before ++ first, (String.append_assoc ..).symm⟩
  | cons d declarations =>
    obtain ⟨first, rest, rfl, hrest⟩ := h
    exact ⟨before ++ first, rest, by simp only [String.append_assoc], hrest⟩

theorem holdsDeclarations_declarationLines (ending : String) (declarations : List (String × String))
    {text : String} (h : HoldsDeclarations ending [] text) :
    HoldsDeclarations ending declarations
      (String.ofList (declarationLines declarations) ++ text) := by
  induction declarations with
  | nil => exact h.append _
  | cons d declarations ih =>
    refine ⟨"    ", "\n" ++ (String.ofList (declarationLines declarations) ++ text), ?_,
      ih.append _⟩
    simp [← String.toList_inj, declarationLines, declarationLine]

/-- Each declaration that is left has a separator of its own. -/
theorem HoldsDeclarations.le_count {ending text : String} {declarations : List (String × String)}
    (h : HoldsDeclarations ending declarations text) :
    declarations.length + ending.toList.count ';' ≤ text.toList.count ';' := by
  induction declarations generalizing text with
  | nil =>
    obtain ⟨before, rfl⟩ := h
    simp
  | cons d declarations ih =>
    obtain ⟨before, rest, rfl, hrest⟩ := h
    have hcount := ih hrest
    simp [renderDeclaration]
    omega

end Style

/-! ## Stylesheets -/

namespace Style

/-- The text of chapters starts with a comment. -/
theorem exists_toList_renderChapters (chapter : Chapter) (chapters : List Chapter) :
    ∃ rest, (renderChapters (chapter :: chapters)).toList =
      '\n' :: '/' :: '*' :: ' ' :: rest := by
  simp only [renderChapters, List.map_cons, String.join_cons, Chapter.render,
    String.toList_append, List.append_assoc]
  exact ⟨_, rfl⟩

/-- Chapters are left with the same separators if a comment is open before them. -/
theorem count_scanComments_chapters_le (chapter : Chapter) (chapters : List Chapter)
    (inside : Bool) :
    (scanComments inside
        ('\x7d' :: '\n' :: (renderChapters (chapter :: chapters)).toList)).1.count ';' ≤
      (withoutComments (renderChapters (chapter :: chapters))).toList.count ';' := by
  obtain ⟨rest, hrest⟩ := exists_toList_renderChapters chapter chapters
  rw [withoutComments, String.toList_ofList, hrest]
  cases inside <;> exact Nat.le_of_eq rfl

/-- A stylesheet that starts with declarations for the root, as characters. -/
theorem toList_root (declarations : List (String × String)) (rest : String) :
    ("\n" ++ (block ":root" declarations).render "" ++ rest).toList =
      "\n:root \x7b\n".toList ++
        (declarationLines declarations ++ '\x7d' :: '\n' :: rest.toList) := by
  have hline : declarationLine = fun d =>
      "    ".toList ++ (renderDeclaration d).toList ++ ['\n'] := rfl
  simp [block, Rule.render, declarationLines, List.flatMap_map, hline]

theorem toList_withoutComments_root (declarations : List (String × String)) (rest : String) :
    (withoutComments ("\n" ++ (block ":root" declarations).render "" ++ rest)).toList =
      "\n:root \x7b\n".toList ++ (scanComments false
        (declarationLines declarations ++ '\x7d' :: '\n' :: rest.toList)).1 := by
  rw [withoutComments, String.toList_ofList, toList_root,
    scanComments_append_of_not_mem (by decide)]

/-- If all values close their comments, the rule is left with its cleaned values. -/
theorem withoutComments_root {declarations : List (String × String)}
    (h : ∀ d ∈ declarations, IsSingle d) (hcloses : ∀ d ∈ declarations, closesComments d.2)
    (rest : String) :
    withoutComments ("\n" ++ (block ":root" declarations).render "" ++ rest) =
      "\n" ++ (block ":root" (declarations.map cleanDeclaration)).render "" ++
        withoutComments rest := by
  rw [← String.toList_inj, toList_withoutComments_root, toList_root,
    scanComments_declarationLines_of_closes h hcloses]
  simp [scanComments, withoutComments]

/-- All separators are left only if no value leaves a comment open. -/
theorem closes_of_holdsDeclarations {declarations kept : List (String × String)}
    {ending rest : String} (h : ∀ d ∈ declarations, IsSingle d)
    (hlength : kept.length = declarations.length)
    (hrest : ∀ inside, (scanComments inside ('\x7d' :: '\n' :: rest.toList)).1.count ';' ≤
      ending.toList.count ';')
    (hholds : HoldsDeclarations ending kept
      (withoutComments ("\n" ++ (block ":root" declarations).render "" ++ rest))) :
    ∀ d ∈ declarations, closesComments d.2 := by
  by_contra hopen
  have hprefix : "\n:root \x7b\n".toList.count ';' = 0 := by decide
  have hkept := hholds.le_count
  have hlost := count_scanComments_declarationLines_lt h hrest hopen
  rw [toList_withoutComments_root, List.count_append, hprefix, hlength] at hkept
  omega

/-- A comment that the value of the first declaration leaves open goes on over the other
declarations and the end of the rule into the first comment of what follows. -/
theorem toList_withoutComments_root_of_open {d : String × String}
    {declarations : List (String × String)} {sheet : String} {shown rest : List Char}
    (hd : IsSingle d) (hvalue : scanComments false d.2.toList = (shown, true))
    (hothers : '/' ∉ declarationLines declarations)
    (hsheet : sheet.toList = '\n' :: '/' :: '*' :: ' ' :: rest) :
    (withoutComments ("\n" ++ (block ":root" (d :: declarations)).render "" ++ sheet)).toList =
      "\n:root \x7b\n".toList ++ ("    ".toList ++ d.1.toList ++ ": ".toList ++ shown ++
        (scanComments true rest).1) := by
  have hlost : scanComments true (';' :: '\n' :: (declarationLines declarations ++
      '\x7d' :: '\n' :: sheet.toList)) = scanComments true rest := by
    have hskip : scanComments true (declarationLines declarations ++
        '\x7d' :: '\n' :: sheet.toList) = scanComments true rest := by
      rw [scanComments_append _ _ (by decide) (by decide), scanComments_true_of_not_mem hothers,
        hsheet]
      rfl
    exact hskip
  rw [toList_withoutComments_root, declarationLines, List.flatMap_cons, List.append_assoc,
    scanComments_declarationLine hd, hvalue, ← declarationLines, hlost]

theorem holdsDeclarations_root (declarations : List (String × String)) (rest : String) :
    HoldsDeclarations rest declarations
      ("\n" ++ (block ":root" declarations).render "" ++ rest) := by
  have hroot : "\n" ++ (block ":root" declarations).render "" ++ rest =
      "\n:root \x7b\n" ++ (String.ofList (declarationLines declarations) ++
        ("\x7d\n" ++ rest)) := by
    rw [← String.toList_inj, toList_root]
    simp
  rw [hroot]
  exact (holdsDeclarations_declarationLines rest declarations ⟨"\x7d\n", rfl⟩).append _

end Style

namespace Stylesheet

open Style

/-- Every declaration of the brand is a single one. -/
theorem isSingle_of_mem_brandRule (brand : Brand) :
    ∀ d ∈ (brandRule brand).declarations, IsSingle d := by
  simp only [brandRule, block, List.forall_mem_cons]
  exact ⟨isSingle_value (by decide) _, isSingle_value (by decide) _, isSingle_value (by decide) _,
    isSingle_value (by decide) _, List.forall_mem_nil _⟩

/-- The stylesheet of a brand holds as many declarations only if no value leaves a comment open. -/
theorem closes_of_holdsDeclarations_text {brand : Brand} {kept : List (String × String)}
    (hlength : kept.length = 4)
    (hholds : HoldsDeclarations (withoutComments (renderChapters chapters)) kept
      (withoutComments (text brand))) :
    ∀ d ∈ (brandRule brand).declarations, closesComments d.2 := by
  have hchapters (inside : Bool) :
      (scanComments inside ('\x7d' :: '\n' :: (renderChapters chapters).toList)).1.count ';' ≤
        (withoutComments (renderChapters chapters)).toList.count ';' :=
    count_scanComments_chapters_le resets chapters.tail inside
  exact closes_of_holdsDeclarations (isSingle_of_mem_brandRule brand) hlength hchapters hholds

/-- **Comments.** No tag begins in a stylesheet. Without its comments it holds the four declarations
of the brand and goes on to all chapters just if no value leaves a comment open; then nothing but
the comments is lost. -/
theorem declarations_kept_iff (brand : Brand) :
    let clean (raw : String) : String := withoutComments (value raw)
    let declarations := [("--brand-primary", clean brand.primaryColor),
      ("--brand-accent", clean brand.accentColor), ("--font-heading", clean brand.headingFont),
      ("--font-body", clean brand.bodyFont)]
    let ending := withoutComments (renderChapters chapters)
    let closes := ∀ raw ∈ [brand.primaryColor, brand.accentColor, brand.headingFont,
      brand.bodyFont], closesComments (value raw)
    IsTagFree (text brand) ∧
    (HoldsDeclarations ending declarations (withoutComments (text brand)) ↔ closes) ∧
    (closes → withoutComments (text brand) =
      "\n" ++ (block ":root" declarations).render "" ++ ending) := by
  intro clean declarations ending closes
  have hsingle := isSingle_of_mem_brandRule brand
  have hcloses : closes ↔ ∀ d ∈ (brandRule brand).declarations, closesComments d.2 := by
    simp [closes, brandRule, block]
  have htext : text brand =
      "\n" ++ (block ":root" (brandRule brand).declarations).render "" ++
        renderChapters chapters := by
    rw [text, brandRule]
    rfl
  have hkept (h : closes) : withoutComments (text brand) =
      "\n" ++ (block ":root" declarations).render "" ++ ending := by
    rw [htext, withoutComments_root hsingle (hcloses.1 h)]
    rfl
  refine ⟨isTagFree_text brand, ⟨fun hholds => ?_, fun h => ?_⟩, hkept⟩
  · show closes
    exact hcloses.2 (closes_of_holdsDeclarations_text rfl hholds)
  · rw [hkept h]
    exact holdsDeclarations_root declarations ending

-- A comment may also open where a character is taken from between its two marks.
example : closesComments (value "#212653 /* ink */") ∧ ¬ closesComments (value "#212653 /;*") := by
  decide

/-- A colour with an open comment at its end: the comment goes on up to the first one of the
chapters, over the three other declarations and the end of the rule. -/
theorem declarations_lost_of_open_comment :
    let brand : Brand := { primaryColor := "#212653/*" }
    let declarations := [("--brand-primary", "#212653"), ("--brand-accent", "#969423"),
      ("--font-heading", "'Montserrat', sans-serif"), ("--font-body", "'Open Sans', sans-serif")]
    let ending := withoutComments (renderChapters chapters)
    ¬ HoldsDeclarations ending declarations (withoutComments (text brand)) ∧
      ∃ rest, ending = "\n" ++ rest ∧
        withoutComments (text brand) = "\n:root \x7b\n    --brand-primary: #212653" ++ rest := by
  intro brand declarations ending
  have hopen : ¬ closesComments (value "#212653/*") := by decide
  obtain ⟨rest, hrest⟩ := exists_toList_renderChapters resets chapters.tail
  have hending : (renderChapters chapters).toList = '\n' :: '/' :: '*' :: ' ' :: rest := hrest
  refine ⟨fun hholds => ?_, String.ofList (scanComments true rest).1, ?_, ?_⟩
  · have hcloses := closes_of_holdsDeclarations_text rfl hholds
    exact hopen (hcloses ("--brand-primary", value "#212653/*") List.mem_cons_self)
  · have hshown : (scanComments false (renderChapters chapters).toList).1 =
        '\n' :: (scanComments true rest).1 := by
      rw [hending]
      rfl
    simp [ending, withoutComments, hshown]
  · have hvalue : scanComments false (value "#212653/*").toList = ("#212653".toList, true) := by
      decide
    have hsingle : IsSingle ("--brand-primary", value "#212653/*") :=
      isSingle_value (by decide) _
    have hothers : '/' ∉ declarationLines (brandRule brand).declarations.tail := by
      decide +kernel
    have htext := toList_withoutComments_root_of_open hsingle hvalue hothers hending
    have hroot : text brand = "\n" ++ (block ":root" (("--brand-primary", value "#212653/*") ::
        (brandRule brand).declarations.tail)).render "" ++ renderChapters chapters := by
      rw [text, brandRule]
      rfl
    rw [← String.toList_inj, hroot, htext]
    simp

end Stylesheet

end DiagnosticReport
