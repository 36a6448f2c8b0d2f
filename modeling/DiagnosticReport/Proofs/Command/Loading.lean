import DiagnosticReport.Command.Run
import DiagnosticReport.Proofs.Command.Discovery
import DiagnosticReport.Proofs.Command.Names

/-!
# Everything is loaded before anything is written

A request to render names a configuration, a document and recipes. `FileSystem.Rejects` lists what
can be wrong with them; these are all the reasons for which they are not loaded
(`FileSystem.not_rejects_iff`). A request that is rejected fails and leaves the file system as it
is, whichever of its inputs is the bad one.
-/

namespace DiagnosticReport

namespace FileSystem

/-! ## What a request needs -/

/-- The paths of the recipes of a request: those that it names, then those found in its folder. -/
def recipePaths (fs : FileSystem) (settings : Settings) (request : RenderRequest) : List String :=
  request.recipes ++ request.recipesFolder.elim [] fun folder =>
    (fs.discoverRecipes settings folder).toOption.getD []

/-- Something that a request to render needs is missing or not valid. -/
inductive Rejects (fs : FileSystem) (request : RenderRequest) : Prop
  /-- The working folder is gone. -/
  | working (h : ¬ fs.root.HasFolder fs.working)
  /-- The configuration is not loaded, or its settings are not valid. -/
  | settings (h : ∀ settings, fs.loadSettings fs.workingPath request.config ≠ .ok settings)
  /-- The document is not loaded. -/
  | document (h : ∀ document, fs.loadDocument request.document ≠ .ok document)
  /-- There is no folder where recipes are to be found. -/
  | folder {folder : String} (hfolder : request.recipesFolder = some folder)
      (h : fs.folder? folder = none)
  /-- That folder, or one of those below it that are searched, is not listed. -/
  | unlisted {folder : String} (hfolder : request.recipesFolder = some folder) {node : Node}
      (hnode : fs.folder? folder = some node) (h : ¬ (searchable folder node).IsListed)
  /-- No recipe is named, and none is found. -/
  | noRecipes {settings : Settings}
      (hsettings : fs.loadSettings fs.workingPath request.config = .ok settings)
      (h : fs.recipePaths settings request = [])
  /-- A recipe is not loaded. -/
  | recipe {settings : Settings}
      (hsettings : fs.loadSettings fs.workingPath request.config = .ok settings)
      {path : String} (hpath : path ∈ fs.recipePaths settings request)
      (h : ∀ recipe, fs.loadRecipe path ≠ .ok recipe)
  /-- Two recipes share an id. -/
  | sharedId {settings : Settings}
      (hsettings : fs.loadSettings fs.workingPath request.config = .ok settings)
      {path other : String} (hpaths : [path, other].Sublist (fs.recipePaths settings request))
      {first second : Recipe} (hfirst : fs.loadRecipe path = .ok first)
      (hsecond : fs.loadRecipe other = .ok second) (h : first.reportId = second.reportId)

section

variable {fs : FileSystem} {settings : Settings} {request : RenderRequest} {paths : List String}

/-! ## Recipes -/

/-- The recipes of two files, if both hold one, have distinct ids. -/
def HaveDistinctIds (fs : FileSystem) (path other : String) : Prop :=
  ∀ first, fs.loadRecipe path = .ok first → ∀ second, fs.loadRecipe other = .ok second →
    first.reportId ≠ second.reportId

theorem forall_recipe_iff {path : String} {recipe : Recipe} (h : fs.loadRecipe path = .ok recipe)
    {p : Recipe → Prop} : (∀ other, fs.loadRecipe path = .ok other → p other) ↔ p recipe := by
  simp [h]

theorem forall_recipes_iff {recipes : List Recipe}
    (h : List.Forall₂ (fun path recipe => fs.loadRecipe path = .ok recipe) paths recipes)
    {p : Recipe → Prop} :
    (∀ path ∈ paths, ∀ recipe, fs.loadRecipe path = .ok recipe → p recipe) ↔
      ∀ recipe ∈ recipes, p recipe := by
  induction h with
  | nil => exact iff_of_true (List.forall_mem_nil _) (List.forall_mem_nil _)
  | cons hrecipe _ ih =>
    rw [List.forall_mem_cons, List.forall_mem_cons, ih, forall_recipe_iff hrecipe]

theorem nodup_reportId_iff {recipes : List Recipe}
    (h : List.Forall₂ (fun path recipe => fs.loadRecipe path = .ok recipe) paths recipes) :
    (recipes.map Recipe.reportId).Nodup ↔ paths.Pairwise fs.HaveDistinctIds := by
  induction h with
  | nil => exact iff_of_true .nil .nil
  | @cons path recipe paths recipes hrecipe hrest ih =>
    have hfirst (other : String) : fs.HaveDistinctIds path other ↔
        ∀ second, fs.loadRecipe other = .ok second → recipe.reportId ≠ second.reportId :=
      forall_recipe_iff hrecipe
    have hnew : (∀ other ∈ recipes, recipe.reportId ≠ other.reportId) ↔
        recipe.reportId ∉ recipes.map Recipe.reportId := by
      simp [eq_comm]
    simp only [List.map_cons, List.nodup_cons, List.pairwise_cons, ih, hfirst,
      forall_recipes_iff hrest, hnew]

/-- Recipes are loaded exactly if every file holds one and no two of them share an id. -/
theorem exists_loadRecipes_eq_ok :
    (∃ recipes, fs.loadRecipes paths = .ok recipes) ↔
      (∀ path ∈ paths, ∃ recipe, fs.loadRecipe path = .ok recipe) ∧
        paths.Pairwise fs.HaveDistinctIds := by
  have hfiles : (∀ path ∈ paths, ∃ recipe, fs.loadRecipe path = .ok recipe) ↔ ∃ recipes,
      List.Forall₂ (fun path recipe => fs.loadRecipe path = .ok recipe) paths recipes := by
    induction paths with
    | nil => exact iff_of_true (List.forall_mem_nil _) ⟨[], .nil⟩
    | cons path paths ih =>
      rw [List.forall_mem_cons, ih]
      simp [List.forall₂_cons_left_iff]
  rw [hfiles]
  constructor
  · rintro ⟨recipes, h⟩
    obtain ⟨hfiles, hnodup⟩ := loadRecipes_eq_ok.1 h
    exact ⟨⟨recipes, hfiles⟩, (nodup_reportId_iff hfiles).1 hnodup⟩
  · rintro ⟨⟨recipes, hfiles⟩, hdistinct⟩
    exact ⟨recipes, loadRecipes_eq_ok.2 ⟨hfiles, (nodup_reportId_iff hfiles).2 hdistinct⟩⟩

/-! ## Inputs -/

/-- What the recipes of some paths come to beside a document. -/
theorem loadRecipes_bind_eq_ok {document : Json} {inputs : RenderInputs} :
    (if paths.isEmpty then .error .noRecipes
      else do return ⟨document, ← fs.loadRecipes paths⟩ : Except CommandError RenderInputs) =
        .ok inputs ↔
      document = inputs.document ∧ paths ≠ [] ∧ fs.loadRecipes paths = .ok inputs.recipes := by
  cases paths with
  | nil => simp
  | cons path paths =>
    rw [if_neg (by simp), except_bind_eq_ok]
    constructor
    · rintro ⟨recipes, hrecipes, h⟩
      obtain rfl := Except.ok.inj h
      exact ⟨rfl, List.cons_ne_nil _ _, hrecipes⟩
    · rintro ⟨rfl, -, hrecipes⟩
      exact ⟨inputs.recipes, hrecipes, rfl⟩

/-- The inputs of a request are loaded exactly if the document is, recipes are looked for without an
error if a folder is named, and there are recipes all of which are loaded. -/
theorem loadInputs_eq_ok {inputs : RenderInputs} :
    fs.loadInputs settings request = .ok inputs ↔
      fs.loadDocument request.document = .ok inputs.document ∧
        (∀ folder, request.recipesFolder = some folder →
          ∃ found, fs.discoverRecipes settings folder = .ok found) ∧
          fs.recipePaths settings request ≠ [] ∧
            fs.loadRecipes (fs.recipePaths settings request) = .ok inputs.recipes := by
  have hdocument (found : List String) :
      (∃ document, fs.loadDocument request.document = .ok document ∧ document = inputs.document ∧
        request.recipes ++ found ≠ [] ∧
          fs.loadRecipes (request.recipes ++ found) = .ok inputs.recipes) ↔
        fs.loadDocument request.document = .ok inputs.document ∧ request.recipes ++ found ≠ [] ∧
          fs.loadRecipes (request.recipes ++ found) = .ok inputs.recipes := by
    grind
  unfold loadInputs recipePaths
  simp only [except_bind_eq_ok, except_mapError_eq_ok]
  cases request.recipesFolder with
  | none =>
    simp only [except_bind_eq_ok, Except.ok.injEq, exists_eq_left', loadRecipes_bind_eq_ok,
      hdocument]
    simp
  | some folder =>
    cases hfound : fs.discoverRecipes settings folder with
    | error error => simp [hfound, except_bind_eq_ok]
    | ok found =>
      simp only [hfound, except_bind_eq_ok, Except.ok.injEq, exists_eq_left',
        loadRecipes_bind_eq_ok, hdocument]
      simp [hfound, Except.toOption]

/-- A request that is not rejected has its settings and its inputs loaded. -/
theorem exists_loadInputs_of_not_rejects (h : ¬ fs.Rejects request) :
    ∃ settings inputs, fs.loadSettings fs.workingPath request.config = .ok settings ∧
      fs.loadInputs settings request = .ok inputs := by
  have hsettings : ∃ settings, fs.loadSettings fs.workingPath request.config = .ok settings :=
    not_forall_not.1 fun hnone => h (.settings hnone)
  have hdocument : ∃ document, fs.loadDocument request.document = .ok document :=
    not_forall_not.1 fun hnone => h (.document hnone)
  obtain ⟨settings, hsettings⟩ := hsettings
  obtain ⟨document, hdocument⟩ := hdocument
  have hrecipes : ∃ recipes, fs.loadRecipes (fs.recipePaths settings request) = .ok recipes := by
    rw [exists_loadRecipes_eq_ok, List.pairwise_iff_forall_sublist]
    refine ⟨fun path hpath => ?_, fun hpaths first hfirst second hsecond hid => ?_⟩
    · exact not_forall_not.1 fun hnone => h (.recipe hsettings hpath hnone)
    · exact h (.sharedId hsettings hpaths hfirst hsecond hid)
  obtain ⟨recipes, hrecipes⟩ := hrecipes
  refine ⟨settings, ⟨document, recipes⟩, hsettings, loadInputs_eq_ok.2 ⟨hdocument, ?_, ?_, ?_⟩⟩
  · intro folder hfolder
    obtain ⟨node, hnode⟩ := Option.ne_none_iff_exists'.1 fun hnone => h (.folder hfolder hnone)
    have hlisted := not_not.1 fun hunlisted => h (.unlisted hfolder hnode hunlisted)
    exact exists_discoverRecipes_eq_ok.2 ⟨node, hnode, hlisted⟩
  · exact fun hnone => h (.noRecipes hsettings hnone)
  · exact hrecipes

/-- A request is rejected exactly if the working folder is gone, or its settings or its inputs are
not loaded. -/
theorem not_rejects_iff :
    ¬ fs.Rejects request ↔ fs.root.HasFolder fs.working ∧
      ∃ settings inputs, fs.loadSettings fs.workingPath request.config = .ok settings ∧
        fs.loadInputs settings request = .ok inputs := by
  refine ⟨fun h => ⟨not_not.1 fun hgone => h (.working hgone),
    exists_loadInputs_of_not_rejects h⟩, ?_⟩
  rintro ⟨hworking, settings, inputs, hsettings, hinputs⟩ hrejects
  obtain ⟨hdocument, hfolder, hpaths, hrecipes⟩ := loadInputs_eq_ok.1 hinputs
  obtain ⟨hfiles, hdistinct⟩ := exists_loadRecipes_eq_ok.1 ⟨_, hrecipes⟩
  have hsame {other : Settings}
      (h : fs.loadSettings fs.workingPath request.config = .ok other) : other = settings :=
    Except.ok.inj (h.symm.trans hsettings)
  have hlisted {folder : String} (hnamed : request.recipesFolder = some folder) :
      ∃ node, fs.folder? folder = some node ∧ (searchable folder node).IsListed :=
    exists_discoverRecipes_eq_ok.1 (hfolder folder hnamed)
  cases hrejects with
  | working h => exact h hworking
  | settings h => exact h settings hsettings
  | document h => exact h inputs.document hdocument
  | folder hnamed h =>
    obtain ⟨node, hnode, -⟩ := hlisted hnamed
    cases hnode.symm.trans h
  | unlisted hnamed hnode h =>
    obtain ⟨other, hother, hcomplete⟩ := hlisted hnamed
    cases hnode.symm.trans hother
    exact h hcomplete
  | noRecipes hother h =>
    cases hsame hother
    exact hpaths h
  | recipe hother hpath h =>
    cases hsame hother
    obtain ⟨recipe, hrecipe⟩ := hfiles _ hpath
    exact h recipe hrecipe
  | sharedId hother hsub hfirst hsecond h =>
    cases hsame hother
    exact List.pairwise_iff_forall_sublist.1 hdistinct hsub _ hfirst _ hsecond h

/-- A document that is loaded comes from a file that is read. -/
theorem exists_read_of_loadDocument {path : String} {document : Json}
    (h : fs.loadDocument path = .ok document) : ∃ text, fs.read path = .ok text := by
  obtain ⟨text, htext, -⟩ := except_bind_eq_ok.1 h
  exact ⟨text, except_mapError_eq_ok.1 htext⟩

end

end FileSystem

/-! ## Commands -/

namespace Command

/-- A command to render whose settings or inputs are not loaded is stopped where it stands. -/
theorem exists_runRender_eq_stopped {fs : FileSystem} {request : RenderRequest}
    (h : fs.Rejects request) :
    ∃ error notes, runRender fs request = .stopped fs error notes := by
  rw [runRender, inWorkingFolder]
  cases hfolder : fs.currentFolder with
  | error reason => exact ⟨_, _, rfl⟩
  | ok folder =>
    obtain ⟨hworking, hpath⟩ := except_check_eq_ok.1 hfolder
    obtain rfl := Except.ok.inj hpath
    have hworking := FileSystem.checkFolder_eq_ok.1 hworking
    cases hsettings : fs.loadSettings fs.workingPath request.config with
    | error reason => exact ⟨_, _, by simp only [hsettings]; rfl⟩
    | ok settings =>
      simp only [hsettings, renderWith]
      cases hinputs : fs.loadInputs settings request with
      | error error => exact ⟨_, _, rfl⟩
      | ok inputs =>
        exact absurd h (FileSystem.not_rejects_iff.2 ⟨hworking, _, _, hsettings, hinputs⟩)

/-- **Rendering is all or nothing as to its inputs.** If anything that a request needs is missing,
not read or not valid, the command fails, tells no report and leaves the file system as it was; if
nothing is, all inputs are loaded. Recipes are loaded exactly if every file holds one and no two of
them share an id, and then in the order of their files. -/
theorem run_render_of_rejects (fs : FileSystem) (request : RenderRequest) :
    (fs.Rejects request →
      (run fs (.render request)).exitCode = 1 ∧ (run fs (.render request)).output = [] ∧
        (run fs (.render request)).files = fs) ∧
    (¬ fs.Rejects request ↔ fs.root.HasFolder fs.working ∧
      ∃ settings inputs, fs.loadSettings fs.workingPath request.config = .ok settings ∧
        fs.loadInputs settings request = .ok inputs) ∧
    ∀ paths recipes, fs.loadRecipes paths = .ok recipes ↔
      List.Forall₂ (fun path recipe => fs.loadRecipe path = .ok recipe) paths recipes ∧
        (recipes.map Recipe.reportId).Nodup := by
  refine ⟨fun h => ?_, FileSystem.not_rejects_iff, fun _ _ => FileSystem.loadRecipes_eq_ok⟩
  obtain ⟨error, notes, hrun⟩ := exists_runRender_eq_stopped h
  rw [run, hrun]
  exact ⟨rfl, rfl, rfl⟩

/-- Two recipes of one id, a document that is not UTF-8, and a folder of recipes with a folder in it
that is not listed: the report of an earlier command stays as it is. -/
theorem run_render_of_bad_inputs :
    let recipe := "\x7b\"report_id\":\"a\",\"name\":\"Report\",\"sections\":[]\x7d"
    let hidden : Node := .folder [] { fault := some (.refused .denied) }
    let fs : FileSystem := ⟨.folder [("idm.json", .file "\x7b\x7d"),
      ("scan.json", .file (.unreadable .notText)), ("first.json", .file recipe),
      ("second.json", .file recipe), ("recipes", .folder [("hidden", hidden)]),
      ("out", .folder [("a.html", .file "Report of before")])], []⟩
    let sharedId : RenderRequest :=
      { document := "idm.json", recipes := ["first.json", "second.json"], outputFolder := "out" }
    let notText : RenderRequest :=
      { document := "scan.json", recipes := ["first.json"], outputFolder := "out" }
    let unlisted : RenderRequest :=
      { document := "idm.json", recipes := ["first.json"], recipesFolder := some "recipes",
        outputFolder := "out" }
    ∀ request ∈ [sharedId, notText, unlisted], fs.Rejects request ∧
      (run fs (.render request)).exitCode = 1 ∧ (run fs (.render request)).files = fs := by
  intro recipe hidden fs sharedId notText unlisted
  have hsharedId : fs.Rejects sharedId := by
    have hvalid : (fs.loadSettings fs.workingPath none).toOption.isSome := by decide +kernel
    have hids (path : String) (hpath : path ∈ sharedId.recipes) :
        ∃ recipe, fs.loadRecipe path = .ok recipe ∧ recipe.reportId = "a" := by
      have hid : ∀ path ∈ sharedId.recipes,
          (fs.loadRecipe path).toOption.map Recipe.reportId = some "a" := by decide +kernel
      obtain ⟨recipe, hrecipe, hid⟩ := Option.map_eq_some_iff.1 (hid path hpath)
      exact ⟨recipe, except_toOption_eq_some.1 hrecipe, hid⟩
    obtain ⟨settings, hsettings⟩ := Option.isSome_iff_exists.1 hvalid
    obtain ⟨first, hfirst, hfirstId⟩ := hids "first.json" (by simp [sharedId])
    obtain ⟨second, hsecond, hsecondId⟩ := hids "second.json" (by simp [sharedId])
    exact .sharedId (except_toOption_eq_some.1 hsettings) (.refl _) hfirst hsecond
      (hfirstId.trans hsecondId.symm)
  have hnotText : fs.Rejects notText := by
    refine .document fun document h => ?_
    obtain ⟨text, htext⟩ := FileSystem.exists_read_of_loadDocument h
    have hread : fs.read "scan.json" = .error .notText := by decide +kernel
    cases hread.symm.trans htext
  have hunlisted : fs.Rejects unlisted := by
    have hnode : fs.folder? "recipes" = some (.folder [("hidden", hidden)]) := rfl
    refine .unlisted rfl hnode fun hlisted => ?_
    have hsearched : FileSystem.searchable "recipes" (.folder [("hidden", hidden)]) =
        .folder [("hidden", hidden)] := rfl
    rw [hsearched] at hlisted
    cases hlisted with
    | folder _ below =>
      cases below _ (List.mem_singleton_self _) with
      | folder complete _ => cases complete
  have hrejects : ∀ request ∈ [sharedId, notText, unlisted], fs.Rejects request := by
    simp only [List.forall_mem_cons]
    exact ⟨hsharedId, hnotText, hunlisted, List.forall_mem_nil _⟩
  intro request hrequest
  have h := hrejects request hrequest
  obtain ⟨hcode, -, hfiles⟩ := (run_render_of_rejects fs request).1 h
  exact ⟨h, hcode, hfiles⟩

end Command

end DiagnosticReport
