import DiagnosticReport.Command.Reports
import DiagnosticReport.Proofs.Files.System
import Mathlib.Data.List.Forall2

/-!
# Names of reports

The name of a report is a name in every folder. It is determined by the stem of the id and by
nothing else, and no temporary name is the name of a report. Recipes that are loaded together have
distinct ids; their stems may still be the same.
-/

namespace DiagnosticReport

/-! ## Stems -/

theorem mem_of_mem_trimDots {cs : List Char} {c : Char} (h : c ∈ trimDots cs) : c ∈ cs := by
  rw [trimDots, List.mem_reverse] at h
  have hfront := (List.dropWhile_sublist _).subset h
  rw [List.mem_reverse] at hfront
  exact (List.dropWhile_sublist _).subset hfront

/-- A stem holds only characters that stay in the name of a file. -/
theorem isFileNameChar_of_mem_fileStem {id : String} {c : Char} (h : c ∈ (fileStem id).toList) :
    isFileNameChar c := by
  unfold fileStem at h
  split at h
  · have hall : "report".toList.all isFileNameChar := by decide
    exact List.all_eq_true.1 hall c h
  · next cs hcs =>
    rw [String.toList_ofList] at h
    obtain ⟨d, -, rfl⟩ := List.mem_map.1 (mem_of_mem_trimDots h)
    split
    · next hd => exact hd
    · rfl

/-- A stem with an ending that is long enough is a name. -/
theorem isName_fileStem_append (id : String) {ending : String} (hlength : 3 ≤ ending.toList.length)
    (hslash : '/' ∉ ending.toList) : FilePath.IsName (fileStem id ++ ending) := by
  have hlonger : ∀ s : String, s.toList.length < 3 → fileStem id ++ ending ≠ s := by
    rintro s hs rfl
    rw [String.toList_append, List.length_append] at hs
    omega
  refine ⟨hlonger _ (by decide), ?_, hlonger _ (by decide), hlonger _ (by decide)⟩
  rw [String.toList_append, List.mem_append, not_or]
  exact ⟨fun h => absurd (isFileNameChar_of_mem_fileStem h) (by decide), hslash⟩

theorem isName_reportName (id : String) : FilePath.IsName (reportName id) :=
  isName_fileStem_append id (by decide) (by decide)

theorem isName_temporaryName (id : String) : FilePath.IsName (temporaryName id) :=
  isName_fileStem_append id (by decide) (by decide)

theorem reportName_inj {id other : String} :
    reportName id = reportName other ↔ fileStem id = fileStem other :=
  ⟨fun h => (String.append_left_inj _).1 h, fun h => congrArg (· ++ ".html") h⟩

theorem temporaryName_inj {id other : String} :
    temporaryName id = temporaryName other ↔ fileStem id = fileStem other :=
  ⟨fun h => (String.append_left_inj _).1 h, fun h => congrArg (· ++ ".html.tmp") h⟩

theorem temporaryName_ne_reportName (id other : String) : temporaryName id ≠ reportName other := by
  intro h
  have hlast := congrArg (fun s : String => s.toList.getLast?) h
  simp [temporaryName, reportName] at hlast

/-! ## Ids -/

namespace FileSystem

/-- Recipes are loaded after others exactly if every file holds one and no two of all of them share
an id; they come in the order of their files. -/
theorem loadRecipesAfter_eq_ok {fs : FileSystem} {loaded : List (String × String)}
    {paths : List String} {recipes : List Recipe} :
    fs.loadRecipesAfter loaded paths = .ok recipes ↔
      List.Forall₂ (fun path recipe => fs.loadRecipe path = .ok recipe) paths recipes ∧
        (∀ recipe ∈ recipes, loaded.lookup recipe.reportId = none) ∧
          (recipes.map Recipe.reportId).Nodup := by
  induction paths generalizing loaded recipes with
  | nil =>
    rw [List.forall₂_nil_left_iff]
    constructor
    · intro h
      obtain rfl := Except.ok.inj h
      exact ⟨rfl, List.forall_mem_nil _, .nil⟩
    · rintro ⟨rfl, -, -⟩
      rfl
  | cons path paths ih =>
    have hnew {recipe : Recipe} {others : List Recipe} :
        (∀ other ∈ others, ((recipe.reportId, path) :: loaded).lookup other.reportId = none) ↔
          recipe.reportId ∉ others.map Recipe.reportId ∧
            ∀ other ∈ others, loaded.lookup other.reportId = none := by
      simp only [List.lookup_eq_none_iff, List.forall_mem_cons, bne_iff_ne, List.mem_map]
      grind
    rw [loadRecipesAfter, except_bind_eq_ok]
    constructor
    · rintro ⟨recipe, hrecipe, h⟩
      cases hlookup : loaded.lookup recipe.reportId with
      | some first => rw [hlookup] at h; cases h
      | none =>
        rw [hlookup, except_bind_eq_ok] at h
        obtain ⟨others, hothers, h⟩ := h
        obtain rfl := Except.ok.inj h
        obtain ⟨hfiles, hlookups, hnodup⟩ := ih.1 hothers
        obtain ⟨hid, hlookups⟩ := hnew.1 hlookups
        exact ⟨.cons (except_mapError_eq_ok.1 hrecipe) hfiles,
          List.forall_mem_cons.2 ⟨hlookup, hlookups⟩, List.nodup_cons.2 ⟨hid, hnodup⟩⟩
    · rintro ⟨hfiles, hlookups, hnodup⟩
      obtain ⟨recipe, others, hrecipe, hrest, rfl⟩ := List.forall₂_cons_left_iff.1 hfiles
      obtain ⟨hlookup, hlookups⟩ := List.forall_mem_cons.1 hlookups
      obtain ⟨hid, hnodup⟩ := List.nodup_cons.1 hnodup
      have hothers := ih.2 ⟨hrest, hnew.2 ⟨hid, hlookups⟩, hnodup⟩
      refine ⟨recipe, except_mapError_eq_ok.2 hrecipe, ?_⟩
      rw [hlookup, except_bind_eq_ok]
      exact ⟨others, hothers, rfl⟩

/-- Recipes are loaded exactly if every file holds one and no two of them share an id; they come in
the order of their files. -/
theorem loadRecipes_eq_ok {fs : FileSystem} {paths : List String} {recipes : List Recipe} :
    fs.loadRecipes paths = .ok recipes ↔
      List.Forall₂ (fun path recipe => fs.loadRecipe path = .ok recipe) paths recipes ∧
        (recipes.map Recipe.reportId).Nodup := by
  rw [loadRecipes, loadRecipesAfter_eq_ok]
  exact and_congr_right fun _ => and_iff_right fun _ _ => rfl

/-- Recipes that are loaded together have distinct ids. -/
theorem nodup_reportId_of_loadRecipes {fs : FileSystem} {paths : List String}
    {recipes : List Recipe} (h : fs.loadRecipes paths = .ok recipes) :
    (recipes.map Recipe.reportId).Nodup :=
  (loadRecipes_eq_ok.1 h).2

end FileSystem

end DiagnosticReport
