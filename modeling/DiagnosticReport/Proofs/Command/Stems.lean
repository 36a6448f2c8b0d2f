import DiagnosticReport.Proofs.Command.Schedules
import DiagnosticReport.Proofs.Report.Identity

/-!
# When every recipe has its report

Recipes that are loaded together have distinct ids, but the files of their reports are named by the
stems of the ids. If the stems are distinct, every file holds its report in the end. If two recipes
have one stem that is impossible, since both reports have one path and their texts differ.
-/

namespace DiagnosticReport

/-! ## Loaded recipes -/

/-- The reports of recipes over a document. -/
def reportFiles (recipes : List Recipe) (options : RenderOptions) (document : Json) :
    List ReportFile :=
  recipes.map fun recipe => ⟨recipe.reportId, recipe.report .builtin options document⟩

namespace Writers

section

variable {loaded files : FileSystem} {paths : List String} {recipes : List Recipe}
  {options : RenderOptions} {document : Json} {folder : String} {w : Writers}

theorem stems_reportFiles (recipes : List Recipe) (options : RenderOptions) (document : Json) :
    ((reportFiles recipes options document).map fun report => fileStem report.id) =
      recipes.map fun recipe => fileStem recipe.reportId := by
  simp [reportFiles, Function.comp_def]

theorem stems_eq (recipes : List Recipe) :
    (recipes.map fun recipe => fileStem recipe.reportId) =
      (recipes.map Recipe.reportId).map fileStem := by
  simp [Function.comp_def]

/-- The paths of reports are distinct exactly if the stems are. -/
theorem nodup_paths_iff (recipes : List Recipe) (folder : String) :
    (recipes.map fun recipe => FilePath.join folder (reportName recipe.reportId)).Nodup ↔
      (recipes.map fun recipe => fileStem recipe.reportId).Nodup := by
  have hpath : (fun stem => FilePath.join folder (stem ++ ".html")).Injective :=
    fun _ _ h => (String.append_left_inj _).1 (FilePath.join_injective h)
  have hmap := List.nodup_map_iff hpath (l := recipes.map fun recipe => fileStem recipe.reportId)
  rwa [List.map_map] at hmap

/-- If every report is read back from its file, no two recipes have one stem: their file would hold
the reports of both, and with them their ids. -/
theorem nodup_stems_of_read (hload : loaded.loadRecipes paths = .ok recipes)
    (hread : ∀ recipe ∈ recipes, files.read (FilePath.join folder (reportName recipe.reportId)) =
      .ok (recipe.report .builtin options document)) :
    (recipes.map fun recipe => fileStem recipe.reportId).Nodup := by
  have hids := FileSystem.nodup_reportId_of_loadRecipes hload
  rw [List.nodup_map_iff_inj_on hids.of_map]
  intro recipe hrecipe other hother hstem
  have hfile := hread recipe hrecipe
  rw [reportName_inj.2 hstem, hread other hother] at hfile
  have hid := Recipe.reportId_eq_of_report_eq (Except.ok.inj hfile)
  exact (List.inj_on_of_nodup_map hids hother hrecipe hid).symm

/-- **Every report has its file exactly if the stems are distinct.** Let recipes be loaded together
and their reports be written side by side, in any order of the changes. The paths of the reports are
distinct exactly if the stems of the ids are, and exactly then every report is read back from its
path when all writers are done. -/
theorem reports_kept_iff (hload : loaded.loadRecipes paths = .ok recipes)
    (hruns : Runs (start files folder (reportFiles recipes options document)) w)
    (hdone : w.Done) :
    ((recipes.map fun recipe => FilePath.join folder (reportName recipe.reportId)).Nodup ↔
      (recipes.map fun recipe => fileStem recipe.reportId).Nodup) ∧
    ((∀ recipe ∈ recipes, w.files.read (FilePath.join folder (reportName recipe.reportId)) =
        .ok (recipe.report .builtin options document)) ↔
      (recipes.map fun recipe => fileStem recipe.reportId).Nodup) := by
  refine ⟨nodup_paths_iff recipes folder, nodup_stems_of_read hload, ?_⟩
  intro hstems recipe hrecipe
  rw [← stems_reportFiles recipes options document] at hstems
  have hreport : (⟨recipe.reportId, recipe.report .builtin options document⟩ : ReportFile) ∈
      reportFiles recipes options document := List.mem_map_of_mem hrecipe
  have hread := hruns.read_of_done hdone hstems hreport
  exact hread

/-- Reports that are rendered one after the other have been written by writers that are done. -/
theorem exists_runs_of_writeReports {later : FileSystem} {reportPaths : List String}
    (h : writeReports ⟨document, recipes⟩ options folder files = (.ok reportPaths, later)) :
    ∃ w, Runs (start files folder (reportFiles recipes options document)) w ∧ w.Done ∧
      w.files = later := by
  have hmap : (reportFiles recipes options document).mapM
      (fun report => writeReport folder report.id report.text) =
        writeReports ⟨document, recipes⟩ options folder := by
    rw [reportFiles, List.mapM_map]
    rfl
  rw [← hmap] at h
  refine ⟨_, runs_of_mapM_writeReport h [], ?_, rfl⟩
  intro writer hwriter
  obtain ⟨report, -, rfl⟩ := List.mem_map.1 hwriter
  rfl

end

/-! ## Two recipes -/

/-- A working folder with two recipes of the given ids. -/
def twoRecipes (first second : String) : FileSystem :=
  let recipe (id : String) :=
    "\x7b\"report_id\":\"" ++ id ++ "\",\"name\":\"Report\",\"sections\":[]\x7d"
  ⟨.folder [("first.json", .file (recipe first)), ("second.json", .file (recipe second))], []⟩

/-- The ids of recipes and the paths of their reports, if these can be rendered. -/
def renderedPaths (fs : FileSystem) (paths : List String) : Option (List String × List String) :=
  match fs.loadRecipes paths with
  | .ok recipes =>
    (writeReports ⟨.object [], recipes⟩ {} "out" fs).1.toOption.map
      (recipes.map Recipe.reportId, ·)
  | .error _ => none

theorem renderedPaths_eq_some {fs : FileSystem} {paths ids reportPaths : List String}
    (h : renderedPaths fs paths = some (ids, reportPaths)) :
    ∃ recipes later, fs.loadRecipes paths = .ok recipes ∧ recipes.map Recipe.reportId = ids ∧
      writeReports ⟨.object [], recipes⟩ {} "out" fs = (.ok reportPaths, later) := by
  unfold renderedPaths at h
  split at h
  · next recipes hload =>
    obtain ⟨written, hwritten, hpair⟩ := Option.map_eq_some_iff.1 h
    cases hpair
    cases hresult : writeReports ⟨.object [], recipes⟩ {} "out" fs with
    | mk result later =>
      rw [hresult] at hwritten
      cases result with
      | error reason => cases hwritten
      | ok paths => exact ⟨recipes, later, hload, rfl, by rw [hresult, ← Option.some.inj hwritten]⟩
  · cases h

/-- The reports of two recipes with plain ids are written, and both are kept. -/
theorem reports_kept_of_plain_ids : ∃ recipes w,
    (twoRecipes "a" "b").loadRecipes ["first.json", "second.json"] = .ok recipes ∧
      Runs (start (twoRecipes "a" "b") "out" (reportFiles recipes {} (.object []))) w ∧ w.Done ∧
      ∀ recipe ∈ recipes, w.files.read (FilePath.join "out" (reportName recipe.reportId)) =
        .ok (recipe.report .builtin {} (.object [])) := by
  have hrendered : renderedPaths (twoRecipes "a" "b") ["first.json", "second.json"] =
      some (["a", "b"], ["out/a.html", "out/b.html"]) := by decide +kernel
  obtain ⟨recipes, later, hload, hids, hwritten⟩ := renderedPaths_eq_some hrendered
  obtain ⟨w, hruns, hdone, -⟩ := exists_runs_of_writeReports hwritten
  have hstems : (recipes.map fun recipe => fileStem recipe.reportId).Nodup := by
    rw [stems_eq, hids]
    decide +kernel
  exact ⟨recipes, w, hload, hruns, hdone, (reports_kept_iff hload hruns hdone).2.2 hstems⟩

/-- Two recipes are loaded whose ids differ and whose stems do not: both reports are written to one
path, and one of them is lost. -/
theorem report_lost_of_same_stem : ∃ recipes later,
    (twoRecipes "a b" "a_b").loadRecipes ["first.json", "second.json"] = .ok recipes ∧
      writeReports ⟨.object [], recipes⟩ {} "out" (twoRecipes "a b" "a_b") =
        (.ok ["out/a_b.html", "out/a_b.html"], later) ∧
      ¬∀ recipe ∈ recipes, later.read (FilePath.join "out" (reportName recipe.reportId)) =
        .ok (recipe.report .builtin {} (.object [])) := by
  have hrendered : renderedPaths (twoRecipes "a b" "a_b") ["first.json", "second.json"] =
      some (["a b", "a_b"], ["out/a_b.html", "out/a_b.html"]) := by decide +kernel
  obtain ⟨recipes, later, hload, hids, hwritten⟩ := renderedPaths_eq_some hrendered
  refine ⟨recipes, later, hload, hwritten, fun hread => ?_⟩
  have hstems := nodup_stems_of_read hload hread
  rw [stems_eq, hids] at hstems
  revert hstems
  decide +kernel

end Writers

end DiagnosticReport
