import DiagnosticReport.Command.Discovery
import DiagnosticReport.Proofs.Files.Listing
import DiagnosticReport.Proofs.Files.System

/-!
# What a search for recipes finds

Each step of a search keeps what it has found or can still find (`Search.reach`), up to order. So a
search that is not stopped finds the files below the folder that the settings include, and the order
in which folders list their entries is lost when the files are put in order. It is stopped exactly
if one of the folders is not listed.
-/

namespace DiagnosticReport

/-! ## The order of names -/

theorem namesInOrder_iff {names others : List String} :
    namesInOrder names others ↔ names < others ∨ names = others := by
  induction names generalizing others with
  | nil =>
    cases others with
    | nil => simp [namesInOrder]
    | cons b bs => simp [namesInOrder]
  | cons a as ih =>
    cases others with
    | nil => simp [namesInOrder]
    | cons b bs =>
      rw [namesInOrder, List.cons_lt_cons_iff, List.cons.injEq]
      split
      · next heq =>
        subst heq
        simp [ih]
      · next hne => simp [hne]

/-- The order of names is transitive. -/
theorem namesInOrder_trans (first second third : List String) (h : namesInOrder first second)
    (h' : namesInOrder second third) : namesInOrder first third := by
  rw [namesInOrder_iff] at h h' ⊢
  rcases h with h | rfl
  · rcases h' with h' | rfl
    · exact .inl (List.lt_trans h h')
    · exact .inl h
  · exact h'

/-- Any two lists of names are in order one way or the other. -/
theorem namesInOrder_total (names others : List String) :
    namesInOrder names others || namesInOrder others names := by
  rw [Bool.or_eq_true, namesInOrder_iff, namesInOrder_iff]
  rcases Std.lt_trichotomy names others with h | h | h
  · exact .inl (.inl h)
  · exact .inl (.inr h)
  · exact .inr (.inl h)

theorem namesInOrder_antisymm {names others : List String} (h : namesInOrder names others)
    (h' : namesInOrder others names) : names = others := by
  rw [namesInOrder_iff] at h h'
  rcases h with h | h
  · rcases h' with h' | h'
    · exact absurd h' (List.lt_asymm h)
    · exact h'.symm
  · exact h

/-! ## What is still to be found -/

namespace Search

variable (settings : Settings)

/-- The names that lead to the files of a node to which names lead. -/
def below (node : List String × Node) : List (List String) :=
  node.2.files.map fun file => node.1 ++ file.1

/-- Those of some files that the settings include. -/
def kept (places : List (List String)) : List (List String) :=
  places.filter fun names => settings.includes (String.intercalate "/" names)

/-- The files that a search has found or will find. -/
def reach (search : Search) : List (List String) :=
  search.found ++ kept settings (search.pending.flatMap below)

theorem kept_append (places others : List (List String)) :
    kept settings (places ++ others) = kept settings places ++ kept settings others :=
  List.filter_append ..

theorem below_file (names : List String) (content : Content) :
    below (names, .file content) = [names] := by
  simp [below, Node.files]

/-- The files of a folder are those of the entries that it tells. -/
theorem below_of_listing {folder : Node} {entries : List (String × Node)}
    (h : folder.listing = .ok entries) (way : List String) :
    below (way, folder) = entries.flatMap fun entry => below (way ++ [entry.1], entry.2) := by
  obtain ⟨access, rfl, -⟩ := Node.listing_eq_ok.1 h
  simp [below, Node.files, Node.filesIn_eq_flatMap, List.map_flatMap, Function.comp_def]

/-- An entry that is looked at adds the files at or below it. -/
theorem reach_visit (way : List String) (search : Search) (entry : String × Node) :
    ((search.visit settings way entry).reach settings).Perm
      (search.reach settings ++ kept settings (below (way ++ [entry.1], entry.2))) := by
  obtain ⟨name, node⟩ := entry
  cases node with
  | folder entries access =>
    -- The files below the folder come to the front of those that are still to be found.
    simp only [visit, Node.isFolder, if_true, reach, List.flatMap_cons, kept_append,
      List.append_assoc]
    exact List.perm_append_comm.append_left _
  | file content =>
    rw [below_file]
    simp only [visit, Node.isFolder, Bool.false_eq_true, if_false]
    by_cases h : settings.includes (String.intercalate "/" (way ++ [name]))
    · have hkept : kept settings [way ++ [name]] = [way ++ [name]] := by simp [kept, h]
      simp only [if_pos h, reach, hkept, List.append_assoc]
      exact List.perm_append_comm.append_left _
    · have hkept : kept settings [way ++ [name]] = [] := by simp [kept, h]
      simp only [if_neg h, hkept, List.append_nil]
      exact .refl _

/-- Entries that are looked at add the files at or below them. -/
theorem reach_read (way : List String) (entries : List (String × Node)) (search : Search) :
    ((search.read settings way entries).reach settings).Perm
      (search.reach settings ++
        kept settings (entries.flatMap fun entry => below (way ++ [entry.1], entry.2))) := by
  induction entries generalizing search with
  | nil => exact .of_eq (List.append_nil _).symm
  | cons entry rest ih =>
    rw [List.flatMap_cons, kept_append, ← List.append_assoc]
    exact (ih _).trans ((reach_visit settings way search entry).append_right _)

/-- A search that is not stopped ends with what it could find at its start. -/
theorem run_perm {search : Search} {found : List (List String)}
    (h : run settings search = .ok found) : found.Perm (search.reach settings) := by
  induction search using run.induct settings with
  | case1 found =>
    rw [run] at h
    rw [← Except.ok.inj h, reach]
    exact .of_eq (List.append_nil _).symm
  | case2 way folder rest found entries hentries ih =>
    -- What the folder gives is found now instead of later, and nothing else moves.
    rw [run_cons_of_listing hentries] at h
    refine ((ih h).trans (reach_read settings way entries _)).trans ?_
    simp only [reach, List.flatMap_cons, kept_append, below_of_listing hentries, List.append_assoc]
    exact List.perm_append_comm.append_left _
  | case3 way folder rest found reason hreason =>
    rw [run_cons_of_fault hreason] at h
    cases h

/-! ## Folders that are not listed -/

/-- All folders that wait to be read are listed, with those in them. -/
def IsListed (search : Search) : Prop :=
  ∀ folder ∈ search.pending, folder.2.isFolder ∧ folder.2.IsListed

theorem isListed_visit {way : List String} {search : Search} {entry : String × Node} :
    (search.visit settings way entry).IsListed ↔ search.IsListed ∧ entry.2.IsListed := by
  obtain ⟨name, node⟩ := entry
  cases node with
  | folder entries access =>
    simp only [visit, Node.isFolder, if_true, IsListed, List.forall_mem_cons, true_and]
    exact and_comm
  | file content =>
    simp only [visit, Node.isFolder, Bool.false_eq_true, if_false]
    have hfile : (Node.file content).IsListed := .file content
    split
    · exact (and_iff_left hfile).symm
    · exact (and_iff_left hfile).symm

theorem isListed_read {way : List String} {search : Search} {entries : List (String × Node)} :
    (search.read settings way entries).IsListed ↔
      search.IsListed ∧ ∀ entry ∈ entries, entry.2.IsListed := by
  induction entries generalizing search with
  | nil => exact (and_iff_left (List.forall_mem_nil _)).symm
  | cons entry rest ih =>
    rw [List.forall_mem_cons, ← and_assoc, ← isListed_visit]
    exact ih

/-- A search is not stopped exactly if all folders are listed. -/
theorem exists_run_eq_ok {search : Search} :
    (∃ found, run settings search = .ok found) ↔ search.IsListed := by
  induction search using run.induct settings with
  | case1 found =>
    rw [run]
    exact iff_of_true ⟨found, rfl⟩ (List.forall_mem_nil _)
  | case2 way folder rest found entries hentries ih =>
    rw [run_cons_of_listing hentries, ih, isListed_read, IsListed, IsListed, List.forall_mem_cons,
      Node.isListed_of_listing hentries]
    exact and_comm
  | case3 way folder rest found reason hreason =>
    rw [run_cons_of_fault hreason]
    refine iff_of_false (by simp) fun h => ?_
    obtain ⟨hfolder, hlisted⟩ := (List.forall_mem_cons.1 h).1
    obtain ⟨entries, hentries⟩ := hlisted.exists_listing hfolder
    rw [hentries] at hreason
    cases hreason

end Search

/-! ## The files found -/

section

variable {settings : Settings} {node other : Node} {places : List (List String)}

/-- The files of a folder are found exactly if the folder and those below it are listed. -/
theorem exists_recipeFiles_eq_ok :
    (∃ places, recipeFiles settings node = .ok places) ↔ node.isFolder ∧ node.IsListed := by
  have hsearch : (∃ found, Search.run settings (.start node) = .ok found) ↔
      node.isFolder ∧ node.IsListed := by
    rw [Search.exists_run_eq_ok]
    exact List.forall_mem_singleton
  rw [← hsearch]
  simp [recipeFiles, except_map_eq_ok]

/-- The files found are those in the tree that the settings keep, each once. -/
theorem recipeFiles_perm (h : recipeFiles settings node = .ok places) :
    places.Perm (Search.kept settings (node.files.map Prod.fst)) := by
  obtain ⟨found, hfound, rfl⟩ := except_map_eq_ok.1 h
  refine (List.mergeSort_perm _ _).trans ((Search.run_perm settings hfound).trans (.of_eq ?_))
  simp [Search.reach, Search.start, Search.below]

/-- The files found are in the order of their names. -/
theorem recipeFiles_inOrder (h : recipeFiles settings node = .ok places) :
    places.Pairwise fun names later => namesInOrder names later := by
  obtain ⟨found, -, rfl⟩ := except_map_eq_ok.1 h
  exact List.pairwise_mergeSort namesInOrder_trans namesInOrder_total _

/-- The order in which folders list their entries does not matter. -/
theorem recipeFiles_relisted (h : node.Relisted other) (hplaces : recipeFiles settings node =
    .ok places) : recipeFiles settings other = .ok places := by
  obtain ⟨hfolder, hlisted⟩ := exists_recipeFiles_eq_ok.1 ⟨places, hplaces⟩
  obtain ⟨others, hothers⟩ :=
    exists_recipeFiles_eq_ok.2 ⟨h.isFolder_eq ▸ hfolder, h.isListed hlisted⟩
  have hfiles := (h.files.map Prod.fst).filter
    fun names => settings.includes (String.intercalate "/" names)
  -- Two lists in order with the same elements are one, since the order is antisymmetric.
  have hperm := (recipeFiles_perm hplaces).trans (hfiles.trans (recipeFiles_perm hothers).symm)
  rw [hothers, hperm.eq_of_pairwise (fun _ _ _ _ => namesInOrder_antisymm)
    (recipeFiles_inOrder hplaces) (recipeFiles_inOrder hothers)]

/-- A path is included if some pattern wants it and none rules it out. -/
theorem Settings.includes_iff {path : String} :
    settings.includes path ↔ (∃ glob ∈ settings.included, glob.isMatch path) ∧
      ∀ glob ∈ settings.excluded, ¬ glob.isMatch path := by
  simp [includes, and_comm]

variable {path : String}

/-- A file is found just if it is there and included. -/
theorem mem_recipeFiles (h : node.IsReadableAt path)
    (hplaces : recipeFiles settings node = .ok places) {names : List String} :
    names ∈ places ↔ (∃ content, node.at? names = some (.file content)) ∧
      settings.includes (String.intercalate "/" names) := by
  rw [(recipeFiles_perm hplaces).mem_iff, Search.kept, List.mem_filter]
  refine and_congr_left fun _ => ?_
  rw [List.mem_map]
  constructor
  · rintro ⟨⟨place, content⟩, hfile, rfl⟩
    exact ⟨content, h.mem_files_iff.1 hfile⟩
  · rintro ⟨content, hat⟩
    exact ⟨(names, content), h.mem_files_iff.2 hat, rfl⟩

/-- Each file comes before those that are found after it. -/
theorem recipeFiles_increasing (h : node.IsReadableAt path)
    (hplaces : recipeFiles settings node = .ok places) :
    places.Pairwise fun names later => names < later := by
  have hdistinct : places.Nodup := (recipeFiles_perm hplaces).nodup_iff.2 (h.nodup_files.filter _)
  refine (recipeFiles_inOrder hplaces).imp₂ ?_ hdistinct
  intro names later horder hne
  exact (namesInOrder_iff.1 horder).resolve_right hne

end

namespace FileSystem

theorem isFolder_of_folder? {fs : FileSystem} {path : String} {node : Node}
    (h : fs.folder? path = some node) : node.isFolder :=
  (Option.filter_eq_some_iff.1 h).2

theorem isShort_of_folder? {fs : FileSystem} {path : String} {node : Node}
    (h : fs.folder? path = some node) : FilePath.isShort path := by
  have hnode := except_toOption_eq_some.1 (Option.filter_eq_some_iff.1 h).1
  rw [FileSystem.node, except_bind_eq_ok] at hnode
  obtain ⟨place, hplace, -⟩ := hnode
  have hpath := (locate_eq_ok.1 hplace).1
  unfold checkPath at hpath
  grind

/-- What a search finds are the paths of the files in the folder. -/
theorem discoverRecipes_eq_ok {fs : FileSystem} {folder : String} {node : Node}
    {settings : Settings} {places : List (List String)} (h : fs.folder? folder = some node)
    (hplaces : recipeFiles settings (searchable folder node) = .ok places) :
    fs.discoverRecipes settings folder = .ok (places.map (FilePath.joinAll folder)) := by
  rw [discoverRecipes, h]
  simp only [hplaces]

/-- Recipes are looked for without an error exactly if the folder is there and all folders that are
reached in it are listed. -/
theorem exists_discoverRecipes_eq_ok {fs : FileSystem} {folder : String} {settings : Settings} :
    (∃ paths, fs.discoverRecipes settings folder = .ok paths) ↔
      ∃ node, fs.folder? folder = some node ∧ (searchable folder node).IsListed := by
  rw [discoverRecipes]
  cases hnode : fs.folder? folder with
  | none => simp
  | some node =>
    have hfolder : (searchable folder node).isFolder :=
      isFolder_searchable (isFolder_of_folder? hnode) (isShort_of_folder? hnode)
    have hfiles := @exists_recipeFiles_eq_ok settings (searchable folder node)
    rw [and_iff_right hfolder] at hfiles
    simp only [Option.some.injEq, exists_eq_left', ← hfiles]
    cases recipeFiles settings (searchable folder node) <;> simp

/-- Paths of files below a folder are in the order of the names that lead to them. -/
theorem steps_lt_steps {folder : String} {node : Node} (htree : node.IsReadableAt folder)
    (hfolder : node.isFolder) {settings : Settings} {places : List (List String)}
    (hplaces : recipeFiles settings node = .ok places) {names later : List String}
    (hnames : names ∈ places) (hlater : later ∈ places) (h : names < later) :
    FilePath.steps (FilePath.joinAll folder names) <
      FilePath.steps (FilePath.joinAll folder later) := by
  have hsteps {place : List String} (hplace : place ∈ places) :
      FilePath.steps (FilePath.joinAll folder place) = FilePath.way folder ++ place := by
    obtain ⟨⟨content, hfile⟩, -⟩ := (mem_recipeFiles htree hplaces).1 hplace
    refine FilePath.steps_joinAll ?_ (htree.isName_of_at? hfile) folder
    rintro rfl
    cases hfile
    cases hfolder
  rw [hsteps hnames, hsteps hlater]
  exact List.append_left_lt h

/-- **The recipes of a folder.** If the tree of a folder can be read, the recipes found in it are
the files below it whose way from it matches a pattern that includes and none that excludes, each
once and sorted by path. A tree that lists the same entries in other orders yields the same paths,
in the same order. -/
theorem discoverRecipes_finds {fs : FileSystem} {folder : String} {node : Node}
    (hnode : fs.folder? folder = some node) (htree : node.IsReadableAt folder)
    (settings : Settings) :
    ∃ places : List (List String),
      fs.discoverRecipes settings folder = .ok (places.map (FilePath.joinAll folder)) ∧
      (∀ names, names ∈ places ↔ (∃ content, node.at? names = some (.file content)) ∧
        (∃ glob ∈ settings.included, glob.isMatch (String.intercalate "/" names)) ∧
          ∀ glob ∈ settings.excluded, ¬ glob.isMatch (String.intercalate "/" names)) ∧
      (places.map (FilePath.joinAll folder)).Nodup ∧
      (places.map (FilePath.joinAll folder)).Pairwise
        (fun path later => FilePath.steps path < FilePath.steps later) ∧
      ∀ (changed : FileSystem) (other : Node), changed.folder? folder = some other →
        node.Relisted other →
          changed.discoverRecipes settings folder = fs.discoverRecipes settings folder := by
  have hfolder := isFolder_of_folder? hnode
  obtain ⟨places, hplaces⟩ := exists_recipeFiles_eq_ok.2 ⟨hfolder, htree.isListed⟩
  have hsearched : recipeFiles settings (searchable folder node) = .ok places := by
    rw [searchable_eq_self htree, hplaces]
  have hfound := discoverRecipes_eq_ok hnode hsearched
  have hsorted : (places.map (FilePath.joinAll folder)).Pairwise
      fun path later => FilePath.steps path < FilePath.steps later := by
    rw [List.pairwise_map]
    exact (recipeFiles_increasing htree hplaces).imp_of_mem (steps_lt_steps htree hfolder hplaces)
  refine ⟨places, hfound, fun names => ?files, ?once, hsorted, ?relisted⟩
  case files => rw [mem_recipeFiles htree hplaces, Settings.includes_iff]
  case once =>
    refine hsorted.imp fun hlt heq => ?_
    rw [heq] at hlt
    exact List.lt_irrefl _ hlt
  case relisted =>
    intro changed other hother hrelisted
    rw [hfound]
    exact discoverRecipes_eq_ok hother
      (recipeFiles_relisted (hrelisted.searchable folder) hsearched)

/-- A folder with a draft and a note beside its recipes, and the same folder listed from its end. -/
theorem discoverRecipes_finds_without_drafts :
    let entries : List (String × Node) := [("owner.json", .file ""),
      ("drafts", .folder [("wip.json", .file "")]), ("notes.md", .file ""),
      ("area", .folder [("all.json", .file "")])]
    let fs : FileSystem := { root := .folder [("recipes", .folder entries)] }
    let changed : FileSystem := { root := .folder [("recipes", .folder entries.reverse)] }
    let globs (text : String) : List Glob := (Glob.parse text).toOption.toList
    let settings : Settings := ⟨{}, globs "**/*.json", globs "drafts/**", none⟩
    fs.folder? "recipes" = some (.folder entries) ∧
      Node.IsReadableAt "recipes" (.folder entries) ∧
      ∃ places : List (List String),
        fs.discoverRecipes settings "recipes" =
          .ok (places.map (FilePath.joinAll "recipes")) ∧
        changed.discoverRecipes settings "recipes" = fs.discoverRecipes settings "recipes" ∧
        ["owner.json"] ∈ places ∧ ["area", "all.json"] ∈ places ∧
        ["drafts", "wip.json"] ∉ places ∧ ["notes.md"] ∉ places := by
  intro entries fs changed globs settings
  have hnode : fs.folder? "recipes" = some (.folder entries) := rfl
  have hchanged : changed.folder? "recipes" = some (.folder entries.reverse) := rfl
  have hsingle {path name : String} (hshort : FilePath.isShort path)
      (hname : FilePath.IsName name) : (Node.folder [(name, .file "")]).IsReadableAt path := by
    refine .folder hshort (List.forall_mem_singleton.2 hname) (List.nodup_singleton _) ?_
    exact List.forall_mem_singleton.2 (.file _ _)
  have htree : Node.IsReadableAt "recipes" (.folder entries) := by
    refine .folder (by decide) (by decide) (by decide) ?_
    intro entry hentry
    simp only [entries, List.mem_cons, List.not_mem_nil, or_false] at hentry
    rcases hentry with rfl | rfl | rfl | rfl
    · exact .file _ _
    · exact hsingle (by decide +kernel) (by decide)
    · exact .file _ _
    · exact hsingle (by decide +kernel) (by decide)
  refine ⟨hnode, htree, ?_⟩
  obtain ⟨places, hfound, hfiles, -, -, hrelisted⟩ := discoverRecipes_finds hnode htree settings
  refine ⟨places, hfound, ?_, ?_, ?_, ?_, ?_⟩
  · exact hrelisted changed _ hchanged (.perm entries.reverse_perm.symm)
  · exact (hfiles _).2 ⟨⟨"", rfl⟩, by decide +kernel⟩
  · exact (hfiles _).2 ⟨⟨"", rfl⟩, by decide +kernel⟩
  · intro hplace
    exact absurd ((hfiles _).1 hplace).2 (by decide +kernel)
  · intro hplace
    exact absurd ((hfiles _).1 hplace).2 (by decide +kernel)

end FileSystem

end DiagnosticReport
