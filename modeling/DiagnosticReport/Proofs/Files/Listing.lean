import DiagnosticReport.Files.System
import DiagnosticReport.Proofs.Files.Path
import Mathlib.Data.List.Nodup

/-!
# Listing the files of a tree

In a tree whose folders can all be read from a path on (`Node.IsReadableAt`), the files that are
listed are those found at a place, each once. A tree that is listed in other orders
(`Node.Relisted`) has the same files. The folders of any tree can be listed, or one of them cannot
(`Node.IsListed`).
-/

namespace DiagnosticReport

namespace Node

/-- All folders at or below a node tell all their entries. -/
inductive IsListed : Node → Prop
  | file (content : Content) : IsListed (file content)
  | folder {entries : List (String × Node)} {access : Access} (complete : access.fault = none)
      (below : ∀ entry ∈ entries, IsListed entry.2) : IsListed (folder entries access)

/-- A tree as it is found at a path: its folders can be listed and entered, no two entries of a
folder have one name, and the path of each folder is short enough for the folder to be read. -/
inductive IsReadableAt : String → Node → Prop
  | file (path : String) (content : Content) : IsReadableAt path (file content)
  | folder {path : String} {entries : List (String × Node)} (short : FilePath.isShort path)
      (names : ∀ entry ∈ entries, FilePath.IsName entry.1)
      (distinct : (entries.map Prod.fst).Nodup)
      (below : ∀ entry ∈ entries, IsReadableAt (FilePath.join path entry.1) entry.2) :
      IsReadableAt path (folder entries)

/-- A tree is listed in other orders: the entries of folders are permuted, at any depth. -/
inductive Relisted : Node → Node → Prop
  | refl (node : Node) : Relisted node node
  | perm {entries others : List (String × Node)} {access : Access} (h : entries.Perm others) :
      Relisted (folder entries access) (folder others access)
  | entry {node other : Node} (before after : List (String × Node)) {access : Access}
      (name : String) (h : Relisted node other) :
      Relisted (folder (before ++ (name, node) :: after) access)
        (folder (before ++ (name, other) :: after) access)
  | trans {first second third : Node} (h : Relisted first second) (h' : Relisted second third) :
      Relisted first third

/-! ## Files and places -/

theorem filesIn_eq_flatMap (entries : List (String × Node)) :
    filesIn entries =
      entries.flatMap fun entry => entry.2.files.map fun file => (entry.1 :: file.1, file.2) := by
  induction entries with
  | nil => rfl
  | cons entry rest ih => rw [filesIn, ih, List.flatMap_cons]

theorem listing_eq_ok {node : Node} {entries : List (String × Node)} :
    node.listing = .ok entries ↔ ∃ access, node = folder entries access ∧ access.fault = none := by
  cases node with
  | file content => simp [listing]
  | folder children access =>
    cases h : access.fault <;> simp [listing, h, and_comm]

/-- A folder that is listed is listed with those in it if its entries are. -/
theorem isListed_of_listing {node : Node} {entries : List (String × Node)}
    (h : node.listing = .ok entries) :
    node.isFolder ∧ node.IsListed ↔ ∀ entry ∈ entries, entry.2.IsListed := by
  obtain ⟨access, rfl, hcomplete⟩ := listing_eq_ok.1 h
  refine ⟨fun hlisted => ?_, fun hbelow => ⟨rfl, .folder hcomplete hbelow⟩⟩
  obtain ⟨-, _ | ⟨-, hbelow⟩⟩ := hlisted
  exact hbelow

theorem IsListed.exists_listing {node : Node} (h : node.IsListed) (hfolder : node.isFolder) :
    ∃ entries, node.listing = .ok entries := by
  cases h with
  | file content => cases hfolder
  | @folder entries access complete below =>
    exact ⟨entries, listing_eq_ok.2 ⟨access, rfl, complete⟩⟩

theorem child?_eq_some_iff {entries : List (String × Node)}
    (hdistinct : (entries.map Prod.fst).Nodup) {access : Access} {name : String} {node : Node} :
    (folder entries access).child? name = some node ↔ (name, node) ∈ entries := by
  induction entries with
  | nil => simp [child?]
  | cons entry rest ih =>
    obtain ⟨first, child⟩ := entry
    obtain ⟨hfirst, hrest⟩ := List.nodup_cons.1 hdistinct
    have hmem := ih hrest
    by_cases hname : first = name
    · subst hname
      have hnone : (first, node) ∉ rest := fun h => hfirst (List.mem_map.2 ⟨_, h, rfl⟩)
      simp [child?, hnone, eq_comm]
    · rw [child?] at hmem ⊢
      rw [List.find?_cons_of_neg (by simpa using hname), hmem, List.mem_cons]
      simp [Ne.symm hname]

namespace IsReadableAt

variable {path : String} {node : Node}

/-- The files that are listed are those at a place. -/
theorem mem_files_iff (h : node.IsReadableAt path) {place : List String} {content : Content} :
    (place, content) ∈ node.files ↔ node.at? place = some (.file content) := by
  induction h generalizing place with
  | file path text =>
    cases place with
    | nil => simp [files, at?, eq_comm]
    | cons name rest => simp [files, at?, child?]
  | @folder path entries _ _ distinct _ ih =>
    rw [files, filesIn_eq_flatMap, List.mem_flatMap]
    constructor
    · rintro ⟨⟨name, child⟩, hentry, hfile⟩
      obtain ⟨⟨rest, text⟩, hrest, heq⟩ := List.mem_map.1 hfile
      cases heq
      rw [at?, (child?_eq_some_iff distinct).2 hentry]
      exact (ih _ hentry).1 hrest
    · intro hat
      cases place with
      | nil => cases hat
      | cons name rest =>
        rw [at?, Option.bind_eq_some_iff] at hat
        obtain ⟨child, hchild, hrest⟩ := hat
        have hentry := (child?_eq_some_iff distinct).1 hchild
        exact ⟨(name, child), hentry, List.mem_map.2 ⟨_, (ih _ hentry).2 hrest, rfl⟩⟩

/-- No file is listed twice. -/
theorem nodup_files (h : node.IsReadableAt path) : (node.files.map Prod.fst).Nodup := by
  induction h with
  | file path text => simp [files]
  | @folder path entries _ _ distinct _ ih =>
    rw [files, filesIn_eq_flatMap, List.map_flatMap, List.nodup_flatMap]
    constructor
    · intro entry hentry
      rw [List.map_map]
      have hplaces := (ih entry hentry).map (List.cons_injective (a := entry.1))
      rwa [List.map_map] at hplaces
    · have hapart : entries.Pairwise fun entry other => entry.1 ≠ other.1 :=
        List.pairwise_map.1 distinct
      refine hapart.imp fun hne => ?_
      intro place hplace hother
      simp only [List.map_map, List.mem_map] at hplace hother
      obtain ⟨file, -, rfl⟩ := hplace
      obtain ⟨otherFile, -, heq⟩ := hother
      exact hne (List.cons.inj heq).1.symm

theorem isListed (h : node.IsReadableAt path) : node.IsListed := by
  induction h with
  | file path content => exact .file content
  | folder _ _ _ _ ih => exact .folder rfl ih

/-- A file is found behind names. -/
theorem isName_of_at? (h : node.IsReadableAt path) {place : List String} {content : Content}
    (hfile : node.at? place = some (.file content)) : ∀ name ∈ place, FilePath.IsName name := by
  induction h generalizing place with
  | file path text =>
    cases place with
    | nil => exact List.forall_mem_nil _
    | cons name rest => cases hfile
  | @folder path entries _ names distinct _ ih =>
    cases place with
    | nil => cases hfile
    | cons name rest =>
      rw [at?, Option.bind_eq_some_iff] at hfile
      obtain ⟨child, hchild, hrest⟩ := hfile
      have hentry := (child?_eq_some_iff distinct).1 hchild
      exact List.forall_mem_cons.2 ⟨names _ hentry, ih _ hentry hrest⟩

end IsReadableAt

end Node

/-! ## What can be searched -/

namespace FileSystem

theorem searchableIn_eq_map (path : String) (entries : List (String × Node)) :
    searchableIn path entries =
      entries.map fun entry => (entry.1, searchable (FilePath.join path entry.1) entry.2) := by
  induction entries with
  | nil => rfl
  | cons entry rest ih => rw [searchableIn, ih, List.map_cons]

/-- All of a tree is searched if its folders can be read. -/
theorem searchable_eq_self {path : String} {node : Node} (h : node.IsReadableAt path) :
    searchable path node = node := by
  induction h with
  | file path content => rfl
  | @folder path entries short _ _ _ ih =>
    have hentries : searchableIn path entries = entries := by
      rw [searchableIn_eq_map]
      conv_rhs => rw [← List.map_id entries]
      refine List.map_congr_left fun entry hentry => ?_
      rw [ih entry hentry]
      rfl
    rw [searchable, if_pos short, if_pos rfl, hentries]

theorem isFolder_searchable {path : String} {node : Node} (h : node.isFolder)
    (hpath : FilePath.isShort path) : (searchable path node).isFolder := by
  cases node with
  | file content => cases h
  | folder entries access =>
    rw [searchable, if_pos hpath]
    split <;> rfl

end FileSystem

namespace Node.Relisted

theorem searchable {node other : Node} (h : node.Relisted other) (path : String) :
    (FileSystem.searchable path node).Relisted (FileSystem.searchable path other) := by
  induction h generalizing path with
  | refl node => exact .refl _
  | perm h =>
    simp only [FileSystem.searchable, FileSystem.searchableIn_eq_map]
    split
    · split
      · exact .perm (h.map _)
      · exact .perm (h.map _)
    · exact .refl _
  | entry before after name h ih =>
    simp only [FileSystem.searchable, FileSystem.searchableIn_eq_map, List.map_append,
      List.map_cons]
    split
    · split
      · exact .entry _ _ _ (ih _)
      · exact .refl _
    · exact .refl _
  | trans h h' ih ih' => exact (ih path).trans (ih' path)

/-- The same files are listed, in another order. -/
theorem files {node other : Node} (h : node.Relisted other) : node.files.Perm other.files := by
  induction h with
  | refl node => exact .refl _
  | perm h =>
    rw [Node.files, Node.files, filesIn_eq_flatMap, filesIn_eq_flatMap]
    exact h.flatMap_right _
  | entry before after name h ih =>
    simp only [Node.files, filesIn_eq_flatMap, List.flatMap_append, List.flatMap_cons]
    exact ((ih.map _).append_right _).append_left _
  | trans h h' ih ih' => exact ih.trans ih'

theorem isFolder_eq {node other : Node} (h : node.Relisted other) :
    node.isFolder = other.isFolder := by
  induction h with
  | refl node => rfl
  | perm h => rfl
  | entry before after name h ih => rfl
  | trans _ _ ih ih' => exact ih.trans ih'

/-- A tree in another order is listed if the tree is. -/
theorem isListed {node other : Node} (h : node.Relisted other) (hnode : node.IsListed) :
    other.IsListed := by
  induction h with
  | refl node => exact hnode
  | perm h =>
    cases hnode with
    | folder complete below =>
      exact .folder complete fun entry hentry => below entry (h.mem_iff.2 hentry)
  | entry before after name _ ih =>
    cases hnode with
    | folder complete below =>
      simp only [List.forall_mem_append, List.forall_mem_cons] at below
      obtain ⟨hbefore, hentry, hafter⟩ := below
      refine .folder complete ?_
      simp only [List.forall_mem_append, List.forall_mem_cons]
      exact ⟨hbefore, ih hentry, hafter⟩
  | trans _ _ ih ih' => exact ih' (ih hnode)

end Node.Relisted

end DiagnosticReport
