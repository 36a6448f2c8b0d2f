import DiagnosticReport.Files.System
import DiagnosticReport.Proofs.Except
import DiagnosticReport.Proofs.Files.Path
import DiagnosticReport.Proofs.Files.Tree

/-!
# Operations on file systems

Where a path leads depends on its names alone, as far as it leads anywhere (`destination`). Making
folders leaves all files and folders in their places (`Extends`); writing and renaming in a folder
leaves the folders and the files of other names (`Keeps`). A file that was written under a name is
read back under the path of that name (`read_join`).
-/

namespace DiagnosticReport

namespace FileSystem

/-! ## Following paths -/

/-- A place passes as a folder if there is one. -/
theorem checkFolder_eq_ok {root : Node} {place : List String} :
    checkFolder root place = .ok () ↔ root.HasFolder place := by
  rw [Node.hasFolder_iff, checkFolder]
  cases root.at? place with
  | none => simp
  | some node => cases h : node.isFolder <;> simp [h]

/-- A place is entered if there is a folder that lets one in. -/
theorem checkEntry_eq_ok {root : Node} {place : List String} :
    checkEntry root place = .ok () ↔ root.CanEnter place := by
  rw [checkEntry, except_check_eq_ok, checkFolder_eq_ok]
  unfold Node.CanEnter Node.HasFolder Node.HasAccess
  cases root.at? place with
  | none => simp
  | some node =>
    cases node with
    | file content => simp
    | folder entries access => cases h : access.canEnter <;> simp [Node.canEnter, h]

theorem checkTarget_of_hasFolder {root : Node} {place : List String} (h : root.HasFolder place) :
    checkTarget root place = .ok () := by
  obtain ⟨access, entries, hplace⟩ := h
  rw [checkTarget, hplace]

/-- The place that steps lead to by their names alone. -/
def destination (place : List String) : List String → List String
  | [] => place
  | step :: rest =>
    if step = "" ∨ step = "." then destination place rest
    else if step = ".." then destination place.dropLast rest
    else destination (place ++ [step]) rest

/-- A step is taken in a folder that can be entered; a slash at the end only asks for a folder. -/
theorem follow_cons_eq_ok {root : Node} {place found rest : List String} {step : String} :
    follow root place (step :: rest) = .ok found ↔
      if step = "" then root.HasFolder place ∧ follow root place rest = .ok found
      else root.CanEnter place ∧
        if step = "." then follow root place rest = .ok found
        else if step = ".." then follow root place.dropLast rest = .ok found
        else checkName step = .ok () ∧ checkTarget root (place ++ [step]) = .ok () ∧
          follow root (place ++ [step]) rest = .ok found := by
  rw [follow]
  by_cases hslash : step = ""
  · rw [if_pos hslash, if_pos hslash, except_check_eq_ok, checkFolder_eq_ok]
  · rw [if_neg hslash, if_neg hslash, except_check_eq_ok, checkEntry_eq_ok]
    by_cases hdot : step = "."
    · rw [if_pos hdot, if_pos hdot]
    · rw [if_neg hdot, if_neg hdot]
      by_cases hdots : step = ".."
      · rw [if_pos hdots, if_pos hdots]
      · rw [if_neg hdots, if_neg hdots, except_check_eq_ok, except_check_eq_ok]

/-- Steps that can be followed lead where the steps alone say. -/
theorem follow_eq_destination {root : Node} {place found steps : List String}
    (h : follow root place steps = .ok found) : found = destination place steps := by
  induction steps generalizing place with
  | nil => exact (Except.ok.inj h).symm
  | cons step rest ih =>
    have h := follow_cons_eq_ok.1 h
    rw [destination]
    by_cases hslash : step = ""
    · rw [if_pos hslash] at h
      rw [if_pos (.inl hslash)]
      exact ih h.2
    · rw [if_neg hslash] at h
      obtain ⟨-, h⟩ := h
      by_cases hdot : step = "."
      · rw [if_pos hdot] at h
        rw [if_pos (.inr hdot)]
        exact ih h
      · rw [if_neg hdot] at h
        rw [if_neg (not_or.2 ⟨hslash, hdot⟩)]
        by_cases hdots : step = ".."
        · rw [if_pos hdots] at h ⊢
          exact ih h
        · rw [if_neg hdots] at h ⊢
          exact ih h.2.2

/-- Steps to a folder start in a folder. -/
theorem hasFolder_of_follow {root : Node} {place found steps : List String}
    (h : follow root place steps = .ok found) (hfound : root.HasFolder found) :
    root.HasFolder place := by
  cases steps with
  | nil => exact Except.ok.inj h ▸ hfound
  | cons step rest =>
    have h := follow_cons_eq_ok.1 h
    split at h
    · exact h.1
    · exact h.1.hasFolder

/-- Every folder of the earlier tree is in its place in the later one, as accessible as it was. -/
def KeepsFolders (earlier later : Node) : Prop :=
  ∀ place access, earlier.HasAccess place access → later.HasAccess place access

/-- Where folders are kept, a place with a folder still has one. -/
theorem KeepsFolders.hasFolder {earlier later : Node} (h : KeepsFolders earlier later)
    {place : List String} (hplace : earlier.HasFolder place) : later.HasFolder place := by
  obtain ⟨access, hplace⟩ := hplace
  exact ⟨access, h place access hplace⟩

/-- Where folders are kept, one that could be entered still can be. -/
theorem KeepsFolders.canEnter {earlier later : Node} (h : KeepsFolders earlier later)
    {place : List String} (hplace : earlier.CanEnter place) : later.CanEnter place := by
  obtain ⟨access, hplace, henter⟩ := hplace
  exact ⟨access, h place access hplace, henter⟩

/-- Steps to a folder lead there as long as no folder goes away. -/
theorem follow_of_keepsFolders {earlier later : Node} (hkeeps : KeepsFolders earlier later)
    {place found steps : List String} (h : follow earlier place steps = .ok found)
    (hfound : earlier.HasFolder found) : follow later place steps = .ok found := by
  induction steps generalizing place with
  | nil => exact h
  | cons step rest ih =>
    have h := follow_cons_eq_ok.1 h
    rw [follow_cons_eq_ok]
    by_cases hslash : step = ""
    · rw [if_pos hslash] at h ⊢
      exact ⟨hkeeps.hasFolder h.1, ih h.2⟩
    · rw [if_neg hslash] at h ⊢
      obtain ⟨hplace, h⟩ := h
      refine ⟨hkeeps.canEnter hplace, ?_⟩
      by_cases hdot : step = "."
      · rw [if_pos hdot] at h ⊢
        exact ih h
      · rw [if_neg hdot] at h ⊢
        by_cases hdots : step = ".."
        · rw [if_pos hdots] at h ⊢
          exact ih h
        · rw [if_neg hdots] at h ⊢
          obtain ⟨hname, -, h⟩ := h
          have hnext := hkeeps.hasFolder (hasFolder_of_follow h hfound)
          exact ⟨hname, checkTarget_of_hasFolder hnext, ih h⟩

/-- Steps in a row are followed one part after the other. -/
theorem follow_append (root : Node) (place first rest : List String) :
    follow root place (first ++ rest) =
      follow root place first >>= fun found => follow root found rest := by
  induction first generalizing place with
  | nil => rfl
  | cons step first ih =>
    rw [List.cons_append, follow, follow]
    by_cases hslash : step = ""
    · simp only [if_pos hslash, bind_assoc, ih]
    · by_cases hdot : step = "."
      · simp only [if_neg hslash, if_pos hdot, bind_assoc, ih]
      · by_cases hdots : step = ".."
        · simp only [if_neg hslash, if_neg hdot, if_pos hdots, bind_assoc, ih]
        · simp only [if_neg hslash, if_neg hdot, if_neg hdots, bind_assoc, ih]

/-- A path is located if the system takes it and its steps can be followed. -/
theorem locate_eq_ok {fs : FileSystem} {path : String} {place : List String} :
    fs.locate path = .ok place ↔ checkPath path = .ok () ∧ path ≠ "" ∧
      follow fs.root (fs.start path) (FilePath.steps path) = .ok place := by
  rw [locate, except_check_eq_ok]
  by_cases h : path = "" <;> simp [h]

/-- Where the path of a folder leads if it leads anywhere. -/
def folderPlace (fs : FileSystem) (folder : String) : List String :=
  destination (fs.start folder) (FilePath.steps folder)

theorem folderPlace_of_working {fs later : FileSystem} (h : later.working = fs.working)
    (folder : String) : later.folderPlace folder = fs.folderPlace folder := by
  rw [folderPlace, folderPlace, start, start, h]

/-- A folder that is found is at its place. -/
theorem locate_eq_folderPlace {fs : FileSystem} {folder : String} {place : List String}
    (h : fs.locate folder = .ok place) : place = fs.folderPlace folder :=
  follow_eq_destination (locate_eq_ok.1 h).2.2

theorem destination_append (place first rest : List String) :
    destination place (first ++ rest) = destination (destination place first) rest := by
  induction first generalizing place with
  | nil => rfl
  | cons step first ih =>
    rw [List.cons_append, destination, destination]
    split
    · exact ih place
    · split
      · exact ih place.dropLast
      · exact ih (place ++ [step])

/-- The path of a name leads one step below the place of its folder. -/
theorem folderPlace_join {name : String} (hname : FilePath.IsName name) (fs : FileSystem)
    (folder : String) :
    fs.folderPlace (FilePath.join folder name) = fs.folderPlace folder ++ [name] := by
  obtain ⟨way, ending, hsteps, hjoin, hending⟩ := @FilePath.exists_steps_join folder name hname
  have hstart : fs.start (FilePath.join folder name) = fs.start folder := by
    rw [start, start, FilePath.isAbsolute_join_of_isName hname]
  have hspot (place : List String) : destination place ending = place := by
    obtain rfl | rfl := hending
    · rfl
    · rfl
  have hstep (place : List String) : destination place [name] = place ++ [name] := by
    rw [destination, if_neg (not_or.2 ⟨hname.ne_empty, hname.ne_dot⟩), if_neg hname.ne_dots]
    rfl
  rw [folderPlace, folderPlace, hstart, hjoin, hsteps, destination_append, destination_append,
    hspot, hstep]

/-! ## Making folders -/

/-- All folders and files of the earlier tree are in their places in the later one. -/
structure Extends (earlier later : Node) : Prop where
  folders : KeepsFolders earlier later
  files : ∀ place content, earlier.at? place = some (.file content) →
    later.at? place = some (.file content)

theorem Extends.refl (root : Node) : Extends root root :=
  ⟨fun _ _ h => h, fun _ _ h => h⟩

theorem Extends.trans {first second third : Node} (h : Extends first second)
    (h' : Extends second third) : Extends first third :=
  ⟨fun place access hplace => h'.folders place access (h.folders place access hplace),
    fun place content hfile => h'.files place content (h.files place content hfile)⟩

/-- Making a folder adds to the tree at most. -/
theorem extends_addFolder {root later : Node} {place way : List String} {step : String}
    (h : addFolder root place way step = .ok later) : Extends root later := by
  rw [addFolder, except_bind_eq_ok] at h
  obtain ⟨parent, -, h⟩ := h
  rw [except_check_eq_ok, checkEntry_eq_ok] at h
  obtain ⟨hparent, h⟩ := h
  by_cases hdots : step = ".."
  · rw [if_pos hdots] at h
    exact Except.ok.inj h ▸ .refl root
  · rw [if_neg hdots, except_check_eq_ok] at h
    obtain ⟨-, h⟩ := h
    cases hnew : root.at? (parent ++ [step]) with
    | none =>
      rw [hnew] at h
      obtain rfl := Except.ok.inj h
      have hplace : ¬root.HasFolder (parent ++ [step]) := by
        simp [Node.HasFolder, Node.HasAccess, hnew]
      exact ⟨fun _ _ hfolder => hfolder.put hplace _,
        fun _ _ hfile => Node.at?_put_emptyFolder hparent.hasFolder hnew hfile⟩
    | some node =>
      rw [hnew] at h
      by_cases hfolder : node.isFolder
      · simp only [hfolder, if_true] at h
        exact Except.ok.inj h ▸ .refl root
      · simp only [hfolder] at h
        cases h

/-- Making folders in a row adds to the tree at most. -/
theorem extends_addFolders {root later : Node} {place steps : List String}
    (h : addFolders root place steps = .ok later) : Extends root later := by
  induction steps generalizing later with
  | nil => exact Except.ok.inj h ▸ .refl root
  | cons step way ih =>
    rw [addFolders] at h
    split at h
    · rw [except_bind_eq_ok] at h
      obtain ⟨middle, hmiddle, h⟩ := h
      exact (ih hmiddle).trans (extends_addFolder h)
    · exact extends_addFolder h

/-- Making a folder with those above it adds to the tree and leaves the working folder. -/
theorem extends_createFolder {fs later : FileSystem} {path : String}
    (h : fs.createFolder path = .ok later) :
    later.working = fs.working ∧ Extends fs.root later.root := by
  rw [createFolder, except_check_eq_ok, except_bind_eq_ok] at h
  obtain ⟨-, root, hroot, h⟩ := h
  obtain rfl := Except.ok.inj h
  exact ⟨rfl, extends_addFolders hroot⟩

/-! ## Writing -/

/-- A name can be written to in the folder of a path: the path leads to a folder that can be
entered, and the name is short enough for it. -/
structure Accepts (fs : FileSystem) (folder name : String) : Prop where
  path : checkPath (FilePath.join folder name) = .ok ()
  located : fs.locate folder = .ok (fs.folderPlace folder)
  canEnter : fs.root.CanEnter (fs.folderPlace folder)
  name : checkName name = .ok ()

/-- What a name is written to is in its folder, and no folder itself. -/
theorem target_eq_ok {fs : FileSystem} {folder name : String} {place : List String}
    (h : fs.target folder name = .ok place) :
    fs.Accepts folder name ∧ ¬fs.root.HasFolder place ∧
      place = fs.folderPlace folder ++ [name] := by
  rw [target, except_check_eq_ok, except_bind_eq_ok] at h
  obtain ⟨hpath, found, hfound, h⟩ := h
  rw [except_check_eq_ok, except_check_eq_ok, checkEntry_eq_ok] at h
  obtain ⟨hfolder, hname, h⟩ := h
  obtain rfl := locate_eq_folderPlace hfound
  dsimp only at h
  split at h
  · cases h
  · next hnot =>
    obtain rfl := Except.ok.inj h
    exact ⟨⟨hpath, hfound, hfolder, hname⟩, fun h => hnot (Node.hasFolder_iff.1 h), rfl⟩

/-- A name that can be written to stays so as long as no folder goes away. -/
theorem Accepts.of_keepsFolders {fs later : FileSystem} {folder name : String}
    (h : fs.Accepts folder name) (hworking : later.working = fs.working)
    (hkeeps : KeepsFolders fs.root later.root) : later.Accepts folder name := by
  have hstart : later.start folder = fs.start folder := by
    rw [start, start, hworking]
  have hplace := folderPlace_of_working hworking folder
  obtain ⟨hfolderPath, hne, hfollow⟩ := locate_eq_ok.1 h.located
  refine ⟨h.path, ?_, hplace ▸ hkeeps.canEnter h.canEnter, h.name⟩
  rw [hplace]
  refine locate_eq_ok.2 ⟨hfolderPath, hne, ?_⟩
  rw [hstart]
  exact follow_of_keepsFolders hkeeps hfollow h.canEnter.hasFolder

/-- Writing puts a file under its name and keeps all folders. -/
theorem write_eq_ok {fs later : FileSystem} {folder name content : String}
    (h : fs.write folder name content = .ok later) :
    fs.Accepts folder name ∧ later.working = fs.working ∧
      KeepsFolders fs.root later.root ∧
      later.root = fs.root.put (.file content) (fs.folderPlace folder ++ [name]) := by
  rw [write, except_bind_eq_ok] at h
  obtain ⟨place, hplace, h⟩ := h
  obtain ⟨haccepts, hnot, rfl⟩ := target_eq_ok hplace
  obtain rfl := Except.ok.inj h
  exact ⟨haccepts, rfl, fun _ _ hfolder => hfolder.put hnot _, rfl⟩

/-- Renaming puts what was under one name under the other and keeps all folders. -/
theorem rename_eq_ok {fs later : FileSystem} {folder name newName : String}
    (hne : newName ≠ name) (h : fs.rename folder name newName = .ok later) :
    fs.Accepts folder newName ∧ later.working = fs.working ∧
      KeepsFolders fs.root later.root ∧
      ∃ node, fs.root.at? (fs.folderPlace folder ++ [name]) = some node ∧
        later.root = (fs.root.erase (fs.folderPlace folder ++ [name])).put node
          (fs.folderPlace folder ++ [newName]) := by
  rw [rename, except_bind_eq_ok] at h
  obtain ⟨source, hsource, h⟩ := h
  rw [except_bind_eq_ok] at h
  obtain ⟨place, hplace, h⟩ := h
  obtain ⟨-, hnotSource, rfl⟩ := target_eq_ok hsource
  obtain ⟨haccepts, hnot, rfl⟩ := target_eq_ok hplace
  cases hnode : fs.root.at? (fs.folderPlace folder ++ [name]) with
  | none => rw [hnode] at h; cases h
  | some node =>
    rw [hnode] at h
    obtain rfl := Except.ok.inj h
    have hfree : ¬(fs.root.erase (fs.folderPlace folder ++ [name])).HasFolder
        (fs.folderPlace folder ++ [newName]) := by
      rwa [Node.hasFolder_iff, Node.at?_erase_sibling hne, ← Node.hasFolder_iff]
    exact ⟨haccepts, rfl, fun _ _ hfolder => (hfolder.erase hnotSource).put hfree _, node, rfl,
      rfl⟩

/-! ## Files that stay -/

/-- In a later file system all folders are in their places, and so is the file of a name. -/
structure Keeps (folder name : String) (fs later : FileSystem) : Prop where
  working : later.working = fs.working
  folders : KeepsFolders fs.root later.root
  file : ∀ content, fs.root.at? (fs.folderPlace folder ++ [name]) = some (.file content) →
    later.root.at? (fs.folderPlace folder ++ [name]) = some (.file content)

/-- Files stay when folders are made. -/
theorem keeps_createFolder {fs later : FileSystem} {path : String}
    (h : fs.createFolder path = .ok later) (folder name : String) :
    Keeps folder name fs later := by
  obtain ⟨hworking, hextends⟩ := extends_createFolder h
  exact ⟨hworking, hextends.folders, hextends.files _⟩

/-- Files of other names stay when one is written. -/
theorem keeps_write {fs later : FileSystem} {folder name other content : String}
    (hne : other ≠ name) (h : fs.write folder name content = .ok later) :
    Keeps folder other fs later := by
  obtain ⟨-, hworking, hfolders, hroot⟩ := write_eq_ok h
  refine ⟨hworking, hfolders, fun text hfile => ?_⟩
  rw [hroot, Node.at?_put_sibling hne]
  exact hfile

/-- Files of other names stay when one is renamed. -/
theorem keeps_rename {fs later : FileSystem} {folder name newName other : String}
    (hne : newName ≠ name) (hname : other ≠ name) (hnewName : other ≠ newName)
    (h : fs.rename folder name newName = .ok later) : Keeps folder other fs later := by
  obtain ⟨-, hworking, hfolders, node, -, hroot⟩ := rename_eq_ok hne h
  refine ⟨hworking, hfolders, fun text hfile => ?_⟩
  rw [hroot, Node.at?_put_sibling hnewName, Node.at?_erase_sibling hname]
  exact hfile

/-! ## Reading -/

/-- Only a file that holds a text is read. -/
theorem read_eq_ok {fs : FileSystem} {path text : String} :
    fs.read path = .ok text ↔ fs.node path = .ok (.file (.text text)) := by
  rw [read, except_bind_eq_ok]
  constructor
  · rintro ⟨node, hnode, h⟩
    rw [hnode]
    cases node with
    | folder entries access =>
      dsimp only at h
      split at h <;> cases h
    | file content =>
      cases content with
      | text content =>
        obtain rfl := Except.ok.inj h
        rfl
      | unreadable reason => cases h
      | deadLink reason => cases h
  · exact fun h => ⟨_, h, rfl⟩

/-- A file is read back under the path of its name in the folder. -/
theorem read_join {fs : FileSystem} {folder name content : String} (h : fs.Accepts folder name)
    (hname : FilePath.IsName name)
    (hfile : fs.root.at? (fs.folderPlace folder ++ [name]) = some (.file content)) :
    fs.read (FilePath.join folder name) = .ok content := by
  obtain ⟨-, hne, hfollow⟩ := locate_eq_ok.1 h.located
  obtain ⟨way, ending, hsteps, hjoin, hending⟩ := FilePath.exists_steps_join hname
  have hway : follow fs.root (fs.start folder) way = .ok (fs.folderPlace folder) := by
    rw [hsteps, follow_append, except_bind_eq_ok] at hfollow
    obtain ⟨middle, hmiddle, hrest⟩ := hfollow
    rcases hending with rfl | rfl
    · exact Except.ok.inj hrest ▸ hmiddle
    · have hspot := follow_cons_eq_ok.1 hrest
      rw [if_pos rfl] at hspot
      exact Except.ok.inj hspot.2 ▸ hmiddle
  have hstep : follow fs.root (fs.folderPlace folder) [name] =
      .ok (fs.folderPlace folder ++ [name]) := by
    have htarget : checkTarget fs.root (fs.folderPlace folder ++ [name]) = .ok () := by
      rw [checkTarget, hfile]
    rw [follow_cons_eq_ok, if_neg hname.ne_empty, if_neg hname.ne_dot, if_neg hname.ne_dots]
    exact ⟨h.canEnter, h.name, htarget, rfl⟩
  have hstart : fs.start (FilePath.join folder name) = fs.start folder := by
    rw [start, start, FilePath.isAbsolute_join hne]
  have hlocate : fs.locate (FilePath.join folder name) =
      .ok (fs.folderPlace folder ++ [name]) := by
    refine locate_eq_ok.2 ⟨h.path, FilePath.join_ne_empty hne name, ?_⟩
    rw [hstart, hjoin, follow_append, hway]
    exact hstep
  rw [read_eq_ok, node, except_bind_eq_ok]
  exact ⟨_, hlocate, by rw [hfile]⟩

end FileSystem

end DiagnosticReport
