import DiagnosticReport.Command.Error
import DiagnosticReport.Files.Loading

/-!
# Recipes in a folder

A folder is searched for recipes with all folders below it. What is still to be read waits on a
stack: a folder that is read puts the folders in it on top, and its files are found if the settings
include them. The first folder that is not listed stops the search. The files found are put in the
order of their names.
-/

namespace DiagnosticReport

/-- The order of lists of names: by the first name in which they differ. -/
def namesInOrder : List String → List String → Bool
  | [], _ => true
  | _ :: _, [] => false
  | a :: as, b :: bs => if a = b then namesInOrder as bs else decide (a < b)

/-! ## Searching -/

/-- A search under way. Files and folders are named by the names that lead to them. -/
structure Search where
  /-- The folders still to be read; the first one is read next. -/
  pending : List (List String × Node)
  found : List (List String) := []

namespace Search

/-- The search before a folder is read. -/
def start (folder : Node) : Search :=
  { pending := [([], folder)] }

/-- Look at an entry of the folder that the names of a way lead to. -/
def visit (settings : Settings) (way : List String) (search : Search) (entry : String × Node) :
    Search :=
  let names := way ++ [entry.1]
  if entry.2.isFolder then { search with pending := (names, entry.2) :: search.pending }
  else if settings.includes (String.intercalate "/" names) then
    { search with found := search.found ++ [names] }
  else search

/-- Look at the entries of a folder that is no longer pending, one after the other. -/
def read (settings : Settings) (way : List String) (entries : List (String × Node))
    (search : Search) : Search :=
  entries.foldl (visit settings way) search

/-- The number of folders that wait to be read, with those in them. -/
def foldersIn : List (List String × Node) → Nat
  | [] => 0
  | folder :: rest => folder.2.folderCount + foldersIn rest

/-- The number of folders that a search has still to read. -/
def weight (search : Search) : Nat :=
  foldersIn search.pending

theorem weight_visit (settings : Settings) (way : List String) (search : Search)
    (entry : String × Node) :
    (search.visit settings way entry).weight = search.weight + entry.2.folderCount := by
  obtain ⟨name, node⟩ := entry
  cases node with
  | folder entries access => exact Nat.add_comm _ _
  | file content =>
    simp only [visit, Node.isFolder, Bool.false_eq_true, if_false]
    split <;> rfl

theorem weight_read (settings : Settings) (way : List String) (entries : List (String × Node))
    (search : Search) :
    (search.read settings way entries).weight = search.weight + Node.folderCountIn entries := by
  induction entries generalizing search with
  | nil => rfl
  | cons entry entries ih =>
    show ((search.visit settings way entry).read settings way entries).weight = _
    rw [ih, weight_visit, Nat.add_assoc]
    rfl

/-- Read folder after folder until none is left, or one is not listed. -/
def run (settings : Settings) : Search → Except (List String × ListingError) (List (List String))
  | ⟨[], found⟩ => .ok found
  | ⟨(way, folder) :: rest, found⟩ =>
    match _hlisting : folder.listing with
    | .ok entries => run settings (read settings way entries ⟨rest, found⟩)
    | .error reason => .error (way, reason)
termination_by search => search.weight
decreasing_by
  have hcount := Node.folderCount_of_listing ‹folder.listing = .ok entries›
  rw [weight_read]
  simp only [weight, foldersIn, hcount]
  omega

theorem run_cons_of_listing {settings : Settings} {way : List String} {folder : Node}
    {rest : List (List String × Node)} {found : List (List String)}
    {entries : List (String × Node)} (h : folder.listing = .ok entries) :
    run settings ⟨(way, folder) :: rest, found⟩ =
      run settings (read settings way entries ⟨rest, found⟩) := by
  rw [run]
  split
  · next other hother =>
    rw [h] at hother
    cases hother
    rfl
  · next reason hreason =>
    rw [h] at hreason
    cases hreason

theorem run_cons_of_fault {settings : Settings} {way : List String} {folder : Node}
    {rest : List (List String × Node)} {found : List (List String)} {reason : ListingError}
    (h : folder.listing = .error reason) :
    run settings ⟨(way, folder) :: rest, found⟩ = .error (way, reason) := by
  rw [run]
  split
  · next entries hentries =>
    rw [h] at hentries
    cases hentries
  · next other hother =>
    rw [h] at hother
    cases hother
    rfl

end Search

/-- The files below a folder that the settings include, in the order of their names. -/
def recipeFiles (settings : Settings) (folder : Node) :
    Except (List String × ListingError) (List (List String)) :=
  (Search.run settings (.start folder)).map fun found => found.mergeSort namesInOrder

/-- What a folder that is not listed means for a command. -/
def CommandError.ofListing (path : String) : ListingError → CommandError
  | .refused reason => .folderNotRead path reason
  | .cutShort reason => .entryNotRead reason

/-- The paths of the recipes to render in a folder. -/
def FileSystem.discoverRecipes (fs : FileSystem) (settings : Settings) (folder : String) :
    Except CommandError (List String) :=
  match fs.folder? folder with
  | some node =>
    match recipeFiles settings (searchable folder node) with
    | .ok places => .ok (places.map (FilePath.joinAll folder))
    | .error (way, reason) => .error (.ofListing (FilePath.joinAll folder way) reason)
  | none => .error (.noRecipesFolder folder)

end DiagnosticReport
