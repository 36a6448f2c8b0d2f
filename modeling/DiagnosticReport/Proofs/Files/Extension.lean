import DiagnosticReport.Proofs.Files.Path

/-!
# Extensions of paths

The extension of a name is what stands behind its last dot, unless that dot is the first character.
A path gets another extension by a change of its last name (`withExtension`); in a folder the path
of a name becomes the path of the changed name (`withExtension_join`).
-/

namespace DiagnosticReport.FilePath

/-- A name without its extension. -/
def stem (name : String) : String :=
  match name.toList.reverse.dropWhile (· != '.') with
  | _ :: c :: before => String.ofList (c :: before).reverse
  | _ => name

/-- The path with another extension of its last name; a path whose last step is not a name stays
as it is. -/
def withExtension (path extension : String) : String :=
  match trimmedPieces (pieces path).reverse with
  | name :: way =>
    if name = "" ∨ name = "." ∨ name = ".." then path
    else String.intercalate "/" (way.reverse ++ [stem name ++ "." ++ extension])
  | [] => path

/-! ## Names -/

/-- A dot starts the extension if no other dot follows and something stands before it. -/
theorem stem_append {name extension : String} (hname : name ≠ "")
    (hextension : '.' ∉ extension.toList) : stem (name ++ "." ++ extension) = name := by
  have hreverse : (name ++ "." ++ extension).toList.reverse =
      extension.toList.reverse ++ '.' :: name.toList.reverse := by
    simp [String.toList_append]
  have hdrop : (name ++ "." ++ extension).toList.reverse.dropWhile (· != '.') =
      '.' :: name.toList.reverse := by
    rw [hreverse, List.dropWhile_append_of_pos]
    · rfl
    · intro c hc
      rw [List.mem_reverse] at hc
      exact bne_iff_ne.2 fun e => hextension (e ▸ hc)
  have hne : name.toList.reverse ≠ [] := by
    rwa [Ne, List.reverse_eq_nil_iff, String.toList_eq_nil_iff]
  obtain ⟨c, before, hbefore⟩ := List.exists_cons_of_ne_nil hne
  unfold stem
  rw [hdrop, hbefore]
  dsimp only
  rw [← hbefore, List.reverse_reverse, String.ofList_toList]

/-! ## Paths -/

/-- The pieces of a path with slashes between them are the path. -/
theorem intercalate_pieces (path : String) : String.intercalate "/" (pieces path) = path := by
  apply String.toList_injective
  rw [String.toList_intercalate, pieces, List.map_map]
  simp only [Function.comp_def, String.toList_ofList, List.map_id']
  exact List.intercalate_splitOn '/'

theorem trimmedPieces_cons {name : String} (hname : IsName name) (way : List String) :
    trimmedPieces (name :: way) = name :: way := by
  cases way with
  | nil => rfl
  | cons next rest => simp [trimmedPieces, hname.ne_empty, hname.ne_dot]

/-- In a folder another extension changes the name and nothing else. -/
theorem withExtension_join {name extension : String} (hname : IsName name)
    (hslash : '/' ∉ (stem name ++ "." ++ extension).toList) (folder : String) :
    withExtension (join folder name) extension = join folder (stem name ++ "." ++ extension) := by
  obtain ⟨front, -, hfront⟩ := exists_pieces_join folder
  have hpieces : trimmedPieces (pieces (join folder name)).reverse = name :: front.reverse := by
    rw [hfront name hname.no_slash, List.reverse_append, List.reverse_singleton,
      List.singleton_append, trimmedPieces_cons hname]
  have hnot : ¬(name = "" ∨ name = "." ∨ name = "..") := by
    rintro (h | h | h)
    · exact hname.ne_empty h
    · exact hname.ne_dot h
    · exact hname.ne_dots h
  rw [withExtension, hpieces]
  dsimp only
  rw [if_neg hnot, List.reverse_reverse, ← hfront _ hslash, intercalate_pieces]

example : withExtension "reports/q1.v2.html" "html.tmp" = "reports/q1.v2.html.tmp" := by cbv

end DiagnosticReport.FilePath
