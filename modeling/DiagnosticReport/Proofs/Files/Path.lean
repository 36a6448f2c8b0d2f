import DiagnosticReport.Files.Path

/-!
# The steps of joined paths

A name joined to the path of a folder takes one more step than the path of the folder does, and
several names one step each.
-/

namespace DiagnosticReport.FilePath

/-- A text that names something in a folder, and is not a way to a place nearby. -/
structure IsName (name : String) : Prop where
  ne_empty : name ≠ ""
  no_slash : '/' ∉ name.toList
  ne_dot : name ≠ "."
  ne_dots : name ≠ ".."

instance : DecidablePred IsName := fun name =>
  decidable_of_iff (name ≠ "" ∧ '/' ∉ name.toList ∧ name ≠ "." ∧ name ≠ "..")
    ⟨fun h => ⟨h.1, h.2.1, h.2.2.1, h.2.2.2⟩,
      fun h => ⟨h.ne_empty, h.no_slash, h.ne_dot, h.ne_dots⟩⟩

theorem pieces_slash (folder : String) {name : String} (h : '/' ∉ name.toList) :
    pieces (folder ++ "/" ++ name) = pieces folder ++ [name] := by
  have hlist : (folder ++ "/" ++ name).toList = folder.toList ++ '/' :: name.toList := by
    simp [String.toList_append]
  rw [pieces, hlist, List.splitOn_append_cons_self, List.splitOn_eq_singleton h, List.map_append,
    List.map_singleton, String.ofList_toList]
  rfl

theorem endsWithSlash_append {name : String} (hname : IsName name) (s : String) :
    endsWithSlash (s ++ name) = false := by
  have hne : name.toList ≠ [] := fun e => hname.ne_empty (String.toList_eq_nil_iff.1 e)
  have hlast : name.toList.getLast hne ≠ '/' :=
    fun e => hname.no_slash (e ▸ List.getLast_mem hne)
  rw [endsWithSlash, String.toList_append, List.getLast?_append,
    List.getLast?_eq_some_getLast hne, Option.some_or]
  simpa using hlast

theorem exists_of_endsWithSlash {folder : String} (h : endsWithSlash folder) :
    ∃ s, folder = s ++ "/" := by
  rw [endsWithSlash, beq_iff_eq, List.getLast?_eq_some_iff] at h
  obtain ⟨cs, hcs⟩ := h
  refine ⟨String.ofList cs, String.toList_injective ?_⟩
  rw [hcs, String.toList_append, String.toList_ofList]
  rfl

theorem endsWithSlash_join {name : String} (hname : IsName name) (folder : String) :
    endsWithSlash (join folder name) = false := by
  unfold join
  split <;> exact endsWithSlash_append hname _

/-- The steps of a path without the one that a slash at the end stands for. -/
def way (path : String) : List String :=
  (pieces path).filter fun piece => !piece.isEmpty

/-- A name in a folder is one more piece behind pieces that come from the folder alone. -/
theorem exists_pieces_join (folder : String) :
    ∃ front, front.filter (fun piece => !piece.isEmpty) = way folder ∧
      ∀ name : String, '/' ∉ name.toList → pieces (join folder name) = front ++ [name] := by
  by_cases hempty : folder = ""
  · subst hempty
    refine ⟨[], rfl, fun name hname => ?_⟩
    have hjoin : join "" name = name := String.empty_append
    rw [hjoin, pieces, List.splitOn_eq_singleton hname, List.map_singleton, String.ofList_toList]
    rfl
  by_cases hslash : endsWithSlash folder
  · obtain ⟨s, rfl⟩ := exists_of_endsWithSlash hslash
    have hpieces : pieces (s ++ "/") = pieces s ++ [""] := by
      simpa using pieces_slash s (show '/' ∉ "".toList by decide)
    refine ⟨pieces s, by simp [way, hpieces], fun name hname => ?_⟩
    have hjoin : join (s ++ "/") name = s ++ "/" ++ name := by
      simp [join, hslash]
    rw [hjoin, pieces_slash s hname]
  · refine ⟨pieces folder, rfl, fun name hname => ?_⟩
    have hjoin : join folder name = folder ++ "/" ++ name := by
      simp [join, hslash, hempty]
    rw [hjoin, pieces_slash folder hname]

theorem way_join {name : String} (hname : IsName name) (folder : String) :
    way (join folder name) = way folder ++ [name] := by
  obtain ⟨front, hway, hfront⟩ := exists_pieces_join folder
  have hkept : [name].filter (fun piece => !piece.isEmpty) = [name] := by
    simp [hname.ne_empty]
  rw [way, hfront name hname.no_slash, List.filter_append, hkept, hway]

/-- A name takes one step behind the steps of its folder. -/
theorem steps_join {name : String} (hname : IsName name) (folder : String) :
    steps (join folder name) = way folder ++ [name] := by
  rw [steps, endsWithSlash_join hname]
  exact (List.append_nil _).trans (way_join hname folder)

theorem steps_joinAll {names : List String} (hne : names ≠ [])
    (hnames : ∀ name ∈ names, IsName name) (folder : String) :
    steps (joinAll folder names) = way folder ++ names := by
  induction names generalizing folder with
  | nil => exact absurd rfl hne
  | cons name rest ih =>
    obtain ⟨hname, hrest⟩ := List.forall_mem_cons.1 hnames
    cases rest with
    | nil => exact steps_join hname folder
    | cons next rest =>
      show steps (joinAll (join folder name) (next :: rest)) = _
      rw [ih (List.cons_ne_nil _ _) hrest, way_join hname, List.append_assoc, List.singleton_append]

/-- A name takes one step behind the steps of its folder, or in place of the step that a slash at
the end stands for. -/
theorem exists_steps_join {folder name : String} (hname : IsName name) :
    ∃ way ending, steps folder = way ++ ending ∧ steps (join folder name) = way ++ [name] ∧
      (ending = [] ∨ ending = [""]) := by
  refine ⟨way folder, _, rfl, steps_join hname folder, ?_⟩
  split
  · exact .inr rfl
  · exact .inl rfl

theorem isAbsolute_join {folder : String} (hfolder : folder ≠ "") (name : String) :
    isAbsolute (join folder name) = isAbsolute folder := by
  have hne : folder.toList ≠ [] := fun e => hfolder (String.toList_eq_nil_iff.1 e)
  obtain ⟨c, cs, hcs⟩ := List.exists_cons_of_ne_nil hne
  unfold isAbsolute join
  split <;> simp [String.toList_append, hcs]

/-- The path of a name starts where the path of its folder does. -/
theorem isAbsolute_join_of_isName {name : String} (hname : IsName name) (folder : String) :
    isAbsolute (join folder name) = isAbsolute folder := by
  by_cases hfolder : folder = ""
  · subst hfolder
    have hjoin : join "" name = name := String.empty_append
    rw [hjoin, isAbsolute, isAbsolute, beq_eq_false_iff_ne.2]
    · rfl
    · exact fun h => hname.no_slash (List.mem_of_head? h)
  · exact isAbsolute_join hfolder name

theorem join_ne_empty {folder : String} (hfolder : folder ≠ "") (name : String) :
    join folder name ≠ "" := by
  unfold join
  split <;> simp [hfolder]

theorem join_injective {folder name other : String} (h : join folder name = join folder other) :
    name = other := by
  unfold join at h
  split at h
  · exact (String.append_right_inj _).1 h
  · exact (String.append_right_inj _).1 h

end DiagnosticReport.FilePath
