import DiagnosticReport.Files.Tree

/-!
# Changes of a tree

What is found at a place after a node was put or erased at another one. A change in a folder leaves
the other names of the folder alone, and a new folder leaves all files alone. Folders stay with
their access.
-/

namespace DiagnosticReport.Node

/-! ## Children -/

theorem child?_putEntry (name n : String) (node : Node) (entries : List (String × Node))
    (access : Access) :
    (folder (putEntry name node entries) access).child? n =
      if n = name then some node else (folder entries access).child? n := by
  unfold child?
  induction entries with
  | nil => by_cases h : name = n <;> simp [putEntry, h, eq_comm (a := n)]
  | cons entry rest ih =>
    rw [putEntry]
    by_cases hentry : entry.1 = name
    · by_cases h : n = name
      · simp [hentry, h]
      · simp [hentry, h, Ne.symm h]
    · by_cases h : entry.1 = n
      · have hne : n ≠ name := fun e => hentry (h.trans e)
        simp [h, hne]
      · simpa [hentry, h] using ih

theorem child?_filter (name n : String) (entries : List (String × Node)) (access : Access) :
    (folder (entries.filter fun entry => entry.1 != name) access).child? n =
      if n = name then none else (folder entries access).child? n := by
  unfold child?
  induction entries with
  | nil => simp
  | cons entry rest ih =>
    rw [List.filter_cons]
    by_cases hentry : entry.1 = name
    · by_cases h : n = name
      · simp [hentry, h]
      · simpa [hentry, h, Ne.symm h] using ih
    · by_cases h : entry.1 = n
      · have hne : n ≠ name := fun e => hentry (h.trans e)
        simp [h, hne]
      · simpa [hentry, h] using ih

/-- Putting a node changes one child of a folder. -/
theorem child?_put_cons (node new : Node) (name : String) (rest : List String) (n : String) :
    (node.put new (name :: rest)).child? n =
      if n = name then some (((node.child? name).getD emptyFolder).put new rest)
      else node.child? n := by
  cases node with
  | folder entries access => exact child?_putEntry _ _ _ _ _
  | file content => exact child?_putEntry name n _ [] {}

theorem child?_erase_singleton (node : Node) (name n : String) :
    (node.erase [name]).child? n = if n = name then none else node.child? n := by
  cases node with
  | folder entries access => exact child?_filter name n entries access
  | file content => simp [erase, child?]

theorem child?_erase_cons_cons (node : Node) (name next : String) (rest : List String)
    (n : String) :
    (node.erase (name :: next :: rest)).child? n =
      if n = name then (node.child? name).map fun child => child.erase (next :: rest)
      else node.child? n := by
  cases node with
  | folder entries access =>
    cases hchild : (folder entries access).child? name with
    | none =>
      by_cases h : n = name <;> simp [erase, hchild, h]
    | some child =>
      simp only [erase, hchild]
      exact child?_putEntry _ _ _ _ _
  | file content => simp [erase, child?]

/-! ## Places -/

theorem at?_emptyFolder_append (place : List String) (name : String) :
    emptyFolder.at? (place ++ [name]) = none := by
  cases place <;> rfl

/-- A node is found where it was put. -/
theorem at?_put_self (node new : Node) (place : List String) :
    (node.put new place).at? place = some new := by
  induction place generalizing node with
  | nil => rfl
  | cons name place ih =>
    rw [at?, child?_put_cons, if_pos rfl, Option.bind_some, ih]

/-- A node put into a folder leaves the other names there alone. -/
theorem at?_put_sibling {name other : String} (h : other ≠ name) (node new : Node)
    (place : List String) :
    (node.put new (place ++ [name])).at? (place ++ [other]) = node.at? (place ++ [other]) := by
  induction place generalizing node with
  | nil => rw [List.nil_append, List.nil_append, at?, at?, child?_put_cons, if_neg h]
  | cons n place ih =>
    rw [List.cons_append, List.cons_append, at?, at?, child?_put_cons, if_pos rfl,
      Option.bind_some, ih]
    cases node.child? n with
    | none => exact at?_emptyFolder_append place other
    | some child => rfl

/-- A node erased from a folder leaves the other names there alone. -/
theorem at?_erase_sibling {name other : String} (h : other ≠ name) (node : Node)
    (place : List String) :
    (node.erase (place ++ [name])).at? (place ++ [other]) = node.at? (place ++ [other]) := by
  induction place generalizing node with
  | nil => rw [List.nil_append, List.nil_append, at?, at?, child?_erase_singleton, if_neg h]
  | cons n place ih =>
    obtain ⟨next, rest, hrest⟩ := List.exists_cons_of_ne_nil
      (show place ++ [name] ≠ [] by simp)
    rw [List.cons_append, List.cons_append, at?, at?, hrest, child?_erase_cons_cons, if_pos rfl]
    cases node.child? n with
    | none => rfl
    | some child =>
      rw [Option.map_some, Option.bind_some, Option.bind_some, ← hrest, ih]

/-! ## Folders and files that stay -/

/-- There is a folder of some access at a place. -/
def HasAccess (node : Node) (place : List String) (access : Access) : Prop :=
  ∃ entries, node.at? place = some (folder entries access)

/-- There is a folder at a place. -/
def HasFolder (node : Node) (place : List String) : Prop :=
  ∃ access, node.HasAccess place access

/-- There is a folder at a place in which names can be looked up. -/
def CanEnter (node : Node) (place : List String) : Prop :=
  ∃ access, node.HasAccess place access ∧ access.canEnter

theorem CanEnter.hasFolder {node : Node} {place : List String} (h : node.CanEnter place) :
    node.HasFolder place := by
  obtain ⟨access, h, -⟩ := h
  exact ⟨access, h⟩

/-- A place has a folder if the node there is one. -/
theorem hasFolder_iff {node : Node} {place : List String} :
    node.HasFolder place ↔ (node.at? place).any isFolder := by
  unfold HasFolder HasAccess
  cases node.at? place with
  | none => simp
  | some node => cases node <;> simp [isFolder]

theorem hasAccess_nil {node : Node} {access : Access} :
    node.HasAccess [] access ↔ ∃ entries, node = folder entries access := by
  simp [HasAccess, at?]

theorem hasAccess_cons {node : Node} {name : String} {place : List String} {access : Access} :
    node.HasAccess (name :: place) access ↔ ∃ child, node.child? name = some child ∧
      child.HasAccess place access := by
  unfold HasAccess
  rw [at?]
  cases node.child? name <;> simp

theorem hasFolder_cons {node : Node} {name : String} {place : List String} :
    node.HasFolder (name :: place) ↔ ∃ child, node.child? name = some child ∧
      child.HasFolder place := by
  simp only [HasFolder, hasAccess_cons]
  exact ⟨fun ⟨access, child, h⟩ => ⟨child, h.1, access, h.2⟩,
    fun ⟨child, h, access, h'⟩ => ⟨access, child, h, h'⟩⟩

theorem HasFolder.exists_eq_folder {node : Node} {place : List String}
    (h : node.HasFolder place) : ∃ entries access, node = folder entries access := by
  cases node with
  | folder entries access => exact ⟨entries, access, rfl⟩
  | file content =>
    obtain ⟨access, entries, h⟩ := h
    cases place <;> cases h

theorem hasAccess_put_cons {node : Node} {access : Access} (h : node.HasAccess [] access)
    (new : Node) (name : String) (place : List String) :
    (node.put new (name :: place)).HasAccess [] access := by
  obtain ⟨entries, rfl⟩ := hasAccess_nil.1 h
  exact ⟨_, rfl⟩

theorem HasAccess.erase_nil {node : Node} {access : Access} (h : node.HasAccess [] access)
    (place : List String) : (node.erase place).HasAccess [] access := by
  obtain ⟨entries, rfl⟩ := hasAccess_nil.1 h
  match place with
  | [] | [_] => exact ⟨_, rfl⟩
  | name :: next :: rest =>
    cases hchild : (folder entries access).child? name <;> simp only [erase, hchild] <;>
      exact ⟨_, rfl⟩

/-- A node put where no folder is leaves all folders in their places. -/
theorem HasAccess.put {node : Node} {place folder : List String} {access : Access}
    (h : node.HasAccess folder access) (hplace : ¬node.HasFolder place) (new : Node) :
    (node.put new place).HasAccess folder access := by
  induction place generalizing node folder with
  | nil =>
    obtain ⟨entries, other, rfl⟩ := HasFolder.exists_eq_folder ⟨access, h⟩
    exact absurd ⟨other, entries, rfl⟩ hplace
  | cons name place ih =>
    cases folder with
    | nil => exact hasAccess_put_cons h new name place
    | cons n folder =>
      obtain ⟨child, hchild, hfolder⟩ := hasAccess_cons.1 h
      rw [hasAccess_cons, child?_put_cons]
      by_cases hn : n = name
      · subst hn
        have hchildPlace : ¬child.HasFolder place :=
          fun hfound => hplace (hasFolder_cons.2 ⟨child, hchild, hfound⟩)
        rw [if_pos rfl, hchild]
        exact ⟨_, rfl, ih hfolder hchildPlace⟩
      · rw [if_neg hn]
        exact ⟨child, hchild, hfolder⟩

/-- A node that is no folder leaves all folders in their places when it is erased. -/
theorem HasAccess.erase {node : Node} {place folder : List String} {access : Access}
    (h : node.HasAccess folder access) (hplace : ¬node.HasFolder place) :
    (node.erase place).HasAccess folder access := by
  induction place generalizing node folder with
  | nil => exact h
  | cons name place ih =>
    cases folder with
    | nil => exact h.erase_nil _
    | cons n folder =>
      obtain ⟨child, hchild, hfolder⟩ := hasAccess_cons.1 h
      have hchildPlace : n = name → ¬child.HasFolder place := by
        rintro rfl hfound
        exact hplace (hasFolder_cons.2 ⟨child, hchild, hfound⟩)
      rw [hasAccess_cons]
      cases place with
      | nil =>
        have hn : n ≠ name := by
          intro e
          obtain ⟨entries, other, rfl⟩ := HasFolder.exists_eq_folder ⟨access, hfolder⟩
          exact hchildPlace e ⟨other, entries, rfl⟩
        rw [child?_erase_singleton, if_neg hn]
        exact ⟨child, hchild, hfolder⟩
      | cons next rest =>
        rw [child?_erase_cons_cons]
        by_cases hn : n = name
        · subst hn
          rw [if_pos rfl, hchild]
          exact ⟨_, rfl, ih hfolder (hchildPlace rfl)⟩
        · rw [if_neg hn]
          exact ⟨child, hchild, hfolder⟩

/-- A folder added to a folder leaves all files in their places. -/
theorem at?_put_emptyFolder {node : Node} {parent place : List String} {name : String}
    {content : Content} (hparent : node.HasFolder parent)
    (hnew : node.at? (parent ++ [name]) = none) (hfile : node.at? place = some (file content)) :
    (node.put emptyFolder (parent ++ [name])).at? place = some (file content) := by
  induction parent generalizing node place with
  | nil =>
    cases place with
    | nil =>
      obtain rfl := Option.some.inj hfile
      obtain ⟨_, _, h⟩ := hparent.exists_eq_folder
      cases h
    | cons n place =>
      have hne : n ≠ name := by
        rintro rfl
        rw [List.nil_append, at?, Option.bind_eq_none_iff] at hnew
        rw [at?, Option.bind_eq_some_iff] at hfile
        obtain ⟨child, hchild, -⟩ := hfile
        exact nomatch hnew child hchild
      rw [List.nil_append, at?, child?_put_cons, if_neg hne]
      exact hfile
  | cons m parent ih =>
    cases place with
    | nil =>
      obtain rfl := Option.some.inj hfile
      obtain ⟨_, _, h⟩ := hparent.exists_eq_folder
      cases h
    | cons n place =>
      rw [List.cons_append, at?, child?_put_cons]
      by_cases hn : n = m
      · subst hn
        obtain ⟨child, hchild, hfolder⟩ := hasFolder_cons.1 hparent
        rw [at?, hchild] at hfile
        rw [List.cons_append, at?, hchild] at hnew
        rw [if_pos rfl, hchild]
        exact ih hfolder hnew hfile
      · rw [if_neg hn]
        exact hfile

end DiagnosticReport.Node
