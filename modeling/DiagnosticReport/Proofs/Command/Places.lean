import DiagnosticReport.Proofs.Command.Names
import DiagnosticReport.Proofs.Files.Extension
import Mathlib.Data.List.DropRight

/-!
# Where reports are written

Whatever the id of a report is, its stem is a plain name (`IsStem`), and a plain name is its own
stem. So the path of a report leads one step below the folder for reports. The path under which a
report is written first has another extension behind the same stem, so it is the path of no report
(`reports_in_folder`).
-/

namespace DiagnosticReport

/-! ## Stems -/

/-- A text that names a file and neither hides it nor ends its name with a dot. -/
structure IsStem (cs : List Char) : Prop where
  ne_nil : cs ≠ []
  chars : ∀ c ∈ cs, isFileNameChar c
  head : cs.head? ≠ some '.'
  last : cs.getLast? ≠ some '.'

theorem head?_trimDots (cs : List Char) : (trimDots cs).head? ≠ some '.' := by
  intro h
  obtain ⟨rest, hrest⟩ := List.head?_eq_some_iff.1 h
  -- what is dropped at the end leaves the first character in front
  obtain ⟨tail, htail⟩ := List.rdropWhile_prefix (· == '.') (cs.dropWhile (· == '.'))
  have hfront : cs.dropWhile (· == '.') = '.' :: (rest ++ tail) := by
    rw [← htail, ← List.cons_append, ← hrest]
    rfl
  have hnot := List.head?_dropWhile_not (· == '.') cs
  rw [hfront] at hnot
  cases hnot

theorem getLast?_trimDots (cs : List Char) : (trimDots cs).getLast? ≠ some '.' := by
  intro h
  rw [trimDots, List.getLast?_reverse] at h
  have hnot := List.head?_dropWhile_not (· == '.') (cs.dropWhile (· == '.')).reverse
  rw [h] at hnot
  cases hnot

/-- A text without dots at its ends is left as it is. -/
theorem trimDots_eq_self {cs : List Char} (hhead : cs.head? ≠ some '.')
    (hlast : cs.getLast? ≠ some '.') : trimDots cs = cs := by
  have hfront : cs.dropWhile (· == '.') = cs := by
    cases cs with
    | nil => rfl
    | cons c rest =>
      apply List.dropWhile_cons_of_neg
      rw [beq_iff_eq]
      exact fun e => hhead (congrArg some e)
  have hback : cs.rdropWhile (· == '.') = cs := by
    refine List.rdropWhile_eq_self_iff.2 fun hne => ?_
    rw [beq_iff_eq]
    exact fun e => hlast (e ▸ List.getLast?_eq_some_getLast hne)
  rw [trimDots, hfront]
  exact hback

/-- A stem is a text whose dots at the ends were dropped, or stands in for an empty one. -/
theorem toList_fileStem (id : String) :
    (fileStem id).toList = "report".toList ∨
      ∃ cs, trimDots cs ≠ [] ∧ (fileStem id).toList = trimDots cs := by
  unfold fileStem
  split
  · exact .inl rfl
  · next hne => exact .inr ⟨_, hne, String.toList_ofList⟩

theorem isStem_fileStem (id : String) : IsStem (fileStem id).toList := by
  have hchars : ∀ c ∈ (fileStem id).toList, isFileNameChar c :=
    fun _ => isFileNameChar_of_mem_fileStem
  obtain hreport | ⟨cs, hne, hcs⟩ := toList_fileStem id
  · rw [hreport] at hchars ⊢
    exact ⟨by decide, hchars, by decide, by decide⟩
  · rw [hcs] at hchars ⊢
    exact ⟨hne, hchars, head?_trimDots cs, getLast?_trimDots cs⟩

theorem fileStem_ne_empty (id : String) : fileStem id ≠ "" :=
  fun h => (isStem_fileStem id).ne_nil (String.toList_eq_nil_iff.2 h)

/-- A plain name is its own stem. -/
theorem fileStem_eq_self {stem : String} (h : IsStem stem.toList) : fileStem stem = stem := by
  have hkept : (stem.toList.map fun c => if isFileNameChar c then c else '_') = stem.toList := by
    rw [List.map_congr_left fun c hc => if_pos (h.chars c hc), List.map_id']
  unfold fileStem
  rw [hkept, trimDots_eq_self h.head h.last]
  split
  · next hnil => exact absurd hnil h.ne_nil
  · next => exact String.ofList_toList

/-! ## Paths -/

/-- A report is written first to its own path with another extension. -/
theorem withExtension_join_reportName (folder id : String) :
    FilePath.withExtension (FilePath.join folder (reportName id)) "html.tmp" =
      FilePath.join folder (temporaryName id) := by
  have hreport : reportName id = fileStem id ++ "." ++ "html" := by
    rw [String.append_assoc]
    exact congrArg (fileStem id ++ ·) (by decide)
  have htemporary : temporaryName id = fileStem id ++ "." ++ "html.tmp" := by
    rw [String.append_assoc]
    exact congrArg (fileStem id ++ ·) (by decide)
  have hstem : FilePath.stem (reportName id) = fileStem id := by
    rw [hreport]
    exact FilePath.stem_append (fileStem_ne_empty id) (by decide)
  have hslash := (isName_temporaryName id).no_slash
  rw [htemporary, ← hstem] at hslash
  rw [FilePath.withExtension_join (isName_reportName id) hslash, hstem, htemporary]

/-- **Where reports are written.** The stem of any id is a plain name and its own stem. So the path
of a report leads to a name in the folder for reports, in every file system. The path with the
temporary extension leads to the path of no report there, of whatever id. -/
theorem reports_in_folder (folder id other : String) :
    (fileStem id ≠ "" ∧
      (∀ c ∈ (fileStem id).toList, c.isAlphanum ∨ c = '-' ∨ c = '_' ∨ c = '.') ∧
      (fileStem id).toList.head? ≠ some '.' ∧ (fileStem id).toList.getLast? ≠ some '.' ∧
      fileStem (fileStem id) = fileStem id) ∧
    (FilePath.IsName (reportName id) ∧
      FilePath.steps (FilePath.join folder (reportName id)) =
        FilePath.way folder ++ [reportName id] ∧
      ∀ fs : FileSystem, fs.folderPlace (FilePath.join folder (reportName id)) =
        fs.folderPlace folder ++ [reportName id]) ∧
    (FilePath.withExtension (FilePath.join folder (reportName id)) "html.tmp" =
        FilePath.join folder (temporaryName id) ∧
      FilePath.steps (FilePath.join folder (temporaryName id)) ≠
        FilePath.steps (FilePath.join folder (reportName other)) ∧
      ∀ fs : FileSystem, fs.folderPlace (FilePath.join folder (temporaryName id)) ≠
        fs.folderPlace (FilePath.join folder (reportName other))) := by
  have hstem := isStem_fileStem id
  have hother := isName_reportName other
  have htemporary := isName_temporaryName id
  refine ⟨⟨fileStem_ne_empty id, fun c hc => ?_, hstem.head, hstem.last, fileStem_eq_self hstem⟩,
    ⟨isName_reportName id, FilePath.steps_join (isName_reportName id) folder,
      fun fs => fs.folderPlace_join (isName_reportName id) folder⟩,
    withExtension_join_reportName folder id, ?_, fun fs => ?_⟩
  · simpa [isFileNameChar, isAsciiAlphanumeric, or_assoc] using hstem.chars c hc
  · rw [FilePath.steps_join htemporary, FilePath.steps_join hother]
    simpa using temporaryName_ne_reportName id other
  · rw [fs.folderPlace_join htemporary, fs.folderPlace_join hother]
    simpa using temporaryName_ne_reportName id other

end DiagnosticReport
