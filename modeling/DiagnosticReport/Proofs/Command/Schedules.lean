import DiagnosticReport.Proofs.Command.Names
import Mathlib.Data.List.Nodup
import Mathlib.Logic.Relation

/-!
# Writing reports side by side

Each report is written by a writer of its own: it makes the folder, writes under a temporary name
and renames. The writers make their changes in any order among them; writing one report after the
other is one such order. Whatever the order is, writers whose reports have distinct stems do not
touch each other's files, so in the end every file holds its report.
-/

namespace DiagnosticReport

/-! ## Writers -/

/-- A change of a file system. -/
inductive Change where
  | createFolder (path : String)
  | write (folder name content : String)
  | rename (folder name newName : String)

def Change.apply : Change → FileSystem → Except FileError FileSystem
  | createFolder path, fs => fs.createFolder path
  | write folder name content, fs => fs.write folder name content
  | rename folder name newName, fs => fs.rename folder name newName

/-- A report to be written: the id that names it and its text. -/
structure ReportFile where
  id : String
  text : String

/-- The changes by which a report is written, in their order. -/
def ReportFile.changes (folder : String) (report : ReportFile) : List Change :=
  [.createFolder (FilePath.folderText folder),
   .write folder (temporaryName report.id) report.text,
   .rename folder (temporaryName report.id) (reportName report.id)]

/-- The writer of a report, with the changes that it has yet to make. -/
structure Writer where
  report : ReportFile
  pending : List Change

/-- Writers at work on a file system. -/
structure Writers where
  files : FileSystem
  writers : List Writer

namespace Writers

/-- One of the writers makes its next change. -/
inductive Step : Writers → Writers → Prop
  | change {files later : FileSystem} {before after : List Writer} {report : ReportFile}
      {c : Change} {rest : List Change} (h : c.apply files = .ok later) :
      Step ⟨files, before ++ ⟨report, c :: rest⟩ :: after⟩
        ⟨later, before ++ ⟨report, rest⟩ :: after⟩

/-- The writers make some of their changes, in any order among them. -/
def Runs : Writers → Writers → Prop :=
  Relation.ReflTransGen Step

/-- The writers of reports before their first change. -/
def start (files : FileSystem) (folder : String) (reports : List ReportFile) : Writers :=
  ⟨files, reports.map fun report => ⟨report, report.changes folder⟩⟩

/-- No writer has a change left to make. -/
def Done (w : Writers) : Prop :=
  ∀ writer ∈ w.writers, writer.pending = []

end Writers

/-! ## One after the other -/

section

variable {α β : Type}

theorem writing_bind_eq_ok {x : Writing α} {f : α → Writing β} {fs later : FileSystem} {b : β}
    (h : (x >>= f) fs = (.ok b, later)) :
    ∃ a middle, x fs = (.ok a, middle) ∧ f a middle = (.ok b, later) := by
  have hbind : (x >>= f) fs = (ExceptT.bindCont f (x fs).1) (x fs).2 := rfl
  rw [hbind] at h
  cases hx : x fs with
  | mk result middle =>
    rw [hx] at h
    cases result with
    | ok a => exact ⟨a, middle, rfl, h⟩
    | error e => cases h

theorem change_eq_ok {act : FileSystem → Except FileError FileSystem}
    {error : FileError → CommandError} {fs later : FileSystem} {u : Unit}
    (h : change act error fs = (.ok u, later)) : act fs = .ok later := by
  obtain ⟨state, middle, hget, h⟩ := writing_bind_eq_ok h
  cases hget
  cases hact : act fs with
  | ok made =>
    rw [hact] at h
    cases h
    rfl
  | error reason =>
    rw [hact] at h
    cases h

/-- A report that is written has made the changes of its writer. -/
theorem writeReport_eq_ok {folder id text path : String} {fs later : FileSystem}
    (h : writeReport folder id text fs = (.ok path, later)) :
    ∃ made written, (Change.createFolder (FilePath.folderText folder)).apply fs = .ok made ∧
      (Change.write folder (temporaryName id) text).apply made = .ok written ∧
      (Change.rename folder (temporaryName id) (reportName id)).apply written = .ok later := by
  obtain ⟨_, made, hmade, h⟩ := writing_bind_eq_ok h
  obtain ⟨_, written, hwritten, h⟩ := writing_bind_eq_ok h
  obtain ⟨_, renamed, hrenamed, h⟩ := writing_bind_eq_ok h
  cases h
  exact ⟨made, written, change_eq_ok hmade, change_eq_ok hwritten, change_eq_ok hrenamed⟩

end

namespace Writers

theorem runs_writer {fs made written later : FileSystem} {folder : String} {report : ReportFile}
    (hmade : (Change.createFolder (FilePath.folderText folder)).apply fs = .ok made)
    (hwritten : (Change.write folder (temporaryName report.id) report.text).apply made =
      .ok written)
    (hlater : (Change.rename folder (temporaryName report.id) (reportName report.id)).apply
      written = .ok later) (before after : List Writer) :
    Runs ⟨fs, before ++ ⟨report, report.changes folder⟩ :: after⟩
      ⟨later, before ++ ⟨report, []⟩ :: after⟩ :=
  .tail (.tail (.single (.change hmade)) (.change hwritten)) (.change hlater)

/-- Writing one report after the other is one of the orders in which the writers may work. -/
theorem runs_of_mapM_writeReport {fs later : FileSystem} {folder : String}
    {reports : List ReportFile} {paths : List String}
    (h : reports.mapM (fun report => writeReport folder report.id report.text) fs =
      (.ok paths, later)) (finished : List Writer) :
    Runs ⟨fs, finished ++ reports.map fun report => ⟨report, report.changes folder⟩⟩
      ⟨later, finished ++ reports.map fun report => ⟨report, []⟩⟩ := by
  induction reports generalizing fs paths finished with
  | nil =>
    cases h
    exact .refl
  | cons report reports ih =>
    rw [List.mapM_cons] at h
    obtain ⟨path, middle, hfirst, h⟩ := writing_bind_eq_ok h
    obtain ⟨others, last, hothers, h⟩ := writing_bind_eq_ok h
    cases h
    obtain ⟨made, written, hmade, hwritten, hlater⟩ := writeReport_eq_ok hfirst
    have hrest := ih hothers (finished ++ [⟨report, []⟩])
    simp only [List.append_assoc, List.singleton_append] at hrest
    exact (runs_writer hmade hwritten hlater finished _).trans hrest

end Writers

/-! ## Progress -/

/-- How far a report is written when these changes are left to be made. -/
inductive Progress (folder : String) (report : ReportFile) (fs : FileSystem) : List Change → Prop
  | fresh : Progress folder report fs (report.changes folder)
  | ready : Progress folder report fs
      [.write folder (temporaryName report.id) report.text,
       .rename folder (temporaryName report.id) (reportName report.id)]
  | written (hfile : fs.root.at? (fs.folderPlace folder ++ [temporaryName report.id]) =
      some (.file report.text)) : Progress folder report fs
      [.rename folder (temporaryName report.id) (reportName report.id)]
  | finished (haccepts : fs.Accepts folder (reportName report.id))
      (hfile : fs.root.at? (fs.folderPlace folder ++ [reportName report.id]) =
        some (.file report.text)) : Progress folder report fs []

/-- A change of a report leaves the names alone that the report does not use. -/
theorem Change.keeps {folder name : String} {report : ReportFile} {fs later : FileSystem}
    {c : Change} (hc : c ∈ report.changes folder) (htemporary : name ≠ temporaryName report.id)
    (hname : name ≠ reportName report.id) (h : c.apply fs = .ok later) :
    fs.Keeps folder name later := by
  simp only [ReportFile.changes, List.mem_cons, List.not_mem_nil, or_false] at hc
  obtain rfl | rfl | rfl := hc
  · exact FileSystem.keeps_createFolder h folder name
  · exact FileSystem.keeps_write htemporary h
  · exact FileSystem.keeps_rename (temporaryName_ne_reportName _ _).symm htemporary hname h

namespace Progress

variable {folder : String} {report : ReportFile} {fs later : FileSystem}

theorem mem_changes {pending : List Change} {c : Change}
    (h : Progress folder report fs pending) (hc : c ∈ pending) : c ∈ report.changes folder := by
  cases h with
  | fresh => exact hc
  | ready => exact .tail _ hc
  | written => exact .tail _ (.tail _ hc)
  | finished => cases hc

/-- The next change of a report takes it one step further. -/
theorem change {c : Change} {rest : List Change} (h : Progress folder report fs (c :: rest))
    (hc : c.apply fs = .ok later) : Progress folder report later rest := by
  cases h with
  | fresh => exact .ready
  | ready =>
    obtain ⟨-, hworking, -, hroot⟩ := FileSystem.write_eq_ok hc
    refine .written ?_
    rw [FileSystem.folderPlace_of_working hworking, hroot, Node.at?_put_self]
  | written hfile =>
    obtain ⟨haccepts, hworking, hfolders, node, hnode, hroot⟩ :=
      FileSystem.rename_eq_ok (temporaryName_ne_reportName _ _).symm hc
    obtain rfl := Option.some.inj (hfile.symm.trans hnode)
    refine .finished (haccepts.of_keepsFolders hworking hfolders) ?_
    rw [FileSystem.folderPlace_of_working hworking, hroot, Node.at?_put_self]

/-- A report stays as far as it is while its two names are left alone. -/
theorem of_keeps {pending : List Change} (h : Progress folder report fs pending)
    (htemporary : fs.Keeps folder (temporaryName report.id) later)
    (hname : fs.Keeps folder (reportName report.id) later) :
    Progress folder report later pending := by
  have hplace := FileSystem.folderPlace_of_working hname.working folder
  cases h with
  | fresh => exact .fresh
  | ready => exact .ready
  | written hfile => exact .written (hplace ▸ htemporary.file _ hfile)
  | finished haccepts hfile =>
    exact .finished (haccepts.of_keepsFolders hname.working hname.folders)
      (hplace ▸ hname.file _ hfile)

/-- A change of a report with another stem leaves a report as far as it is. -/
theorem of_other {other : ReportFile} {pending : List Change} {c : Change}
    (h : Progress folder report fs pending) (hne : fileStem report.id ≠ fileStem other.id)
    (hc : c ∈ other.changes folder) (happly : c.apply fs = .ok later) :
    Progress folder report later pending :=
  h.of_keeps
    (Change.keeps hc (fun e => hne (temporaryName_inj.1 e)) (temporaryName_ne_reportName _ _)
      happly)
    (Change.keeps hc (temporaryName_ne_reportName _ _).symm (fun e => hne (reportName_inj.1 e))
      happly)

end Progress

/-! ## Runs of the writers -/

namespace Writers

/-- The reports that are written, in the order of their writers. -/
def reports (w : Writers) : List ReportFile :=
  w.writers.map Writer.report

/-- Every writer has got as far as the changes tell that it has yet to make. -/
def OnTrack (folder : String) (w : Writers) : Prop :=
  ∀ writer ∈ w.writers, Progress folder writer.report w.files writer.pending

theorem Step.reports_eq {w later : Writers} (h : Step w later) : later.reports = w.reports := by
  cases h
  simp [reports]

/-- **Writers keep out of each other's way.** As long as the stems of the reports are distinct, a
change by one of the writers leaves every writer on its track. -/
theorem Step.onTrack {folder : String} {w later : Writers} (h : Step w later)
    (hstems : (w.reports.map fun report => fileStem report.id).Nodup)
    (htrack : w.OnTrack folder) : later.OnTrack folder := by
  cases h with
  | @change files laterFiles before after report c rest happly =>
    have hown : Progress folder report files (c :: rest) :=
      htrack ⟨report, c :: rest⟩ (by simp)
    have hothers : ∀ writer ∈ before ++ after, fileStem writer.report.id ≠ fileStem report.id := by
      simp only [reports, List.map_append, List.map_cons, List.map_map] at hstems
      rw [List.nodup_middle, List.nodup_cons, ← List.map_append] at hstems
      intro writer hwriter hsame
      exact hstems.1 (List.mem_map.2 ⟨writer, hwriter, hsame⟩)
    have hstays : ∀ writer ∈ before ++ after,
        Progress folder writer.report laterFiles writer.pending := by
      intro writer hwriter
      have hmem : writer ∈ before ++ ⟨report, c :: rest⟩ :: after := by
        rw [List.mem_append] at hwriter
        rw [List.mem_append, List.mem_cons]
        exact hwriter.imp_right .inr
      exact (htrack writer hmem).of_other (hothers writer hwriter)
        (hown.mem_changes (List.mem_cons_self ..)) happly
    intro writer hwriter
    rw [List.mem_append, List.mem_cons] at hwriter
    obtain hbefore | rfl | hafter := hwriter
    · exact hstays writer (List.mem_append_left _ hbefore)
    · exact hown.change happly
    · exact hstays writer (List.mem_append_right _ hafter)

theorem Runs.reports_eq {w later : Writers} (h : Runs w later) : later.reports = w.reports := by
  induction h with
  | refl => rfl
  | tail _ hstep ih => rw [hstep.reports_eq, ih]

theorem Runs.onTrack {folder : String} {w later : Writers} (h : Runs w later)
    (hstems : (w.reports.map fun report => fileStem report.id).Nodup)
    (htrack : w.OnTrack folder) : later.OnTrack folder := by
  induction h with
  | refl => exact htrack
  | tail hrun hstep ih => exact hstep.onTrack (Runs.reports_eq hrun ▸ hstems) ih

theorem reports_start (files : FileSystem) (folder : String) (given : List ReportFile) :
    (start files folder given).reports = given := by
  simp [reports, start, Function.comp_def]

theorem onTrack_start (files : FileSystem) (folder : String) (given : List ReportFile) :
    (start files folder given).OnTrack folder := by
  intro writer hwriter
  obtain ⟨report, -, rfl⟩ := List.mem_map.1 hwriter
  exact .fresh

/-- When writers of reports with distinct stems are done, every report is read back. -/
theorem Runs.read_of_done {files : FileSystem} {folder : String} {given : List ReportFile}
    {w : Writers} (h : Runs (start files folder given) w) (hdone : w.Done)
    (hstems : (given.map fun report => fileStem report.id).Nodup) {report : ReportFile}
    (hreport : report ∈ given) :
    w.files.read (FilePath.join folder (reportName report.id)) = .ok report.text := by
  have hreports : w.reports = given := h.reports_eq.trans (reports_start files folder given)
  have htrack := h.onTrack ((reports_start files folder given).symm ▸ hstems)
    (onTrack_start files folder given)
  obtain ⟨writer, hwriter, rfl⟩ := List.mem_map.1 (hreports.symm ▸ hreport : report ∈ w.reports)
  have hprogress := htrack writer hwriter
  rw [hdone writer hwriter] at hprogress
  cases hprogress with
  | finished haccepts hfile => exact FileSystem.read_join haccepts (isName_reportName _) hfile

end Writers

end DiagnosticReport
