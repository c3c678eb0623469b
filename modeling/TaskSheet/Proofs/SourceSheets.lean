import TaskSheet.CommandLine.Run
import TaskSheet.Proofs.FieldLines
import TaskSheet.Proofs.FileGrowth
import TaskSheet.Proofs.JsonLayout
import TaskSheet.Proofs.Outcomes
import TaskSheet.Proofs.Sections

/-!
# The sheet after a run

A run reads one file, the sheet, and writes at most one, the records. The two paths are
never compared. If they lead to the same place, the records take the place of the sheet;
and since records are no sheet, that changes the file. In every other run the sheet stays
what it was.
-/

namespace TaskSheet

/-- Where there is a task title, some line begins with a number sign. -/
theorem Outline.exists_mark_of_isTitle {lines : List Text}
    (h : Title.isTitle (ofLines lines).title = true) : ∃ rest, '#' :: rest ∈ lines := by
  obtain ⟨line, hline, heading, hparse, hlevel, -⟩ :=
    exists_heading_of_findTitle? (findTitle?_of_isTitle h)
  obtain ⟨rest, rfl⟩ := Heading.exists_marks_of_parse? hparse
  rw [hlevel] at hline
  exact ⟨rest, hline⟩

/-- Records as they are written to a file are no sheet. -/
theorem Compilation.result_renderList_ne (environment : Environment)
    (records others : List Record) :
    (ofSheet environment (Record.renderList records)).result ≠ .ok others := by
  intro hresult
  obtain ⟨_, _, hcomplete, -⟩ := result_eq_ok_iff.mp hresult
  obtain ⟨rest, hmem⟩ := Outline.exists_mark_of_isTitle hcomplete.isTitle
  exact Json.mark_not_mem_lines_pretty _ rest hmem

/-- There is a file at the end of a path, and its bytes are the text of a sheet. -/
def FileSystem.HoldsSheet (files : FileSystem) (path : Bytes) (sheet : Text) : Prop :=
  ∃ location content, files.locate path = .ok location ∧
    files.node? location = some (.file content) ∧ Text.decode? content = some sheet

/-- Exactly the sheets that files hold are loaded. -/
theorem Workspace.load_eq_ok_iff {files : FileSystem} {path : Bytes} {sheet : Text} :
    load files path = .ok sheet ↔ files.HoldsSheet path sheet := by
  have hread : files.HoldsSheet path sheet ↔
      ∃ content, files.readFile path = .ok content ∧ Text.decode? content = some sheet := by
    simp only [FileSystem.HoldsSheet, FileSystem.readFile_eq_ok_iff]
    constructor
    · rintro ⟨location, content, hlocate, hnode, hdecode⟩
      exact ⟨content, ⟨location, hlocate, hnode⟩, hdecode⟩
    · rintro ⟨content, ⟨location, hlocate, hnode⟩, hdecode⟩
      exact ⟨location, content, hlocate, hnode, hdecode⟩
  rw [hread, load]
  cases files.readFile path with
  | error fault => simp
  | ok content => cases hdecode : Text.decode? content <;> simp [hdecode]

/-- A sheet is compiled only if its file can be read and holds a text. -/
theorem Workspace.exists_of_compile {files : FileSystem} {environment : Environment} {path : Bytes}
    {records : List Record} (h : (compile files environment path).result = .ok records) :
    ∃ content sheet, files.readFile path = .ok content ∧ Text.decode? content = some sheet ∧
      (Compilation.ofSheet environment sheet).result = .ok records := by
  rw [compile, onSheet, load] at h
  cases hread : files.readFile path with
  | error fault => simp [hread] at h
  | ok content =>
    cases hdecode : Text.decode? content with
    | none => simp [hread, hdecode] at h
    | some sheet => exact ⟨content, sheet, rfl, hdecode, by simpa [hread, hdecode] using h⟩

namespace CommandLine

/-- A sheet that can be loaded is compiled for the setting of the run. -/
theorem result_compile {files : FileSystem} {settings : Settings} {sheet : Text}
    (h : Workspace.load files settings.input = .ok sheet) :
    (compile files settings).result =
      (Compilation.ofSheet (settings.environment files.workingDirectory) sheet).result := by
  rw [compile, Workspace.compile, Workspace.onSheet_of_ok h]

/-- A run that writes either fails, and leaves new directories at most, or has compiled
the sheet and saved the records. -/
theorem runFile_cases (files : FileSystem) (settings : Settings) (output : Bytes) :
    ((runFile files settings output).exit = 1 ∧
        FileSystem.GrowsAlong (Path.enclosing output) files
          (runFile files settings output).files) ∨
      (runFile files settings output).exit = 0 ∧
        ∃ records, (compile files settings).result = .ok records ∧
          Workspace.save files output records =
            ((runFile files settings output).files, .ok ()) := by
  rw [runFile]
  cases hresult : (compile files settings).result with
  | error failure => exact Or.inl ⟨rfl, FileSystem.GrowsAlong.refl _ files⟩
  | ok records =>
    dsimp only
    split
    · rename_i left failure hsave
      exact Or.inl ⟨rfl, Workspace.growsAlong_of_write_error hsave⟩
    · rename_i left hsave
      exact Or.inr ⟨rfl, records, rfl, hsave⟩

/-- A run that is not asked to write a file leaves all files as they are. -/
theorem files_runSettings {files : FileSystem} {settings : Settings}
    (h : ∀ output, settings.mode ≠ .ok (.file output)) :
    (runSettings files settings).files = files := by
  rw [runSettings]
  split
  · rfl
  · rename_i output hmode
    exact absurd hmode (h output)
  · rw [runJson]
    split <;> rfl
  · rw [runCheck]
    split <;> rfl

/-- A run that writes changes the sheet exactly if it succeeds and the path of the records
leads to the sheet. -/
theorem readFile_runFile_iff {files : FileSystem} {settings : Settings} {output : Bytes}
    {content : ByteArray} (hread : files.readFile settings.input = .ok content) :
    (runFile files settings output).files.readFile settings.input = .ok content ↔
      ¬((runFile files settings output).exit = 0 ∧
        (runFile files settings output).files.locate output =
          (runFile files settings output).files.locate settings.input) := by
  rcases runFile_cases files settings output with
    ⟨hexit, hgrows⟩ | ⟨hexit, records, hcompile, hsave⟩
  · have hkept := hgrows.readFile hread
    simp [hexit, hkept]
  · rcases Workspace.readFile_of_write hsave hread with ⟨hsame, hnew⟩ | ⟨hother, hkept⟩
    · have hchanged : Text.encode (Record.renderList records) ≠ content := by
        rintro rfl
        obtain ⟨_, sheet, hsheet, hdecode, hresult⟩ := Workspace.exists_of_compile hcompile
        rw [hread] at hsheet
        rw [← Except.ok.inj hsheet, Text.decode?_encode] at hdecode
        rw [← Option.some.inj hdecode] at hresult
        exact Compilation.result_renderList_ne _ _ _ hresult
      simp [hexit, hsame, hnew, hchanged]
    · simp [hexit, hkept, hother.symm]

/-- **The sheet after a run.** Arguments that are not accepted lead to no change at all.
With accepted ones the sheet has its content afterwards, except where the run has
succeeded in writing the records to a path that leads to the sheet. -/
theorem readFile_input_run_iff (files : FileSystem) (arguments : List Bytes)
    (fallbacks : Variables) :
    (∀ fault, Settings.parse arguments fallbacks = .error fault →
        (run files arguments fallbacks).files = files) ∧
      ∀ settings, Settings.parse arguments fallbacks = .ok settings →
        ∀ content, files.readFile settings.input = .ok content →
          ((run files arguments fallbacks).files.readFile settings.input = .ok content ↔
            ¬∃ output, settings.mode = .ok (.file output) ∧
              (run files arguments fallbacks).exit = 0 ∧
              (run files arguments fallbacks).files.locate output =
                (run files arguments fallbacks).files.locate settings.input) := by
  constructor
  · intro fault hfault
    rw [run, hfault]
    cases fault <;> rfl
  · intro settings hsettings content hread
    have hrun : run files arguments fallbacks = runSettings files settings := by
      rw [run, hsettings]
    rw [hrun]
    by_cases hmode : ∃ output, settings.mode = .ok (.file output)
    · obtain ⟨output, houtput⟩ := hmode
      have hfile : runSettings files settings = runFile files settings output := by
        rw [runSettings, houtput]
      rw [hfile, readFile_runFile_iff hread, houtput]
      simp
    · have hkept : (runSettings files settings).files = files :=
        files_runSettings fun output houtput => hmode ⟨output, houtput⟩
      rw [hkept]
      simp only [hread, true_iff]
      rintro ⟨output, houtput, -⟩
      exact hmode ⟨output, houtput⟩

/-- A directory with the loose sheet, in which the run takes place. -/
def docsFiles : FileSystem where
  entries :=
    [(["docs"], .directory),
      (["docs", "011.md"], .file (Text.encode Compilation.looseSheet))]
  workingDirectory := ["docs"]
  closedDirectories := []

/-- Two spellings of the same path. -/
def docsArguments : List Bytes := ["011.md", "./011.md"]

/-- A project directory for the run. -/
def docsFallbacks : Variables := ⟨some "/srv/app", none⟩

/-- The settings of the run. -/
def docsSettings : Settings :=
  ⟨"011.md", some "./011.md", false, false, some "/srv/app", Environment.defaultActivate⟩

/-- The arguments are accepted. -/
theorem parse_docsArguments : Settings.parse docsArguments docsFallbacks = .ok docsSettings := by
  decide +kernel

/-- The sheet can be read. -/
theorem readFile_docsFiles :
    docsFiles.readFile docsSettings.input = .ok (Text.encode Compilation.looseSheet) := rfl

/-- What is known about all runs, for this one. -/
theorem readFile_input_run_iff_docs :
    Settings.parse docsArguments docsFallbacks = .ok docsSettings ∧
      docsFiles.readFile docsSettings.input = .ok (Text.encode Compilation.looseSheet) ∧
      ((run docsFiles docsArguments docsFallbacks).files.readFile docsSettings.input =
          .ok (Text.encode Compilation.looseSheet) ↔
        ¬∃ output, docsSettings.mode = .ok (.file output) ∧
          (run docsFiles docsArguments docsFallbacks).exit = 0 ∧
          (run docsFiles docsArguments docsFallbacks).files.locate output =
            (run docsFiles docsArguments docsFallbacks).files.locate docsSettings.input) :=
  ⟨parse_docsArguments, readFile_docsFiles,
    (readFile_input_run_iff docsFiles docsArguments docsFallbacks).2 docsSettings
      parse_docsArguments _ readFile_docsFiles⟩

/-- The sheet is compiled. -/
theorem compile_docs :
    (compile docsFiles docsSettings).result = .ok [Record.ofPrompt Compilation.loosePrompt] := by
  have henvironment : docsSettings.environment docsFiles.workingDirectory =
      Compilation.looseEnvironment := by decide +kernel
  have hload : Workspace.load docsFiles docsSettings.input = .ok Compilation.looseSheet := by
    rw [Workspace.load, readFile_docsFiles]
    simp only [Text.decode?_encode]
  rw [result_compile hload, henvironment]
  exact Compilation.result_looseSheet

/-- The directory with another content in the place of the sheet. -/
def docsFilesWith (content : ByteArray) : FileSystem :=
  docsFiles.set ["docs", "011.md"] (.file content)

/-- Whatever is written to the second path takes the place of the sheet. -/
theorem write_docs (content : ByteArray) :
    Workspace.write docsFiles "./011.md" content = (docsFilesWith content, .ok ()) := rfl

/-- Both paths lead to the same place afterwards. -/
theorem locate_docs (content : ByteArray) :
    (docsFilesWith content).locate "./011.md" = (docsFilesWith content).locate "011.md" := rfl

/-- The records take the place of the sheet. -/
theorem readFile_run_docs_ne :
    Settings.parse docsArguments docsFallbacks = .ok docsSettings ∧
      docsFiles.readFile docsSettings.input = .ok (Text.encode Compilation.looseSheet) ∧
      (run docsFiles docsArguments docsFallbacks).files.readFile docsSettings.input ≠
        .ok (Text.encode Compilation.looseSheet) := by
  have hrun : run docsFiles docsArguments docsFallbacks =
      runFile docsFiles docsSettings "./011.md" := by
    rw [run, parse_docsArguments]
    rfl
  have hfile : ∃ log content, runFile docsFiles docsSettings "./011.md" =
      ⟨0, [], log, docsFilesWith content⟩ := by
    rw [runFile, compile_docs]
    simp only [Workspace.save, write_docs]
    exact ⟨_, _, rfl⟩
  obtain ⟨log, content, hfile⟩ := hfile
  refine ⟨parse_docsArguments, readFile_docsFiles, ?_⟩
  rw [hrun, Ne, readFile_runFile_iff readFile_docsFiles, not_not, hfile]
  exact ⟨rfl, locate_docs content⟩

end CommandLine

end TaskSheet
