import TaskSheet.Proofs.OrderedEdits
import TaskSheet.Proofs.ShownPaths
import TaskSheet.Proofs.SourceSheets

/-!
# The file that the agent edits

The agent is told to edit the sheet under the absolute form of its path, since it does not work in
the directory in which the sheet was loaded. That form leads to the file that was loaded, wherever
the agent is: the walk from the root passes through the directory of the run, and single dots
lead nowhere else. There are two exceptions. The absolute form is longer than the path, and the
system refuses it if it is too long; and since it is written into a text, it leads elsewhere if it
is none.
-/

namespace TaskSheet

namespace FileSystem

/-! ## Where paths lead -/

/-- The same files, with relative paths starting from another directory. -/
def seenFrom (files : FileSystem) (directory : Location) : FileSystem :=
  { files with workingDirectory := directory }

/-- Walks are the same wherever relative paths start. -/
theorem walk_seenFrom (files : FileSystem) (directory start : Location) (pieces : List Bytes) :
    (files.seenFrom directory).walk start pieces = files.walk start pieces := rfl

/-- A name that can stand in a directory. -/
structure IsName (name : Bytes) : Prop extends Path.IsStep name where
  /-- It is not the way up. -/
  ne_up : name ≠ Path.up
  /-- It does not hold the byte that ends paths. -/
  nul_not_mem : 0 ∉ name
  /-- It is not too long. -/
  length_le : name.length ≤ greatestName

/-- Whether bytes can be a name is decided by the conditions. -/
instance : DecidablePred IsName := fun name =>
  decidable_of_iff (Path.IsStep name ∧ name ≠ Path.up ∧ 0 ∉ name ∧
      name.length ≤ greatestName)
    ⟨fun ⟨hstep, hup, hnul, hlength⟩ => ⟨hstep, hup, hnul, hlength⟩,
      fun h => ⟨h.toIsStep, h.ne_up, h.nul_not_mem, h.length_le⟩⟩

/-- The directory from which relative paths start is there. -/
structure HasWorkingDirectory (files : FileSystem) : Prop where
  /-- It has a path of names. -/
  isName : ∀ name ∈ files.workingDirectory, IsName name
  /-- It is a directory, and so are all around it. -/
  isDirectoryAt : ∀ outer, outer <+: files.workingDirectory → files.isDirectoryAt outer = true

/-- An absolute form goes through steps only. -/
theorem HasWorkingDirectory.isStep_of_mem_absoluteSteps {files : FileSystem}
    (hfiles : files.HasWorkingDirectory) {path piece : Bytes}
    (h : piece ∈ Path.absoluteSteps files.workingDirectory path) : Path.IsStep piece :=
  Path.isStep_of_mem_absoluteSteps (fun name hname => (hfiles.isName name hname).toIsStep) h

/-- A walk along the names of nested directories leads to the innermost one. -/
theorem walk_names {files : FileSystem} {start : Location} {names : List Bytes}
    (hnames : ∀ name ∈ names, IsName name)
    (hdirectories : ∀ outer, outer <+: names → files.isDirectoryAt (start ++ outer) = true) :
    files.walk start names = .ok (start ++ names) := by
  induction names generalizing start with
  | nil => rw [List.append_nil]; rfl
  | cons name names ih =>
    obtain ⟨hname, hnames⟩ := List.forall_mem_cons.mp hnames
    have hstart : files.isDirectoryAt start = true := by
      simpa using hdirectories [] List.nil_prefix
    have hthere : files.isDirectoryAt (start ++ [name]) = true :=
      hdirectories [name] (List.cons_prefix_cons.mpr ⟨rfl, List.nil_prefix⟩)
    have hsome : (files.node? (start ++ [name])).isSome = true := by
      rw [beq_iff_eq.mp hthere]
      rfl
    have hproper : isName name = true := by simp [isName, hname.ne_here, hname.ne_up]
    have hstep : files.enter start name = .ok (start ++ [name]) :=
      enter_eq_ok_iff.mpr ⟨hstart, .inr (.inr ⟨hproper, hname.length_le, rfl, hsome⟩)⟩
    refine bind_eq_ok_iff.mpr ⟨_, hstep, ?_⟩
    have hrest := @ih (start ++ [name]) hnames fun outer houter => by
      rw [List.append_assoc]
      exact hdirectories (name :: outer) (List.cons_prefix_cons.mpr ⟨rfl, houter⟩)
    rw [List.append_assoc] at hrest
    exact hrest

/-- Single dots can be left out of a walk. -/
theorem walk_filter_here {files : FileSystem} {start location : Location} {pieces : List Bytes}
    (h : files.walk start pieces = .ok location) :
    files.walk start (pieces.filter (· != Path.here)) = .ok location := by
  induction pieces generalizing start with
  | nil => exact h
  | cons piece pieces ih =>
    obtain ⟨next, hstep, hrest⟩ := bind_eq_ok_iff.mp h
    by_cases hhere : piece = Path.here
    · obtain ⟨hdirectory, -⟩ := enter_eq_ok_iff.mp hstep
      have hstay : files.enter start piece = .ok start :=
        enter_eq_ok_iff.mpr ⟨hdirectory, .inl ⟨hhere, rfl⟩⟩
      obtain rfl : start = next := Except.ok.inj (hstay.symm.trans hstep)
      rw [List.filter_cons_of_neg (by simpa using hhere)]
      exact ih hrest
    · rw [List.filter_cons_of_pos (by simpa using hhere)]
      exact bind_eq_ok_iff.mpr ⟨next, hstep, ih hrest⟩

/-- What a path must be like in order not to be refused. -/
theorem checkPath_eq_ok_iff {path : Bytes} :
    checkPath path = .ok () ↔ 0 ∉ path ∧ path.length ≤ greatestPath ∧ path ≠ [] := by
  simp only [checkPath, List.contains_iff_mem]
  split
  · simp [*]
  · split
    · simp [*]
    · split
      · simp_all
      · simp_all

section Absolute

variable {files : FileSystem} {path : Bytes} {location : Location}
  (hfiles : files.HasWorkingDirectory) (hlocate : files.locate path = .ok location)

include hfiles hlocate

/-- The walk that a path means can as well be taken from the root. -/
theorem walk_absoluteSteps :
    files.walk [] (Path.absoluteSteps files.workingDirectory path) = .ok location := by
  obtain ⟨-, hwalk, -⟩ := locate_eq_ok_iff.mp hlocate
  have hwalk := walk_filter_here hwalk
  rw [origin] at hwalk
  by_cases habsolute : Path.isAbsolute path = true
  · rw [if_pos habsolute] at hwalk
    rw [Path.absoluteSteps, if_pos habsolute]
    exact hwalk
  · rw [if_neg habsolute] at hwalk
    have hthere : files.walk [] files.workingDirectory = .ok files.workingDirectory :=
      walk_names hfiles.isName hfiles.isDirectoryAt
    rw [Path.absoluteSteps, if_neg habsolute, walk, List.foldlM_append]
    exact bind_eq_ok_iff.mpr ⟨_, hthere, hwalk⟩

/-- Made absolute, the path of a file goes on from its root by at least one step. -/
theorem absolute_eq_extend (hfile : files.isDirectoryAt location = false) :
    Path.absolute files.workingDirectory.path path =
        Path.extend (Path.absoluteRoot path) (Path.absoluteSteps files.workingDirectory path) ∧
      Path.absoluteSteps files.workingDirectory path ≠ [] := by
  obtain ⟨-, -, hend⟩ := locate_eq_ok_iff.mp hlocate
  have hslash : Path.endsWithSlash path = false := by
    rw [← Bool.not_eq_true]
    intro hslash
    rw [hend hslash] at hfile
    contradiction
  refine ⟨Path.absolute_eq_extend (fun name hname => (hfiles.isName name hname).toIsStep) hslash,
    fun hnil => ?_⟩
  -- Without any step the path would lead to the root.
  have hwalk := walk_absoluteSteps hfiles hlocate
  rw [hnil] at hwalk
  obtain rfl : [] = location := Except.ok.inj hwalk
  exact absurd hfile (by simp [isDirectoryAt, node?])

/-- Only its length can keep the system from going along the absolute form of a path. -/
theorem checkPath_absolute (hfile : files.isDirectoryAt location = false) :
    checkPath (Path.absolute files.workingDirectory.path path) =
      if greatestPath < (Path.absolute files.workingDirectory.path path).length then
        .error .nameTooLong
      else .ok () := by
  obtain ⟨habsolute, hne⟩ := absolute_eq_extend hfiles hlocate hfile
  have hroot := Path.isRoot_absoluteRoot path
  obtain ⟨hcheck, -, -⟩ := locate_eq_ok_iff.mp hlocate
  obtain ⟨hpath, -, -⟩ := checkPath_eq_ok_iff.mp hcheck
  have hnul : 0 ∉ Path.absolute files.workingDirectory.path path := by
    rw [habsolute]
    intro hmem
    rcases Path.mem_extend hmem with hmem | hmem | ⟨piece, hpiece, hmem⟩
    · exact absurd (hroot.eq_slash_of_mem hmem) (by decide)
    · exact absurd hmem (by decide)
    · rcases List.mem_append.mp hpiece with hpiece | hpiece
      · split at hpiece
        · exact absurd hpiece List.not_mem_nil
        · exact (hfiles.isName piece hpiece).nul_not_mem hmem
      · exact hpath (Path.subset_of_mem_steps hpiece hmem)
  have hnonempty : Path.absolute files.workingDirectory.path path ≠ [] := by
    intro hnil
    have hstarts := hroot.isAbsolute_extend (Path.absoluteSteps files.workingDirectory path)
    rw [← habsolute, hnil] at hstarts
    contradiction
  rw [checkPath, if_neg (by simpa using hnul)]
  split
  · rfl
  · rw [if_neg (by simpa using hnonempty)]

/-- The absolute form of the path of a file leads to this file from everywhere, unless the form is
too long. -/
theorem locate_absolute (hfile : files.isDirectoryAt location = false) (directory : Location) :
    (files.seenFrom directory).locate (Path.absolute files.workingDirectory.path path) =
      if greatestPath < (Path.absolute files.workingDirectory.path path).length then
        .error .nameTooLong
      else .ok location := by
  obtain ⟨habsolute, hne⟩ := absolute_eq_extend hfiles hlocate hfile
  have hroot := Path.isRoot_absoluteRoot path
  have hsteps : ∀ piece ∈ Path.absoluteSteps files.workingDirectory path, Path.IsStep piece :=
    fun _ => hfiles.isStep_of_mem_absoluteSteps
  have horigin : (files.seenFrom directory).origin
      (Path.absolute files.workingDirectory.path path) = [] := by
    rw [origin, habsolute, hroot.isAbsolute_extend, if_pos rfl]
  have hcomponents : Path.components (Path.absolute files.workingDirectory.path path) =
      Path.absoluteSteps files.workingDirectory path := by
    rw [habsolute, Path.components_extend _ hsteps, hroot.components_eq, List.nil_append]
  have hslash : Path.endsWithSlash (Path.absolute files.workingDirectory.path path) = false := by
    rw [habsolute, Path.endsWithSlash_extend _ hne hsteps]
  rw [locate, checkPath_absolute hfiles hlocate hfile]
  split
  · rfl
  · rw [horigin, hcomponents, walk_seenFrom, walk_absoluteSteps hfiles hlocate, hslash]
    rfl

end Absolute

end FileSystem

namespace Text

/-- Each of the lines that are put together, but the last, is ended there. -/
theorem ended_infix_unlines (before : List Text) (part next : Text) (rest : List Text) :
    part ++ ['\n'] <:+: unlines (before ++ part :: next :: rest) := by
  have hpart : part ++ ['\n'] <+: unlines (part :: next :: rest) := by
    rw [unlines_cons_cons]
    exact ⟨_, List.append_assoc _ _ _⟩
  exact hpart.isInfix.trans (unlines_suffix before (List.cons_ne_nil _ _)).isInfix

end Text

namespace Prompt

/-- Every prompt names the file of the sheet on a line of its own. -/
theorem taskFile_infix_render (context : PromptContext) (task : Task) :
    ("   - Update the task list by editing " : Text) ++ context.environment.taskFile ++ ['\n'] <:+:
      render context task := by
  change taskFileLine context.environment.taskFile ++ ['\n'] <:+: render context task
  rw [render_eq_unlines, promptLines, instructionsSection_eq, ← List.append_assoc,
    List.append_assoc _ (_ :: _)]
  exact Text.ended_infix_unlines _ _ _ _

end Prompt

namespace CommandLine

/-- **The agent edits the file that was compiled.** Whatever the spelling of its path, the file of
a sheet that is loaded is named to the agent by an absolute path. This path is its own absolute
form, and every command names it on a line of its own. If the absolute form of the input is text,
this is the path, and it leads to the file that was loaded from every directory, unless it is too
long for the system. -/
theorem taskFile_leads_to_input {files : FileSystem} {settings : Settings} {sheet : Text}
    (hfiles : files.HasWorkingDirectory)
    (hload : Workspace.load files settings.input = .ok sheet) :
    let taskFile := (settings.environment files.workingDirectory).taskFile
    taskFile.head? = some '/' ∧
      (∀ directory : Location,
        (Settings.environment { settings with input := Text.bytes taskFile } directory).taskFile =
          taskFile) ∧
      (∀ records, (compile files settings).result = .ok records → ∀ record ∈ records,
        ("   - Update the task list by editing " : Text) ++ taskFile ++ ['\n'] <:+:
          record.arguments.command) ∧
      ∃ location content, files.locate settings.input = .ok location ∧
        files.node? location = some (.file content) ∧ Text.decode? content = some sheet ∧
        ∀ text, Path.absolute files.workingDirectory.path settings.input = Text.bytes text →
          taskFile = text ∧ ∀ directory : Location,
            (files.seenFrom directory).locate (Text.bytes taskFile) =
              if FileSystem.greatestPath < (Text.bytes taskFile).length then .error .nameTooLong
              else .ok location := by
  obtain ⟨location, content, hlocate, hnode, hdecode⟩ := Workspace.load_eq_ok_iff.mp hload
  have hfile : files.isDirectoryAt location = false := by
    rw [FileSystem.isDirectoryAt, hnode]
    rfl
  obtain ⟨habsolute, hne⟩ := FileSystem.absolute_eq_extend hfiles hlocate hfile
  have hroot := Path.isRoot_absoluteRoot settings.input
  have hsteps : ∀ piece ∈ Path.absoluteSteps files.workingDirectory settings.input,
      Path.IsStep piece := fun _ => hfiles.isStep_of_mem_absoluteSteps
  refine ⟨?_, fun directory => ?_, fun records hrecords record hrecord => ?_,
    location, content, hlocate, hnode, hdecode, fun text htext => ⟨?_, fun directory => ?_⟩⟩
  · have hstarts := hroot.isAbsolute_extend
      (Path.absoluteSteps files.workingDirectory settings.input)
    rw [← habsolute, Path.isAbsolute, beq_iff_eq] at hstarts
    exact Path.head?_display hstarts
  · have hsame := hroot.absolute_shown_extend directory.path hne hsteps
    rw [← habsolute] at hsame
    exact (congrArg Path.display hsame).trans (Path.display_shown _)
  · rw [result_compile hload] at hrecords
    obtain ⟨objective, items, -, -, rfl⟩ := Compilation.result_eq_ok_iff.mp hrecords
    obtain ⟨prompt, hprompt, rfl⟩ := List.mem_map.mp hrecord
    obtain ⟨block, -, rfl⟩ := List.mem_map.mp hprompt
    exact Prompt.taskFile_infix_render
      ⟨(Outline.ofText sheet).title, objective, items,
        settings.environment files.workingDirectory⟩ (Task.ofBlock block)
  · exact (congrArg Path.display htext).trans (Text.decodeLossy_bytes text)
  · have hshown : Text.bytes (settings.environment files.workingDirectory).taskFile =
        Path.absolute files.workingDirectory.path settings.input :=
      Path.shown_eq_self_iff.mpr ⟨text, htext⟩
    rw [hshown]
    exact FileSystem.locate_absolute hfiles hlocate hfile directory

/-- Files with a directory in which the run takes place. -/
theorem hasWorkingDirectory_of_docs {files : FileSystem}
    (hplace : files.workingDirectory = ["docs"])
    (hthere : files.isDirectoryAt ["docs"] = true) : files.HasWorkingDirectory := by
  refine ⟨hplace ▸ by decide +kernel, fun outer houter => ?_⟩
  rw [hplace] at houter
  rcases List.prefix_cons_iff.mp houter with rfl | ⟨rest, rfl, hrest⟩
  · rfl
  · obtain rfl := List.prefix_nil.mp hrest
    exact hthere

/-- The sheet in the directory is loaded from a path that leads to it. -/
theorem load_docs {path : Bytes} (h : docsFiles.locate path = .ok ["docs", "011.md"]) :
    Workspace.load docsFiles path = .ok Compilation.looseSheet :=
  Workspace.load_eq_ok_iff.mpr ⟨_, _, h, rfl, Text.decode?_encode _⟩

/-- Settings with a winding path of the loose sheet. -/
def windingSettings : Settings := { docsSettings with input := ".//../docs/./011.md" }

/-- The winding path and its absolute form lead to the same file. -/
theorem taskFile_leads_to_input_winding :
    docsFiles.HasWorkingDirectory ∧
      Workspace.load docsFiles windingSettings.input = .ok Compilation.looseSheet ∧
      (windingSettings.environment docsFiles.workingDirectory).taskFile = "/docs/../docs/011.md" ∧
      ∀ directory : Location,
        (docsFiles.seenFrom directory).locate "/docs/../docs/011.md" =
          docsFiles.locate windingSettings.input := by
  have hfiles : docsFiles.HasWorkingDirectory := hasWorkingDirectory_of_docs rfl rfl
  have hload : Workspace.load docsFiles windingSettings.input = .ok Compilation.looseSheet :=
    load_docs rfl
  have habsolute : Path.absolute docsFiles.workingDirectory.path windingSettings.input =
      Text.bytes "/docs/../docs/011.md" := by decide +kernel
  obtain ⟨-, -, -, location, content, hlocate, -, -, hleads⟩ :=
    taskFile_leads_to_input hfiles hload
  obtain ⟨htaskFile, hleads⟩ := hleads _ habsolute
  rw [htaskFile] at hleads
  refine ⟨hfiles, hload, htaskFile, fun directory => ?_⟩
  rw [hlocate]
  exact (hleads directory).trans (if_neg (by decide +kernel))

/-- A path of the loose sheet that leaves the directory and comes back, again and again. -/
def roundPath : Nat → Bytes
  | 0 => "011.md"
  | rounds + 1 => "../docs/" ++ roundPath rounds

/-- Each time two pieces are passed. -/
theorem components_roundPath (rounds : Nat) :
    Path.components (roundPath (rounds + 1)) =
      Path.up :: "docs" :: Path.components (roundPath rounds) := by
  have hpath : roundPath (rounds + 1) =
      Path.up ++ Path.slash :: ("docs" ++ Path.slash :: roundPath rounds) := rfl
  rw [hpath, Path.components_append_slash, Path.components_append_slash]
  rfl

/-- The walk ends where the sheet is. -/
theorem walk_roundPath (rounds : Nat) :
    docsFiles.walk ["docs"] (Path.components (roundPath rounds)) = .ok ["docs", "011.md"] := by
  induction rounds with
  | zero => rfl
  | succ rounds ih =>
    rw [components_roundPath]
    exact ih

/-- Each time eight bytes are added. -/
theorem length_roundPath (rounds : Nat) : (roundPath rounds).length = 8 * rounds + 6 := by
  induction rounds with
  | zero => rfl
  | succ rounds ih =>
    rw [roundPath, List.length_append, ih]
    change 8 + (8 * rounds + 6) = 8 * (rounds + 1) + 6
    omega

/-- The path is never empty. -/
theorem roundPath_ne_nil (rounds : Nat) : roundPath rounds ≠ [] := by
  rw [← List.length_pos_iff, length_roundPath]
  omega

/-- The path starts in the directory. -/
theorem isAbsolute_roundPath (rounds : Nat) : Path.isAbsolute (roundPath rounds) = false := by
  cases rounds <;> rfl

/-- The path is text. -/
theorem exists_roundPath_eq_bytes (rounds : Nat) : ∃ text, roundPath rounds = Text.bytes text := by
  induction rounds with
  | zero => exact ⟨_, rfl⟩
  | succ rounds ih =>
    obtain ⟨text, htext⟩ := ih
    exact ⟨("../docs/" : Text) ++ text, by rw [roundPath, htext, Text.bytes_append]⟩

/-- The path goes on behind the last slash. -/
theorem endsWithSlash_roundPath (rounds : Nat) : Path.endsWithSlash (roundPath rounds) = false := by
  induction rounds with
  | zero => rfl
  | succ rounds ih =>
    rw [Path.endsWithSlash, roundPath, List.getLast?_append_of_ne_nil _ (roundPath_ne_nil rounds)]
    exact ih

/-- The path is not the end of a string anywhere. -/
theorem zero_not_mem_roundPath (rounds : Nat) : 0 ∉ roundPath rounds := by
  induction rounds with
  | zero => decide
  | succ rounds ih => exact List.not_mem_append (by decide) ih

/-- As long as it is not too long, the path leads to the sheet. -/
theorem locate_roundPath {rounds : Nat} (h : 8 * rounds + 6 ≤ FileSystem.greatestPath) :
    docsFiles.locate (roundPath rounds) = .ok ["docs", "011.md"] := by
  refine FileSystem.locate_eq_ok_iff.mpr ⟨?_, ?_, fun hslash => ?_⟩
  · exact FileSystem.checkPath_eq_ok_iff.mpr
      ⟨zero_not_mem_roundPath rounds, (length_roundPath rounds).trans_le h,
        roundPath_ne_nil rounds⟩
  · rw [FileSystem.origin, isAbsolute_roundPath]
    exact walk_roundPath rounds
  · rw [endsWithSlash_roundPath] at hslash
    contradiction

/-- Made absolute, the path is longer by the directory in which it is used. -/
theorem absolute_roundPath (rounds : Nat) :
    Path.absolute docsFiles.workingDirectory.path (roundPath rounds) =
      "/docs/" ++ roundPath rounds := by
  have hsteps : (Path.steps (roundPath rounds)).flatMap (Path.slash :: ·) =
      Path.slash :: roundPath rounds := by
    induction rounds with
    | zero => decide
    | succ rounds ih =>
      rw [Path.steps] at ih ⊢
      rw [components_roundPath]
      exact congrArg (("/../docs" : Bytes) ++ ·) ih
  have hextend : Path.extend "/docs" (Path.steps (roundPath rounds)) =
      "/docs" ++ (Path.steps (roundPath rounds)).flatMap (Path.slash :: ·) :=
    Path.extend_eq_append (by decide) fun _ => Path.isStep_of_mem_steps
  rw [Path.absolute, isAbsolute_roundPath, endsWithSlash_roundPath]
  exact hextend.trans (by rw [hsteps]; rfl)

/-- Settings with a path that leads to the sheet and is almost too long. -/
def roundSettings : Settings := { docsSettings with input := roundPath 511 }

/-- The name of a file that is no text. -/
def latinName : Bytes := [0x63, 0x61, 0x66, 0xE9, 0x2E, 0x6D, 0x64]

/-- A directory with the loose sheet under that name. -/
def latinFiles : FileSystem where
  entries :=
    [(["docs"], .directory), (["docs", latinName], .file (Text.encode Compilation.looseSheet))]
  workingDirectory := ["docs"]
  closedDirectories := []

/-- Settings with that name. -/
def latinSettings : Settings := { docsSettings with input := latinName }

/-- The absolute form of that path is too long. -/
theorem locate_roundSettings (directory : Location) :
    (docsFiles.seenFrom directory).locate
      (Text.bytes (roundSettings.environment docsFiles.workingDirectory).taskFile) =
        .error .nameTooLong := by
  have hlocate : docsFiles.locate (roundPath 511) = .ok ["docs", "011.md"] :=
    locate_roundPath (by decide)
  have hshown : Text.bytes (roundSettings.environment docsFiles.workingDirectory).taskFile =
      Path.absolute docsFiles.workingDirectory.path (roundPath 511) := by
    obtain ⟨text, htext⟩ := exists_roundPath_eq_bytes 511
    exact Path.shown_eq_self_iff.mpr ⟨("/docs/" : Text) ++ text,
      (absolute_roundPath 511).trans (by rw [htext, Text.bytes_append])⟩
  have hlong : FileSystem.greatestPath <
      (Path.absolute docsFiles.workingDirectory.path (roundPath 511)).length := by
    rw [absolute_roundPath, List.length_append, length_roundPath]
    decide
  rw [hshown, FileSystem.locate_absolute (hasWorkingDirectory_of_docs rfl rfl) hlocate rfl,
    if_pos hlong]

/-- That name is shown as another one. -/
theorem taskFile_latinSettings :
    (latinSettings.environment latinFiles.workingDirectory).taskFile = "/docs/caf\uFFFD.md" := by
  decide +kernel

/-- A sheet can be loaded and yet be out of reach under the path that is written into the
commands: there the path of the sheet is too long, or another name is written. -/
theorem taskFile_misses_input :
    (docsFiles.HasWorkingDirectory ∧
      Workspace.load docsFiles roundSettings.input = .ok Compilation.looseSheet ∧
      ∀ directory : Location, (docsFiles.seenFrom directory).locate
        (Text.bytes (roundSettings.environment docsFiles.workingDirectory).taskFile) =
          .error .nameTooLong) ∧
    latinFiles.HasWorkingDirectory ∧
      Workspace.load latinFiles latinSettings.input = .ok Compilation.looseSheet ∧
      (latinSettings.environment latinFiles.workingDirectory).taskFile = "/docs/caf\uFFFD.md" ∧
      ∀ directory : Location, (latinFiles.seenFrom directory).locate
        (Text.bytes (latinSettings.environment latinFiles.workingDirectory).taskFile) =
          .error .notFound := by
  refine ⟨⟨hasWorkingDirectory_of_docs rfl rfl, ?_, locate_roundSettings⟩,
    hasWorkingDirectory_of_docs rfl rfl, ?_, taskFile_latinSettings, fun directory => ?_⟩
  · exact load_docs (locate_roundPath (by decide))
  · exact Workspace.load_eq_ok_iff.mpr ⟨["docs", latinName], _, rfl, rfl, Text.decode?_encode _⟩
  · rw [taskFile_latinSettings]
    rfl

end CommandLine

end TaskSheet
