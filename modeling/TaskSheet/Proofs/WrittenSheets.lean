import TaskSheet.Outline.Reading
import TaskSheet.Prompt
import TaskSheet.Proofs.CheckboxGrammar
import TaskSheet.Proofs.Completeness
import TaskSheet.Proofs.Lines
import TaskSheet.Proofs.Openings
import TaskSheet.Proofs.Sections

/-!
# Writing a sheet and reading it back

A document can be written as a sheet in the form that reports show. Title, sections and
blocks are read from that sheet by four scans over the same lines, and none of them takes
a line that is meant for another one. Hence reading the sheet gives the document back.
-/

namespace TaskSheet

/-- An open box behind a list marker. -/
def unmarkedBox : Text := "[ ] "

/-- A number with a point before an open box and a field is a checkbox. -/
theorem Checkbox.parse?_number (number : Nat) {text : Text} (h : Text.IsField text) :
    parse? (Text.ofNat number ++ '.' :: ' ' :: (unmarkedBox ++ text)) =
      some ⟨0, .numbered, false, text⟩ := by
  have hspell : Parts.Spell
      ⟨[], Text.ofNat number ++ ['.', ' '], [], ['[', ' ', ']'], ' ' :: text⟩
      ⟨0, .numbered, false, text⟩
      (Text.ofNat number ++ '.' :: ' ' :: (unmarkedBox ++ text)) :=
    { line_eq := by simp [unmarkedBox]
      indentation_blank := rfl
      indentation_length := rfl
      marker_spells :=
        .number Nat.toDigits_ne_nil (fun c => Text.isDigit_of_mem_ofNat) (by decide)
      gap_blank := rfl
      box_spells := .spaced
      rest_trim := (Text.trim_space_cons text).trans h.trim_eq
      text_ne_nil := h.ne_nil }
  exact hspell.parse?_eq

/-- The beginning of the line of the title. -/
def titleStart : Text := "# "

/-- The heading of the objective. -/
def objectiveHeading : Text := "## Objective"

/-- The heading of the requirements. -/
def requirementsHeading : Text := "## Requirements"

/-- The heading of the tasks. -/
def tasksHeading : Text := "## Tasks"

/-- The beginning of the line of a step. -/
def stepStart : Text := "   - [ ] "

/-- The lines of a task in a sheet: the entry of the module and a line for each step. -/
def Task.sheetLines (task : Task) : List Text :=
  Prompt.openEntry task.module :: task.steps.map (stepStart ++ ·)

/-- The lines of requirements in a sheet, numbered from one on. -/
def requirementLines (requirements : List Text) : List Text :=
  Prompt.numbered (requirements.map (unmarkedBox ++ ·))

/-- What is written line by line in a sheet. The objective may take several lines. -/
def Document.sheetParts (document : Document) : List Text :=
  (titleStart ++ document.title) :: objectiveHeading :: document.objective ::
    requirementsHeading :: (requirementLines document.requirements ++
      tasksHeading :: document.tasks.flatMap Task.sheetLines)

/-- The sheet of a document in the expected form. -/
def Document.sheet (document : Document) : Text := Text.terminated document.sheetParts

/-- A task whose parts fit on the lines of a sheet. -/
structure Task.IsWritable (task : Task) : Prop where
  /-- There is a module. -/
  module_ne_nil : task.module ≠ []
  /-- The module can be put between backquotes. -/
  module_no_quote : backquote ∉ task.module
  /-- The module stays on its line. -/
  module_no_feed : '\n' ∉ task.module
  /-- There is a step. -/
  steps_ne_nil : task.steps ≠ []
  /-- Every step fits behind a box. -/
  steps_isField : ∀ step ∈ task.steps, Text.IsField step

/-- Whether a task fits on its lines is decided by its conditions. -/
instance (task : Task) : Decidable task.IsWritable :=
  decidable_of_iff (task.module ≠ [] ∧ backquote ∉ task.module ∧ '\n' ∉ task.module ∧
      task.steps ≠ [] ∧ ∀ step ∈ task.steps, Text.IsField step)
    ⟨fun ⟨hne, hquote, hfeed, hsteps, hfields⟩ => ⟨hne, hquote, hfeed, hsteps, hfields⟩,
      fun h => ⟨h.module_ne_nil, h.module_no_quote, h.module_no_feed, h.steps_ne_nil,
        h.steps_isField⟩⟩

/-- A document whose parts fit on the lines of a sheet. -/
structure Document.IsWritable (document : Document) : Prop where
  /-- The title is a task title. -/
  title_isTitle : Title.isTitle document.title = true
  /-- The title is trimmed. -/
  title_trim : Text.trim document.title = document.title
  /-- The title stays on its line. -/
  title_no_feed : '\n' ∉ document.title
  /-- There is an objective. -/
  objective_ne_nil : document.objective ≠ []
  /-- The objective is trimmed. -/
  objective_trim : Text.trim document.objective = document.objective
  /-- The objective has plain line endings. -/
  objective_no_pair : ¬['\r', '\n'] <:+: document.objective
  /-- No line of the objective ends the section. -/
  objective_no_break : ∀ line ∈ Text.lines document.objective, Heading.breaksSection line = false
  /-- No line of the objective is an entry. -/
  objective_no_entry : ∀ line ∈ Text.lines document.objective, entryModule? line = none
  /-- There is a requirement. -/
  requirements_ne_nil : document.requirements ≠ []
  /-- Every requirement fits behind a box. -/
  requirements_isField : ∀ item ∈ document.requirements, Text.IsField item
  /-- There is a task. -/
  tasks_ne_nil : document.tasks ≠ []
  /-- Every task fits on its lines. -/
  tasks_isWritable : ∀ task ∈ document.tasks, task.IsWritable

/-- A written step is read as a step below any entry that is not indented. -/
theorem stepText?_stepStart {least : Nat} (hleast : least ≤ 3) {step : Text}
    (h : Text.IsField step) : stepText? least (stepStart ++ step) = some step := by
  have hstart : stepStart = [' ', ' ', ' '] ++ openBox := by decide
  rw [hstart]
  exact stepText?_eq_some_iff.mpr
    ⟨[' ', ' ', ' '], step, by decide, rfl, hleast, h.trim_eq, h.ne_nil⟩

namespace Task.IsWritable

variable {task : Task} (h : task.IsWritable)

include h

/-- The entry of a written task names its module. -/
theorem entryModule?_openEntry :
    entryModule? (Prompt.openEntry task.module) = some task.module := by
  have htrim : Text.trim (entryStart ++ task.module ++ [backquote]) =
      entryStart ++ task.module ++ [backquote] := by
    apply Text.trim_eq_self
    · exact Text.startsVisible_cons.mpr (by decide)
    · intro c hc
      rw [List.getLast?_concat, Option.mem_some_iff] at hc
      exact hc ▸ by decide
  exact entryModule?_eq_some_iff.mpr ⟨[], entryStart ++ task.module ++ [backquote], [], rfl,
    openEntry_eq task.module, htrim, h.module_ne_nil, h.module_no_quote⟩

/-- No line of a written task ends within the line. -/
theorem isLine_of_mem_sheetLines {line : Text} (hline : line ∈ task.sheetLines) :
    Text.IsLine line := by
  rcases List.mem_cons.mp hline with rfl | hline
  · rw [openEntry_eq]
    have hstart : '\n' ∉ openBox ++ entryStart := by decide
    refine ⟨?_, ?_⟩
    · rw [← List.append_assoc, ← List.append_assoc]
      simp only [List.mem_append, not_or] at hstart ⊢
      exact ⟨⟨hstart, h.module_no_feed⟩, by decide⟩
    · rw [← List.append_assoc, List.getLast?_concat]
      decide
  · obtain ⟨step, hstep, rfl⟩ := List.mem_map.mp hline
    exact (h.steps_isField step hstep).isLine_append (by decide)

/-- The steps of a written task are read from their lines. -/
theorem steps_unlines :
    stepTexts (Text.unlines (task.steps.map (stepStart ++ ·))) = task.steps := by
  have hlines : Text.lines (Text.unlines (task.steps.map (stepStart ++ ·))) =
      task.steps.map (stepStart ++ ·) := by
    apply Text.lines_unlines
    · exact fun line hline => h.isLine_of_mem_sheetLines (List.mem_cons_of_mem _ hline)
    · intro hlast
      obtain ⟨step, _, hempty⟩ := List.mem_map.mp (List.mem_of_getLast? hlast)
      exact absurd (List.append_eq_nil_iff.mp hempty).1 (by decide)
  rw [stepTexts, hlines, List.filterMap_map]
  have hread : ∀ step ∈ task.steps, (stepText? 1 ∘ (stepStart ++ ·)) step = some step :=
    fun step hstep => stepText?_stepStart (by decide) (h.steps_isField step hstep)
  rw [List.filterMap_congr hread, List.filterMap_some]

end Task.IsWritable

namespace Outline

/-- The block that is read from a written task. -/
def writtenBlock (task : Task) : Block :=
  ⟨task.module, Text.unlines (task.steps.map (stepStart ++ ·))⟩

/-- A written entry is not indented, so that its steps are those with the least indentation. -/
theorem stepIndent_openEntry (module : Text) : stepIndent (Prompt.openEntry module) = 3 := by
  have hindent : Text.indent (Prompt.openEntry module) = 0 := by
    rw [Text.indent_eq_zero_iff, openEntry_eq]
    exact startsVisible_openBox_append _
  rw [stepIndent, hindent]
  rfl

/-- A written entry ends the run of the steps before it. -/
theorem stepRun_openEntry (module : Text) (lines : List Text) :
    stepRun 3 (Prompt.openEntry module :: lines) = [] := by
  apply stepRun_other
  · rw [openEntry_eq, ← List.nil_append (openBox ++ _), ← List.append_assoc,
      stepText?_openBox (by rfl)]
    simp
  · rw [openEntry_eq]
    have hvisible : Text.isAllBlank openBox = false := by decide
    simp only [Text.isAllBlank, List.all_append] at hvisible ⊢
    simp [hvisible]

/-- The blocks that are read from written tasks are those of the tasks, in order. -/
theorem findBlocks_sheetLines {tasks : List Task} (h : ∀ task ∈ tasks, task.IsWritable) :
    findBlocks (tasks.flatMap Task.sheetLines) = tasks.map writtenBlock := by
  induction tasks with
  | nil => simp [findBlocks]
  | cons task tasks ih =>
    have htask := h task List.mem_cons_self
    have hsteps : ∀ line ∈ task.steps.map (stepStart ++ ·), (stepText? 3 line).isSome = true := by
      intro line hline
      obtain ⟨step, hstep, rfl⟩ := List.mem_map.mp hline
      rw [stepText?_stepStart (by decide) (htask.steps_isField step hstep)]
      rfl
    have hnext : stepRun 3 (tasks.flatMap Task.sheetLines) = [] := by
      cases tasks with
      | nil => rfl
      | cons next tasks => exact stepRun_openEntry next.module _
    have hrun : stepRun (stepIndent (Prompt.openEntry task.module))
        (task.steps.map (stepStart ++ ·) ++ tasks.flatMap Task.sheetLines) =
          task.steps.map (stepStart ++ ·) := by
      rw [stepIndent_openEntry, stepRun_append hsteps, hnext, List.append_nil]
    rw [List.flatMap_cons, Task.sheetLines, List.cons_append,
      findBlocks_entry htask.entryModule?_openEntry hrun rfl,
      ih fun t ht => h t (List.mem_cons_of_mem _ ht)]
    rfl

/-- The requirements that are read from written requirements are the same, in order. -/
theorem filterMap_parse?_numberedFrom (first : Nat) {items : List Text}
    (h : ∀ item ∈ items, Text.IsField item) :
    (Prompt.numberedFrom first (items.map (unmarkedBox ++ ·))).filterMap Checkbox.parse? =
      items.map (⟨0, .numbered, false, ·⟩) := by
  induction items generalizing first with
  | nil => rfl
  | cons item items ih =>
    have hline : Text.ofNat first ++ (". " : Text) ++ (unmarkedBox ++ item) =
        Text.ofNat first ++ '.' :: ' ' :: (unmarkedBox ++ item) := by
      rw [List.append_assoc]
      rfl
    rw [List.map_cons, Prompt.numberedFrom, hline, List.filterMap_cons_some
      (Checkbox.parse?_number first (h item List.mem_cons_self)),
      ih _ fun i hi => h i (List.mem_cons_of_mem _ hi)]
    rfl

/-- Written requirements are requirements with checkboxes. -/
theorem readRequirements_requirementLines {items : List Text} (hne : items ≠ [])
    (h : ∀ item ∈ items, Text.IsField item) :
    readRequirements (requirementLines items) = ⟨items, true⟩ := by
  rw [readRequirements, requirementLines, Prompt.numbered, filterMap_parse?_numberedFrom 1 h]
  simp [hne, List.filter_map, Function.comp_def]

end Outline

/-- A line of a requirement begins with a digit. -/
theorem exists_digit_of_mem_numberedFrom {first : Nat} {items : List Text} {line : Text}
    (h : line ∈ Prompt.numberedFrom first items) :
    ∃ d rest, line = d :: rest ∧ d.isDigit = true := by
  induction items generalizing first with
  | nil => simp [Prompt.numberedFrom] at h
  | cons item items ih =>
    rcases List.mem_cons.mp h with rfl | h
    · obtain ⟨d, digits, hdigits, hd⟩ := Text.exists_digit_ofNat first
      refine ⟨d, digits ++ (". " : Text) ++ item, ?_, hd⟩
      rw [hdigits, List.cons_append, List.cons_append]
    · exact ih h

/-- A line of a requirement is a line. -/
theorem isLine_of_mem_numberedFrom {first : Nat} {items : List Text} {line : Text}
    (hitems : ∀ item ∈ items, Text.IsField item)
    (h : line ∈ Prompt.numberedFrom first (items.map (unmarkedBox ++ ·))) : Text.IsLine line := by
  induction items generalizing first with
  | nil => simp [Prompt.numberedFrom] at h
  | cons item items ih =>
    rcases List.mem_cons.mp h with rfl | h
    · have hdigits : '\n' ∉ Text.ofNat first :=
        fun hmem => absurd (Text.isDigit_of_mem_ofNat hmem) (by decide)
      have hbox : '\n' ∉ (". " : Text) ++ unmarkedBox := by decide
      have hshape : Text.ofNat first ++ (". " : Text) ++ (unmarkedBox ++ item) =
          Text.ofNat first ++ ((". " : Text) ++ unmarkedBox) ++ item := by
        simp only [List.append_assoc]
      rw [hshape]
      have hstart : '\n' ∉ Text.ofNat first ++ ((". " : Text) ++ unmarkedBox) :=
        fun hmem => (List.mem_append.mp hmem).elim hdigits hbox
      exact (hitems item List.mem_cons_self).isLine_append hstart
    · exact ih (fun i hi => hitems i (List.mem_cons_of_mem _ hi)) h

namespace Document.IsWritable

variable {document : Document} (h : document.IsWritable)

include h

/-- The title of a written document fills the rest of its line. -/
theorem title_isField : Text.IsField document.title := by
  refine ⟨fun hempty => ?_, h.title_trim, h.title_no_feed⟩
  have htitle := h.title_isTitle
  rw [hempty] at htitle
  exact absurd htitle (by decide)

/-- The line of the title is a heading of level one. -/
theorem parse?_title :
    Heading.parse? (titleStart ++ document.title) = some ⟨1, document.title⟩ := by
  have htitle := h.title_isField
  have hindent : Text.indent (' ' :: document.title) ≠ 0 := by
    rw [Ne, Text.indent_eq_zero_iff, Text.startsVisible_cons]
    decide
  have hmarks : ∀ c ∈ ['#'], c = '#' := by simp
  have htext : Text.trim (' ' :: document.title) ≠ [] := by
    rw [Text.trim_space_cons, htitle.trim_eq]
    exact htitle.ne_nil
  have hparse := Heading.parse?_append hmarks (List.cons_ne_nil _ _) hindent htext
  rw [Text.trim_space_cons, htitle.trim_eq] at hparse
  exact hparse

/-- The lines of a written document: those of the objective stand between its heading and
that of the requirements. -/
theorem lines_sheet :
    Text.lines document.sheet =
      (titleStart ++ document.title) :: objectiveHeading ::
        (Text.lines document.objective ++ requirementsHeading ::
          (requirementLines document.requirements ++
            tasksHeading :: document.tasks.flatMap Task.sheetLines)) := by
  have hobjective : Text.EndsVisible document.objective :=
    h.objective_trim ▸ Text.endsVisible_trim document.objective
  have hfirst : ∀ line ∈ [titleStart ++ document.title, objectiveHeading], Text.IsLine line := by
    intro line hline
    rcases List.mem_pair.mp hline with rfl | rfl
    · exact h.title_isField.isLine_append (by decide)
    · exact ⟨by decide, by decide +kernel⟩
  have hlast : ∀ line ∈ requirementsHeading :: (requirementLines document.requirements ++
      tasksHeading :: document.tasks.flatMap Task.sheetLines), Text.IsLine line := by
    intro line hline
    simp only [List.mem_cons, List.mem_append, List.mem_flatMap] at hline
    rcases hline with rfl | hline | rfl | ⟨task, htask, hline⟩
    · exact ⟨by decide, by decide +kernel⟩
    · exact isLine_of_mem_numberedFrom h.requirements_isField hline
    · exact ⟨by decide, by decide +kernel⟩
    · exact (h.tasks_isWritable task htask).isLine_of_mem_sheetLines hline
  have hsplit : document.sheet =
      Text.terminated [titleStart ++ document.title, objectiveHeading] ++
        (document.objective ++ '\n' :: Text.terminated (requirementsHeading ::
          (requirementLines document.requirements ++
            tasksHeading :: document.tasks.flatMap Task.sheetLines))) := by
    simp [Document.sheet, Document.sheetParts, Text.terminated]
  rw [hsplit, Text.lines_terminated_append hfirst, Text.lines_append_line_feed,
    Text.lines_append_singleton h.objective_ne_nil hobjective.getLast?_ne.1
      hobjective.getLast?_ne.2, Text.lines_terminated hlast]
  rfl

/-- The section with the objective is the objective. -/
theorem findObjective?_lines :
    Outline.findObjective? (Text.lines document.sheet) = some document.objective := by
  have hbefore : ∀ line ∈ [titleStart ++ document.title],
      Heading.opensSection ("Objective" : Text) line = false := by
    simp [Heading.opensSection, h.parse?_title]
  have hheading : Heading.opensSection ("Objective" : Text) objectiveHeading = true := by
    decide
  have hrest : ∀ line ∈ (requirementsHeading :: (requirementLines document.requirements ++
      tasksHeading :: document.tasks.flatMap Task.sheetLines)).head?,
      Heading.breaksSection line = true := by
    simpa using show Heading.breaksSection requirementsHeading = true by decide
  have hsection := Outline.sectionLines?_eq_some hbefore hheading h.objective_no_break hrest
  have hfeed := (h.objective_trim ▸ Text.endsVisible_trim document.objective :
    Text.EndsVisible document.objective).getLast?_ne.1
  rw [h.lines_sheet, Outline.findObjective?]
  rw [List.singleton_append] at hsection
  rw [hsection, Option.map_some, Outline.objectiveText,
    Text.unlines_lines h.objective_no_pair hfeed, h.objective_trim]

/-- The section with the requirements holds the requirements. -/
theorem findRequirements?_lines :
    Outline.findRequirements? (Text.lines document.sheet) = some ⟨document.requirements, true⟩ := by
  have hbefore : ∀ line ∈ (titleStart ++ document.title) :: objectiveHeading ::
      Text.lines document.objective, Heading.opensSection ("Requirements" : Text) line = false := by
    intro line hline
    rcases List.mem_cons.mp hline with rfl | hline
    · simp [Heading.opensSection, h.parse?_title]
    · rcases List.mem_cons.mp hline with rfl | hline
      · decide
      · by_contra hopen
        have hbreak := Heading.breaksSection_of_opensSection (by simpa using hopen)
        simp [h.objective_no_break line hline] at hbreak
  have hbody : ∀ line ∈ requirementLines document.requirements,
      Heading.breaksSection line = false := by
    intro line hline
    obtain ⟨d, rest, rfl, hd⟩ := exists_digit_of_mem_numberedFrom hline
    have hmark : ('#' == d) = false := beq_eq_false_iff_ne.mpr fun heq => by simp [← heq] at hd
    rw [Heading.breaksSection, List.isPrefixOf_cons_cons, hmark, Bool.false_and]
  have hheading : Heading.opensSection ("Requirements" : Text) requirementsHeading = true := by
    decide
  have hrest : ∀ line ∈ (tasksHeading :: document.tasks.flatMap Task.sheetLines).head?,
      Heading.breaksSection line = true := by
    simpa using show Heading.breaksSection tasksHeading = true by decide
  have hsection := Outline.sectionLines?_eq_some hbefore hheading hbody hrest
  rw [h.lines_sheet, Outline.findRequirements?]
  rw [List.cons_append, List.cons_append] at hsection
  rw [hsection, Option.map_some, Outline.readRequirements_requirementLines h.requirements_ne_nil
    h.requirements_isField]

/-- The blocks of a written document are those of its tasks. -/
theorem findBlocks_lines :
    Outline.findBlocks (Text.lines document.sheet) = document.tasks.map Outline.writtenBlock := by
  have hbefore : ∀ line ∈ (titleStart ++ document.title) :: objectiveHeading ::
      (Text.lines document.objective ++ requirementsHeading ::
        (requirementLines document.requirements ++ [tasksHeading])), entryModule? line = none := by
    intro line hline
    simp only [List.mem_cons, List.mem_append, List.not_mem_nil, or_false] at hline
    rcases hline with rfl | rfl | hline | rfl | hline | rfl
    · exact entryModule?_cons (by decide) (by decide) _
    · decide
    · exact h.objective_no_entry line hline
    · decide
    · obtain ⟨d, rest, rfl, hd⟩ := exists_digit_of_mem_numberedFrom hline
      exact entryModule?_cons (Text.isBlank_of_isDigit hd) (fun heq => by simp [heq] at hd) rest
    · decide
  have hfind := Outline.findBlocks_append hbefore (document.tasks.flatMap Task.sheetLines)
  rw [Outline.findBlocks_sheetLines h.tasks_isWritable] at hfind
  rw [h.lines_sheet, ← hfind]
  simp only [List.cons_append, List.append_assoc, List.nil_append]

/-- The outline of a written document holds its fields. -/
theorem ofText_sheet :
    Outline.ofText document.sheet =
      ⟨document.title, some document.objective, some ⟨document.requirements, true⟩,
        document.tasks.map Outline.writtenBlock⟩ := by
  have htitle : Outline.findTitle? (Text.lines document.sheet) = some document.title := by
    rw [h.lines_sheet]
    exact Outline.findTitle?_cons h.parse?_title rfl _
  rw [Outline.ofText, Outline.ofLines, htitle, h.findObjective?_lines, h.findRequirements?_lines,
    h.findBlocks_lines]
  rfl

end Document.IsWritable

/-- **Reading undoes writing.** The sheet of a document is read as that document, with all
its tasks in order. -/
theorem Document.ofOutline_ofText_sheet {document : Document} (h : document.IsWritable) :
    Document.ofOutline (Outline.ofText document.sheet) = .ok document := by
  have hsteps : ∀ task ∈ document.tasks, (Outline.writtenBlock task).steps = task.steps :=
    fun task htask => (h.tasks_isWritable task htask).steps_unlines
  have hcomplete : (Outline.ofText document.sheet).IsComplete document.objective
      document.requirements := by
    rw [h.ofText_sheet]
    refine ⟨h.title_isTitle, rfl, h.objective_ne_nil, rfl, h.requirements_ne_nil, ?_, ?_⟩
    · simpa using h.tasks_ne_nil
    · intro block hblock
      obtain ⟨task, htask, rfl⟩ := List.mem_map.mp hblock
      rw [hsteps task htask]
      exact (h.tasks_isWritable task htask).steps_ne_nil
  have hread : ∀ task ∈ document.tasks, (Task.ofBlock ∘ Outline.writtenBlock) task = task := by
    intro task htask
    rw [Function.comp_apply, Task.ofBlock, hsteps task htask]
    rfl
  have htasks : (document.tasks.map Outline.writtenBlock).map Task.ofBlock = document.tasks := by
    rw [List.map_map, List.map_congr_left hread, List.map_id']
  rw [hcomplete.ofOutline, h.ofText_sheet, Outline.document, htasks]

/-- A document with texts that look like other parts of a sheet: the objective holds a
heading, a requirement and a step, one step has the form of an entry, and two tasks are
for the same module. -/
def Document.lookalike : Document where
  title := "Task 007: # \t x"
  objective := "# Task 8: y\n\n1. [ ] no requirement\n   - [ ] no step\r."
  requirements := ["[x] ## Tasks", "- [ ] Validate `a`"]
  tasks :=
    [⟨" a\r", ["Validate `b`", "[ ]\u00a0c"]⟩,
      ⟨"- [ ] d", ["## Objective"]⟩,
      ⟨" a\r", ["Validate `b`"]⟩]

/-- Texts that look like other parts of a sheet are read back as what they are. -/
theorem Document.ofOutline_ofText_lookalike :
    Document.lookalike.IsWritable ∧
      Document.ofOutline (Outline.ofText Document.lookalike.sheet) = .ok Document.lookalike := by
  have h : Document.lookalike.IsWritable :=
    ⟨by decide +kernel, by decide +kernel, by decide +kernel, by decide +kernel,
      by decide +kernel, by decide +kernel, by decide +kernel, by decide +kernel,
      by decide +kernel, by decide +kernel, by decide +kernel, by decide +kernel⟩
  exact ⟨h, Document.ofOutline_ofText_sheet h⟩

end TaskSheet
