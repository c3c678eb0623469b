import TaskSheet.Proofs.FieldLines
import TaskSheet.Proofs.Pieces
import TaskSheet.Proofs.Titles
import TaskSheet.Proofs.WrittenSheets

/-!
# Documents are well formed

The rules for outlines look at the title, and otherwise only at what is missing. That the
other fields are fit for use follows from the way in which they are read: what is read from a
line is trimmed and stays on the line, a section ends where the next one begins, and a name
between backquotes holds no backquote.
-/

namespace TaskSheet

/-- What trimming leaves of a part of a line is a field, unless it is nothing. -/
theorem Text.isField_trim {part line : Text} (hne : trim part ≠ []) (hpart : part <:+: line)
    (hline : '\n' ∉ line) : IsField (trim part) where
  ne_nil := hne
  trim_eq := trim_trim part
  no_feed := feed_not_mem_of_infix ((Text.trim_infix part).trans hpart) hline

/-- The text of a heading is a field. -/
theorem Heading.isField_of_parse? {line : Text} {heading : Heading}
    (h : parse? line = some heading) (hline : '\n' ∉ line) : Text.IsField heading.text := by
  obtain ⟨rest, rfl, -, -, htext, hne⟩ := parse?_eq_some_iff.mp h
  rw [← htext] at hne ⊢
  exact Text.isField_trim hne (List.suffix_append _ _).isInfix hline

/-- The text of a checkbox is a field. -/
theorem Checkbox.isField_of_parse? {line : Text} {box : Checkbox} (h : parse? line = some box)
    (hline : '\n' ∉ line) : Text.IsField box.text := by
  obtain ⟨rest, hrest, htext, hne⟩ := exists_trim_of_parse? h
  rw [htext] at hne ⊢
  exact Text.isField_trim hne hrest.isInfix hline

/-- The text of a step is a field. -/
theorem isField_of_stepText? {least : Nat} {line text : Text} (h : stepText? least line = some text)
    (hline : '\n' ∉ line) : Text.IsField text := by
  obtain ⟨blank, rest, -, rfl, -, rfl, hne⟩ := stepText?_eq_some_iff.mp h
  exact Text.isField_trim hne (List.suffix_append _ _).isInfix hline

namespace Outline

/-- No line of a section begins another one. -/
theorem breaksSection_of_mem_sectionLines? {name line : Text} {lines body : List Text}
    (h : sectionLines? name lines = some body) (hline : line ∈ body) :
    Heading.breaksSection line = false := by
  induction lines with
  | nil => simp [sectionLines?] at h
  | cons first lines ih =>
    rw [sectionLines?] at h
    split at h
    · obtain rfl := Option.some.inj h
      simpa using List.mem_takeWhile_imp hline
    · exact ih h

/-- A task title is a field. -/
theorem isField_title {sheet : Text} (h : Title.isTitle (ofText sheet).title = true) :
    Text.IsField (ofText sheet).title := by
  obtain ⟨line, hline, heading, hparse, -, htext⟩ :=
    exists_heading_of_findTitle? (findTitle?_of_isTitle h)
  have hfield := Heading.isField_of_parse? hparse (Text.not_mem_of_mem_lines hline)
  rwa [htext] at hfield

/-- Requirements are fields. -/
theorem isField_of_mem_items {sheet item : Text} {requirements : Requirements}
    (h : (ofText sheet).requirements = some requirements) (hitem : item ∈ requirements.items) :
    Text.IsField item := by
  obtain ⟨body, hbody, rfl⟩ := Option.map_eq_some_iff.mp h
  simp only [readRequirements, List.mem_map, List.mem_filter, List.mem_filterMap] at hitem
  obtain ⟨box, ⟨⟨line, hline, hbox⟩, -⟩, rfl⟩ := hitem
  exact Checkbox.isField_of_parse? hbox
    (Text.not_mem_of_mem_lines (mem_of_mem_sectionLines? hbody hline))

/-- An objective is trimmed. -/
theorem trim_objective {sheet objective : Text} (h : (ofText sheet).objective = some objective) :
    Text.trim objective = objective := by
  obtain ⟨body, -, rfl⟩ := Option.map_eq_some_iff.mp h
  exact Text.trim_trim _

/-- Behind its first line an objective has no line that begins a section. The first line is
left out, since trimming can uncover number signs there. -/
theorem objective_tail_no_break {sheet objective : Text}
    (h : (ofText sheet).objective = some objective) (hne : objective ≠ []) :
    ∀ line ∈ (Text.pieces objective).tail, Heading.breaksSection line = false := by
  obtain ⟨body, hbody, rfl⟩ := Option.map_eq_some_iff.mp h
  have hlines : ∀ line ∈ body, '\n' ∉ line := fun line hline =>
    Text.not_mem_of_mem_lines (mem_of_mem_sectionLines? hbody hline)
  have hbodyne : body ≠ [] := by
    rintro rfl
    exact hne rfl
  have hpieces : Text.pieces (Text.unlines body) = body := by
    rw [Text.pieces_unlines hbodyne, Text.flatMap_pieces hlines]
  have hmark : '\n' ∉ ['#', '#'] := by decide
  intro line hline
  rw [← Bool.not_eq_true]
  intro hbreak
  -- A break behind a line feed of the trimmed text is one of the untrimmed text.
  have hfound : '\n' :: ['#', '#'] <:+: Text.unlines body :=
    ((Text.exists_prefix_tail_pieces_iff hmark).mp
      ⟨line, hline, List.isPrefixOf_iff_prefix.mp hbreak⟩).trans (Text.trim_infix _)
  obtain ⟨other, hother, hstarts⟩ := (Text.exists_prefix_tail_pieces_iff hmark).mpr hfound
  rw [hpieces] at hother
  have hnone := breaksSection_of_mem_sectionLines? hbody (List.mem_of_mem_tail hother)
  rw [Heading.breaksSection, List.isPrefixOf_iff_prefix.mpr hstarts] at hnone
  contradiction

/-- A block with steps is a task that fits on its lines. -/
theorem isWritable_of_mem_blocks {sheet : Text} {block : Block}
    (h : block ∈ (ofText sheet).blocks) (hsteps : block.steps ≠ []) :
    (Task.ofBlock block).IsWritable := by
  obtain ⟨line, -, hentry⟩ := exists_entry_of_mem_findBlocks h
  obtain ⟨_, _, _, -, -, -, hne, hquote⟩ := entryModule?_eq_some_iff.mp hentry
  refine ⟨hne, hquote, feed_not_mem_module h, hsteps, ?_⟩
  intro step hstep
  obtain ⟨raw, hraw, htext⟩ := List.mem_filterMap.mp hstep
  exact isField_of_stepText? htext (Text.not_mem_of_mem_lines hraw)

end Outline

namespace Document

/-- A document whose fields are fit for use. -/
structure IsWellFormed (document : Document) : Prop where
  /-- The title is trimmed and stays on its line. -/
  title_isField : Text.IsField document.title
  /-- The title is the word, a blank run, a number, a colon and a name that is not blank. -/
  title_form : ∃ gap number name, document.title = "Task" ++ gap ++ number ++ ':' :: name ∧
    (gap ≠ [] ∧ ∀ c ∈ gap, Text.isBlank c = true) ∧
    (number ≠ [] ∧ ∀ c ∈ number, c.isDigit = true) ∧ ∃ c ∈ name, Text.isBlank c = false
  /-- There is an objective. -/
  objective_ne_nil : document.objective ≠ []
  /-- The objective is trimmed. -/
  objective_trim : Text.trim document.objective = document.objective
  /-- No line of the objective but the first begins like a section. -/
  objective_no_break :
    ∀ line ∈ (Text.pieces document.objective).tail, Heading.breaksSection line = false
  /-- There is a requirement. -/
  requirements_ne_nil : document.requirements ≠ []
  /-- Every requirement is trimmed, not empty, and stays on its line. -/
  requirements_isField : ∀ item ∈ document.requirements, Text.IsField item
  /-- There is a task. -/
  tasks_ne_nil : document.tasks ≠ []
  /-- Every task has a module and steps that stay on their lines. -/
  tasks_isWritable : ∀ task ∈ document.tasks, task.IsWritable

/-- **Documents are well formed.** Whatever the sheet is, the document that is made of it has
a task title, an objective that is one section, and requirements, modules and steps that are
trimmed and stay on their lines. -/
theorem isWellFormed_of_ofOutline {sheet : Text} {document : Document}
    (h : ofOutline (Outline.ofText sheet) = .ok document) : document.IsWellFormed := by
  by_cases hviolations : (Outline.ofText sheet).violations = []
  · obtain ⟨objective, items, hcomplete⟩ := Outline.violations_eq_nil_iff.mp hviolations
    rw [hcomplete.ofOutline] at h
    obtain rfl := Except.ok.inj h
    obtain ⟨title, hparse, hname⟩ := Title.isTitle_iff.mp hcomplete.isTitle
    obtain ⟨gap, hgap, hblank, hnumber, hdigits, htitle⟩ := Title.parse?_eq_some_iff.mp hparse
    refine ⟨Outline.isField_title hcomplete.isTitle, ?_, hcomplete.objective_ne_nil,
      Outline.trim_objective hcomplete.objective_eq,
      Outline.objective_tail_no_break hcomplete.objective_eq hcomplete.objective_ne_nil,
      hcomplete.items_ne_nil, fun item => Outline.isField_of_mem_items hcomplete.requirements_eq,
      ?_, ?_⟩
    · exact ⟨gap, title.number, title.name, htitle, ⟨hgap, Text.isAllBlank_iff.mp hblank⟩,
        ⟨hnumber, hdigits⟩, hname⟩
    · exact fun hnil => hcomplete.blocks_ne_nil (List.map_eq_nil_iff.mp hnil)
    · intro task htask
      obtain ⟨block, hblock, rfl⟩ := List.mem_map.mp htask
      exact Outline.isWritable_of_mem_blocks hblock (hcomplete.steps_ne_nil block hblock)
  · rw [Outline.ofOutline_of_violations hviolations] at h
    contradiction

/-- A sheet with unusual blanks, lone carriage returns, an objective whose first line looks
like a heading once it is trimmed, and a step that looks like an entry. -/
def ruggedSheet : Text :=
  Text.terminated
    ["#\u2003Task\u00a0007: \u3000Storage \r",
      "##  objective\t",
      " \r\t## no heading",
      "Lone \r return.\r",
      "  ",
      "## Requirements",
      "3. [X]\u2003 Real data \r",
      "- [ ] Validate `store/a.py`",
      "   - [ ]  Connect \r",
      "",
      "    - [ ] Validate `b.py`\r",
      "12.\t[] No mocks"]

/-- The document of that sheet. -/
def ruggedDocument : Document :=
  ⟨"Task\u00a0007: \u3000Storage", "## no heading\nLone \r return.", ["Real data", "No mocks"],
    [⟨"store/a.py", ["Connect", "Validate `b.py`"]⟩]⟩

/-- The document of the rugged sheet is well formed. -/
theorem isWellFormed_ruggedDocument :
    ofOutline (Outline.ofText ruggedSheet) = .ok ruggedDocument ∧ ruggedDocument.IsWellFormed := by
  have hdocument : ofOutline (Outline.ofText ruggedSheet) = .ok ruggedDocument := by
    decide +kernel
  exact ⟨hdocument, isWellFormed_of_ofOutline hdocument⟩

end Document

end TaskSheet
