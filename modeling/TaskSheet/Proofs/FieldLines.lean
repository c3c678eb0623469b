import TaskSheet.Outline.Reading
import TaskSheet.Proofs.CheckboxGrammar
import TaskSheet.Proofs.Lines
import TaskSheet.Proofs.Openings
import TaskSheet.Proofs.Sections
import TaskSheet.Title

/-!
# Fields stay on their lines

The title, the requirements, the modules and the steps of a sheet are each read from one
line, and what is read stands on that line without interruption. Since lines hold no line
feed, neither do these fields. Only the objective may take several lines.
-/

namespace TaskSheet

namespace Text

/-- What trimming leaves of a text stands in it. -/
theorem trim_infix (text : Text) : trim text <:+: text := by
  obtain ⟨before, after, -, -, htext⟩ := exists_trim text
  exact ⟨before, after, htext.symm⟩

/-- What stands in a text without line feeds holds none. -/
theorem feed_not_mem_of_infix {part text : Text} (h : part <:+: text) (htext : '\n' ∉ text) :
    '\n' ∉ part := fun hmem => htext (h.subset hmem)

end Text

namespace Checkbox

/-- The text of a checkbox is what trimming leaves of a part of its line, and not empty. -/
theorem exists_trim_of_parse? {line : Text} {box : Checkbox} (h : parse? line = some box) :
    ∃ rest, rest <:+ line ∧ box.text = Text.trim rest ∧ box.text ≠ [] := by
  obtain ⟨parts, hparts⟩ := parse?_eq_some_iff.mp h
  refine ⟨parts.rest, ?_, hparts.rest_trim.symm, hparts.text_ne_nil⟩
  rw [hparts.line_eq]
  exact List.suffix_append _ _

/-- The text of a checkbox stands on its line. -/
theorem text_infix_of_parse? {line : Text} {box : Checkbox} (h : parse? line = some box) :
    box.text <:+: line := by
  obtain ⟨rest, hrest, htext, -⟩ := exists_trim_of_parse? h
  rw [htext]
  exact (Text.trim_infix rest).trans hrest.isInfix

end Checkbox

/-- The text of a step stands on its line. -/
theorem infix_of_stepText? {least : Nat} {line text : Text} (h : stepText? least line = some text) :
    text <:+: line := by
  obtain ⟨blank, rest, -, rfl, -, rfl, -⟩ := stepText?_eq_some_iff.mp h
  exact (Text.trim_infix rest).trans (List.suffix_append _ _).isInfix

/-- The module of an entry stands on its line. -/
theorem infix_of_entryModule? {line module : Text} (h : entryModule? line = some module) :
    module <:+: line := by
  obtain ⟨blank, rest, tail, -, rfl, htrim, -, -⟩ := entryModule?_eq_some_iff.mp h
  have hmodule : module <:+: Text.trim rest := ⟨entryStart, backquote :: tail, htrim.symm⟩
  exact (hmodule.trans (Text.trim_infix rest)).trans (List.suffix_append _ _).isInfix

namespace Outline

/-- A task title is not the placeholder, so it was found. -/
theorem findTitle?_of_isTitle {lines : List Text}
    (h : Title.isTitle (ofLines lines).title = true) :
    findTitle? lines = some (ofLines lines).title := by
  have huntitled : Title.isTitle untitled = false := by decide
  cases htitle : findTitle? lines with
  | none =>
    rw [ofLines, htitle, Option.getD_none, huntitled] at h
    contradiction
  | some title => rw [ofLines, htitle, Option.getD_some]

/-- The lines of a section are lines of the sheet. -/
theorem mem_of_mem_sectionLines? {name line : Text} {lines body : List Text}
    (h : sectionLines? name lines = some body) (hline : line ∈ body) : line ∈ lines := by
  induction lines with
  | nil => simp [sectionLines?] at h
  | cons first lines ih =>
    rw [sectionLines?] at h
    split at h
    · obtain rfl := Option.some.inj h
      exact List.mem_cons_of_mem _ ((List.takeWhile_prefix _).subset hline)
    · exact List.mem_cons_of_mem _ (ih h)

/-- Requirements stay on their lines. -/
theorem feed_not_mem_of_mem_items {sheet item : Text} {requirements : Requirements}
    (h : (ofText sheet).requirements = some requirements) (hitem : item ∈ requirements.items) :
    '\n' ∉ item := by
  obtain ⟨body, hbody, rfl⟩ := Option.map_eq_some_iff.mp h
  simp only [readRequirements, List.mem_map, List.mem_filter, List.mem_filterMap] at hitem
  obtain ⟨box, ⟨⟨line, hline, hbox⟩, -⟩, rfl⟩ := hitem
  have hfeed := Text.not_mem_of_mem_lines (mem_of_mem_sectionLines? hbody hline)
  exact Text.feed_not_mem_of_infix (Checkbox.text_infix_of_parse? hbox) hfeed

/-- Every block is opened by an entry on one of the lines. -/
theorem exists_entry_of_mem_findBlocks {lines : List Text} {block : Block}
    (h : block ∈ findBlocks lines) : ∃ line ∈ lines, entryModule? line = some block.module := by
  rw [← map_block_openings, List.mem_map] at h
  obtain ⟨opening, hopening, rfl⟩ := h
  have hstands := standsIn_of_mem_openings hopening
  exact ⟨opening.line, List.mem_of_getElem? hstands.line_eq, hstands.module_eq⟩

/-- Modules stay on their lines. -/
theorem feed_not_mem_module {sheet : Text} {block : Block} (h : block ∈ (ofText sheet).blocks) :
    '\n' ∉ block.module := by
  obtain ⟨line, hline, hmodule⟩ := exists_entry_of_mem_findBlocks h
  exact Text.feed_not_mem_of_infix (infix_of_entryModule? hmodule) (Text.not_mem_of_mem_lines hline)

/-- Steps stay on their lines. -/
theorem feed_not_mem_of_mem_steps {block : Block} {step : Text} (h : step ∈ block.steps) :
    '\n' ∉ step := by
  obtain ⟨line, hline, hstep⟩ := List.mem_filterMap.mp h
  exact Text.feed_not_mem_of_infix (infix_of_stepText? hstep) (Text.not_mem_of_mem_lines hline)

end Outline

end TaskSheet
