import TaskSheet.Outline.Reading
import TaskSheet.Proofs.Lines
import TaskSheet.Proofs.Openings
import TaskSheet.Proofs.Sections
import TaskSheet.Proofs.Titles
import TaskSheet.Violation

/-!
# What violations say of a sheet

A violation is found in an outline, where what is missing shows as `none`, as an empty text or
list, or as the placeholder title. Here each violation is traced back to the lines of the sheet.
The placeholder is the only value that a sheet can also state itself: a first heading with that
text is reported as a missing title. All other violations say exactly what the lines lack.
-/

namespace TaskSheet

/-! ## Violations of an outline -/

/-- The rules for outlines. -/
inductive Rule where
  /-- There is a task title. -/
  | title
  /-- There is an objective. -/
  | objective
  /-- There are numbered requirements. -/
  | requirements
  /-- There is a task. -/
  | tasks
  /-- Every task has a step. -/
  | steps
  deriving DecidableEq

/-- All rules, in the order in which they are tried. -/
def Rule.all : List Rule := [.title, .objective, .requirements, .tasks, .steps]

/-- The rule that a violation breaks. -/
def Violation.rule : Violation → Rule
  | missingTitle => .title
  | invalidTitle _ => .title
  | missingObjective => .objective
  | emptyObjective => .objective
  | missingRequirements => .requirements
  | plainRequirements => .requirements
  | unnumberedRequirements => .requirements
  | noTasks => .tasks
  | stepless _ => .steps

namespace Outline

/-- Whether an outline shows what a violation says. -/
def Shows (outline : Outline) : Violation → Prop
  | .missingTitle => outline.title = untitled
  | .invalidTitle title =>
    outline.title = title ∧ title ≠ untitled ∧ Title.isTitle title = false
  | .missingObjective => outline.objective = none
  | .emptyObjective => outline.objective = some []
  | .missingRequirements => outline.requirements = none
  | .plainRequirements => ∃ items, outline.requirements = some ⟨items, false⟩
  | .unnumberedRequirements => outline.requirements = some ⟨[], true⟩
  | .noTasks => outline.blocks = []
  | .stepless modules =>
    modules ≠ [] ∧ modules = (outline.blocks.filter (·.steps.isEmpty)).map (·.module)

/-- What is wrong with a title. -/
theorem mem_titleViolations_iff {title : Text} {violation : Violation} :
    violation ∈ titleViolations title ↔
      violation = .missingTitle ∧ title = untitled ∨
      ∃ text, violation = .invalidTitle text ∧
        title = text ∧ text ≠ untitled ∧ Title.isTitle text = false := by
  rw [titleViolations]
  by_cases huntitled : title = untitled
  · simp [huntitled]
  · cases htitle : Title.isTitle title with
    | false => simp [huntitled, htitle]
    | true => simp [huntitled, htitle]

/-- What is wrong with an objective. -/
theorem mem_objectiveViolations_iff {objective : Option Text} {violation : Violation} :
    violation ∈ objectiveViolations objective ↔
      violation = .missingObjective ∧ objective = none ∨
      violation = .emptyObjective ∧ objective = some [] := by
  match objective with
  | none => simp [objectiveViolations]
  | some [] => simp [objectiveViolations]
  | some (c :: text) => simp [objectiveViolations]

/-- What is wrong with requirements. -/
theorem mem_requirementViolations_iff {requirements : Option Requirements}
    {violation : Violation} :
    violation ∈ requirementViolations requirements ↔
      violation = .missingRequirements ∧ requirements = none ∨
      (violation = .plainRequirements ∧ ∃ items, requirements = some ⟨items, false⟩) ∨
      violation = .unnumberedRequirements ∧ requirements = some ⟨[], true⟩ := by
  match requirements with
  | none => simp [requirementViolations]
  | some ⟨items, false⟩ => simp [requirementViolations]
  | some ⟨[], true⟩ => simp [requirementViolations]
  | some ⟨item :: items, true⟩ => simp [requirementViolations]

/-- What is wrong with the steps of blocks. -/
theorem mem_stepViolations_iff {blocks : List Block} {violation : Violation} :
    violation ∈ stepViolations blocks ↔
      ∃ modules, violation = .stepless modules ∧
        modules ≠ [] ∧ modules = (blocks.filter (·.steps.isEmpty)).map (·.module) := by
  rw [stepViolations]
  cases (blocks.filter (·.steps.isEmpty)).map (·.module) <;> simp

/-- An outline violates a rule exactly if it shows it. -/
theorem mem_violations_iff {outline : Outline} {violation : Violation} :
    violation ∈ outline.violations ↔ outline.Shows violation := by
  have htasks : violation ∈ taskViolations outline.blocks ↔
      violation = .noTasks ∧ outline.blocks = [] := by
    cases outline.blocks <;> simp [taskViolations]
  simp only [violations, List.mem_append, mem_titleViolations_iff, mem_objectiveViolations_iff,
    mem_requirementViolations_iff, htasks, mem_stepViolations_iff]
  cases violation <;> simp only [Shows, Violation.invalidTitle.injEq, Violation.stepless.injEq,
    reduceCtorEq, false_and, true_and, or_false, false_or, exists_false, exists_eq_left']

/-- At most one violation of a rule is found in an outline, and they come in the order of the
rules. -/
theorem map_rule_violations_sublist (outline : Outline) :
    (outline.violations.map Violation.rule).Sublist Rule.all := by
  have htitle : ((titleViolations outline.title).map Violation.rule).Sublist [.title] := by
    rw [titleViolations]
    split
    · exact List.Sublist.refl _
    · split <;> simp [Violation.rule]
  have hobjective :
      ((objectiveViolations outline.objective).map Violation.rule).Sublist [.objective] := by
    match outline.objective with
    | none => exact List.Sublist.refl _
    | some [] => exact List.Sublist.refl _
    | some (c :: text) => exact List.nil_sublist _
  have hrequirements :
      ((requirementViolations outline.requirements).map Violation.rule).Sublist
        [.requirements] := by
    match outline.requirements with
    | none => exact List.Sublist.refl _
    | some ⟨items, false⟩ => exact List.Sublist.refl _
    | some ⟨[], true⟩ => exact List.Sublist.refl _
    | some ⟨item :: items, true⟩ => exact List.nil_sublist _
  have htasks : ((taskViolations outline.blocks).map Violation.rule).Sublist [.tasks] := by
    cases outline.blocks <;> simp [taskViolations, Violation.rule]
  have hsteps : ((stepViolations outline.blocks).map Violation.rule).Sublist [.steps] := by
    rw [stepViolations]
    split <;> simp [Violation.rule]
  simp only [violations, List.map_append]
  exact (((htitle.append hobjective).append hrequirements).append htasks).append hsteps

/-! ## Violations of lines -/

/-- The text of an objective is empty exactly if its section is blank. -/
theorem objectiveText_eq_nil_iff {body : List Text} :
    objectiveText body = [] ↔ ∀ line ∈ body, Text.isAllBlank line = true := by
  rw [objectiveText, Text.trim_eq_nil_iff, Text.isAllBlank_unlines]

/-- The flag of requirements is down exactly if no line is a checkbox. -/
theorem usesCheckboxes_readRequirements_iff {body : List Text} :
    (readRequirements body).usesCheckboxes = false ↔
      ∀ line ∈ body, Checkbox.parse? line = none := by
  simp [readRequirements, List.filterMap_eq_nil_iff]

/-- There are no requirements exactly if no checkbox is numbered. -/
theorem items_readRequirements_eq_nil_iff {body : List Text} :
    (readRequirements body).items = [] ↔
      ∀ line ∈ body, ∀ box, Checkbox.parse? line = some box → box.marker ≠ .numbered := by
  simp only [readRequirements, List.map_eq_nil_iff, List.filter_eq_nil_iff, List.mem_filterMap,
    beq_iff_eq]
  exact ⟨fun h line hline box hbox => h box ⟨line, hline, hbox⟩,
    fun h box ⟨line, hline, hbox⟩ => h line hline box hbox⟩

/-- Whether lines lack what a violation says. -/
def Warrants (lines : List Text) : Violation → Prop
  | .missingTitle => ∀ line ∈ lines, ∀ title, Heading.parse? line ≠ some ⟨1, title⟩
  | .invalidTitle title => IsFirstTitle lines title ∧ ¬Title.HasForm title
  | .missingObjective => ∀ line ∈ lines, Heading.opensSection "Objective" line = false
  | .emptyObjective =>
    ∃ body, IsSection "Objective" lines body ∧ ∀ line ∈ body, Text.isAllBlank line = true
  | .missingRequirements => ∀ line ∈ lines, Heading.opensSection "Requirements" line = false
  | .plainRequirements =>
    ∃ body, IsSection "Requirements" lines body ∧ ∀ line ∈ body, Checkbox.parse? line = none
  | .unnumberedRequirements =>
    ∃ body, IsSection "Requirements" lines body ∧
      (∃ line ∈ body, ∃ box, Checkbox.parse? line = some box) ∧
      ∀ line ∈ body, ∀ box, Checkbox.parse? line = some box → box.marker ≠ .numbered
  | .noTasks => ∀ line ∈ lines, entryModule? line = none
  | .stepless modules =>
    modules ≠ [] ∧ modules = ((findBlocks lines).filter (·.steps.isEmpty)).map (·.module)

/-- What the outline of lines shows of the sections and blocks is what the lines lack. -/
theorem shows_ofLines_iff {lines : List Text} {violation : Violation}
    (hrule : violation.rule ≠ .title) :
    (ofLines lines).Shows violation ↔ Warrants lines violation := by
  cases violation with
  | missingTitle => exact absurd rfl hrule
  | invalidTitle title => exact absurd rfl hrule
  | missingObjective =>
    rw [Shows, Warrants, ofLines, findObjective?, Option.map_eq_none_iff, sectionLines?_eq_none_iff]
  | emptyObjective =>
    simp only [Shows, Warrants, ofLines, findObjective?, Option.map_eq_some_iff,
      sectionLines?_eq_some_iff, objectiveText_eq_nil_iff]
  | missingRequirements =>
    rw [Shows, Warrants, ofLines, findRequirements?, Option.map_eq_none_iff,
      sectionLines?_eq_none_iff]
  | plainRequirements =>
    simp only [Shows, Warrants, ofLines, findRequirements?, Option.map_eq_some_iff,
      sectionLines?_eq_some_iff, ← usesCheckboxes_readRequirements_iff]
    constructor
    · rintro ⟨items, body, hbody, hread⟩
      exact ⟨body, hbody, by rw [hread]⟩
    · rintro ⟨body, hbody, hflag⟩
      exact ⟨(readRequirements body).items, body, hbody, by rw [← hflag]⟩
  | unnumberedRequirements =>
    have hboxes : ∀ body, (∃ line ∈ body, ∃ box, Checkbox.parse? line = some box) ↔
        (readRequirements body).usesCheckboxes = true := by
      intro body
      rw [← Bool.not_eq_false, usesCheckboxes_readRequirements_iff]
      simp [Option.ne_none_iff_exists']
    simp only [Shows, Warrants, ofLines, findRequirements?, Option.map_eq_some_iff,
      sectionLines?_eq_some_iff, hboxes, ← items_readRequirements_eq_nil_iff]
    constructor
    · rintro ⟨body, hbody, hread⟩
      exact ⟨body, hbody, by rw [hread], by rw [hread]⟩
    · rintro ⟨body, hbody, hflag, hitems⟩
      exact ⟨body, hbody, by rw [← hflag, ← hitems]⟩
  | noTasks => rw [Shows, Warrants, ofLines, findBlocks_eq_nil_iff]
  | stepless modules => rfl

/-- An outline has the title of its sheet, or the placeholder if there is none. -/
theorem title_ofLines_eq_iff {lines : List Text} {title : Text} :
    (ofLines lines).title = title ↔
      IsFirstTitle lines title ∨ title = untitled ∧ Warrants lines .missingTitle := by
  rw [Warrants, ← findTitle?_eq_none_iff, ← findTitle?_eq_some_iff, ofLines]
  cases findTitle? lines with
  | none => simp [eq_comm]
  | some first => simp

/-- A sheet whose first title is not the placeholder violates a rule exactly if it lacks what
the rule asks for. -/
theorem mem_violations_ofLines_iff {lines : List Text} (h : ¬IsFirstTitle lines untitled)
    {violation : Violation} :
    violation ∈ (ofLines lines).violations ↔ Warrants lines violation := by
  rw [mem_violations_iff]
  by_cases hrule : violation.rule = .title
  · cases violation with
    | missingTitle =>
      rw [Shows, title_ofLines_eq_iff]
      simp [h]
    | invalidTitle title =>
      have hform : ¬Title.HasForm title ↔ Title.isTitle title = false := by
        rw [← Title.isTitle_iff_hasForm, Bool.not_eq_true]
      rw [Shows, title_ofLines_eq_iff]
      constructor
      · rintro ⟨hfirst | ⟨rfl, -⟩, hne, hother⟩
        · exact ⟨hfirst, hform.mpr hother⟩
        · exact absurd rfl hne
      · rintro ⟨hfirst, hother⟩
        exact ⟨.inl hfirst, fun heq => h (heq ▸ hfirst), hform.mp hother⟩
    | _ => simp [Violation.rule] at hrule
  · exact shows_ofLines_iff hrule

/-- A sheet with a first title has a title. -/
theorem IsFirstTitle.not_warrants {lines : List Text} {title : Text}
    (h : IsFirstTitle lines title) : ¬Warrants lines .missingTitle := by
  rw [Warrants, ← findTitle?_eq_none_iff, findTitle?_eq_some_iff.mpr h]
  exact Option.some_ne_none title

/-- The placeholder passes for a missing title where the sheet states it. -/
theorem IsFirstTitle.mem_violations_iff {lines : List Text} (h : IsFirstTitle lines untitled)
    {violation : Violation} (hrule : violation.rule = .title) :
    violation ∈ (ofLines lines).violations ↔ violation = .missingTitle := by
  have htitle : (ofLines lines).title = untitled := title_ofLines_eq_iff.mpr (.inl h)
  rw [Outline.mem_violations_iff]
  cases violation with
  | missingTitle => simp [Shows, htitle]
  | invalidTitle title =>
    simp only [Shows, htitle, reduceCtorEq, iff_false]
    rintro ⟨heq, hne, -⟩
    exact hne heq.symm
  | _ => simp [Violation.rule] at hrule

/-- The violations of a sheet come in the order of the rules, at most one of each. All those
that are not about the title are found exactly if the lines of the sheet warrant them. For the
title this is so exactly if the sheet does not state the placeholder as its first title; a
sheet that does is said to have none. -/
theorem violations_diagnose_sheet (sheet : Text) :
    ((ofText sheet).violations.map Violation.rule).Sublist Rule.all ∧
      (∀ violation, violation.rule ≠ .title →
        (violation ∈ (ofText sheet).violations ↔ Warrants (Text.lines sheet) violation)) ∧
      ((∀ violation, violation ∈ (ofText sheet).violations ↔
          Warrants (Text.lines sheet) violation) ↔
        ¬IsFirstTitle (Text.lines sheet) untitled) ∧
      (IsFirstTitle (Text.lines sheet) untitled → ∀ violation, violation.rule = .title →
        (violation ∈ (ofText sheet).violations ↔ violation = .missingTitle)) := by
  refine ⟨map_rule_violations_sublist _, fun violation hrule => ?_, ⟨fun h hstated => ?_, ?_⟩, ?_⟩
  · exact mem_violations_iff.trans (shows_ofLines_iff hrule)
  · have hmissing : .missingTitle ∈ (ofText sheet).violations :=
      (hstated.mem_violations_iff rfl).mpr rfl
    exact hstated.not_warrants ((h .missingTitle).mp hmissing)
  · exact fun h violation => mem_violations_ofLines_iff h
  · exact fun h violation hrule => h.mem_violations_iff hrule

/-- A sheet that states the placeholder as its title and is complete otherwise. -/
def untitledSheet : Text :=
  Text.terminated
    ["# Untitled Task", "## Objective", "O", "## Requirements", "1. [ ] R", "## Tasks",
      "- [ ] Validate \x60a.py\x60", "   - [ ] S"]

/-- The sheet has a heading of level one that is no task title, and is said to have none. -/
theorem untitledSheet_misdiagnosed :
    (ofText untitledSheet).violations = [.missingTitle] ∧
      ¬Warrants (Text.lines untitledSheet) .missingTitle ∧
      Warrants (Text.lines untitledSheet) (.invalidTitle untitled) := by
  have hfirst : IsFirstTitle (Text.lines untitledSheet) untitled :=
    findTitle?_eq_some_iff.mp (by decide +kernel)
  have hform : ¬Title.HasForm untitled := by
    rw [← Title.isTitle_iff_hasForm]
    decide
  exact ⟨by decide +kernel, hfirst.not_warrants, hfirst, hform⟩

end Outline

end TaskSheet
