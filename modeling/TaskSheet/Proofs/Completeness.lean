import TaskSheet.Violation

/-!
# Complete outlines

An outline violates no rule exactly when it holds everything that a document needs. The
document then takes its fields from the outline, so that the values that stand in for
missing sections never reach it.
-/

namespace TaskSheet.Outline

/-- An outline that holds everything that a document needs. -/
structure IsComplete (outline : Outline) (objective : Text) (items : List Text) : Prop where
  /-- The title is a task title. -/
  isTitle : Title.isTitle outline.title = true
  /-- There is an objective. -/
  objective_eq : outline.objective = some objective
  /-- The objective is not empty. -/
  objective_ne_nil : objective ≠ []
  /-- There are requirements with checkboxes. -/
  requirements_eq : outline.requirements = some ⟨items, true⟩
  /-- Some of them are numbered. -/
  items_ne_nil : items ≠ []
  /-- There is an entry. -/
  blocks_ne_nil : outline.blocks ≠ []
  /-- Every entry has a step. -/
  steps_ne_nil : ∀ block ∈ outline.blocks, block.steps ≠ []

/-- The rule for titles is kept by task titles only. -/
theorem titleViolations_eq_nil_iff {title : Text} :
    titleViolations title = [] ↔ Title.isTitle title = true := by
  have huntitled : Title.isTitle untitled = false := by decide
  rw [titleViolations]
  split
  · rename_i h
    simp [h, huntitled]
  · split <;> simp [*]

/-- The rule for the objective is kept by texts that are not empty. -/
theorem objectiveViolations_eq_nil_iff {objective : Option Text} :
    objectiveViolations objective = [] ↔ ∃ text, objective = some text ∧ text ≠ [] := by
  match objective with
  | none => simp [objectiveViolations]
  | some [] => simp [objectiveViolations]
  | some (c :: text) => simp [objectiveViolations]

/-- The rule for the requirements is kept by sections with a numbered checkbox. -/
theorem requirementViolations_eq_nil_iff {requirements : Option Requirements} :
    requirementViolations requirements = [] ↔
      ∃ items, requirements = some ⟨items, true⟩ ∧ items ≠ [] := by
  match requirements with
  | none => simp [requirementViolations]
  | some ⟨items, false⟩ => simp [requirementViolations]
  | some ⟨[], true⟩ => simp [requirementViolations]
  | some ⟨item :: items, true⟩ => simp [requirementViolations]

/-- The rule for steps is kept if every entry has one. -/
theorem stepViolations_eq_nil_iff {blocks : List Block} :
    stepViolations blocks = [] ↔ ∀ block ∈ blocks, block.steps ≠ [] := by
  simp [stepViolations, List.filter_eq_nil_iff]

/-- Nothing is violated exactly when nothing is missing. -/
theorem violations_eq_nil_iff {outline : Outline} :
    outline.violations = [] ↔ ∃ objective items, outline.IsComplete objective items := by
  have htasks : taskViolations outline.blocks = [] ↔ outline.blocks ≠ [] := by
    cases outline.blocks <;> simp [taskViolations]
  simp only [violations, List.append_eq_nil_iff, titleViolations_eq_nil_iff,
    objectiveViolations_eq_nil_iff, requirementViolations_eq_nil_iff, htasks,
    stepViolations_eq_nil_iff]
  constructor
  · rintro ⟨⟨⟨⟨htitle, objective, hobjective, hne⟩, items, hitems, hitem⟩, hblocks⟩, hsteps⟩
    exact ⟨objective, items, htitle, hobjective, hne, hitems, hitem, hblocks, hsteps⟩
  · rintro ⟨objective, items, h⟩
    exact ⟨⟨⟨⟨h.isTitle, objective, h.objective_eq, h.objective_ne_nil⟩, items,
      h.requirements_eq, h.items_ne_nil⟩, h.blocks_ne_nil⟩, h.steps_ne_nil⟩

/-- The document of a complete outline. -/
def document (outline : Outline) (objective : Text) (items : List Text) : Document :=
  ⟨outline.title, objective, items, outline.blocks.map Task.ofBlock⟩

/-- A complete outline is copied to its document. -/
theorem IsComplete.ofOutline {outline : Outline} {objective : Text} {items : List Text}
    (h : outline.IsComplete objective items) :
    Document.ofOutline outline = .ok (outline.document objective items) := by
  have hviolations := violations_eq_nil_iff.mpr ⟨objective, items, h⟩
  simp [Document.ofOutline, hviolations, document, h.objective_eq, h.requirements_eq]

/-- An outline that violates a rule is no document, and all violations are kept. -/
theorem ofOutline_of_violations {outline : Outline} (h : outline.violations ≠ []) :
    Document.ofOutline outline = .error outline.violations := by
  rw [Document.ofOutline]
  split
  · contradiction
  · rfl

/-- What keeps an outline from being a document is all of its violations. -/
theorem ofOutline_eq_error_iff {outline : Outline} {violations : List Violation} :
    Document.ofOutline outline = .error violations ↔
      violations = outline.violations ∧ violations ≠ [] := by
  by_cases hviolations : outline.violations = []
  · obtain ⟨objective, items, hcomplete⟩ := violations_eq_nil_iff.mp hviolations
    rw [hcomplete.ofOutline, hviolations]
    exact ⟨fun h => (nomatch h), fun ⟨heq, hne⟩ => absurd heq hne⟩
  · rw [ofOutline_of_violations hviolations, Except.error.injEq]
    exact ⟨fun h => ⟨h.symm, h ▸ hviolations⟩, fun h => h.1.symm⟩

end TaskSheet.Outline
