import TaskSheet.Proofs.Completeness
import TaskSheet.Proofs.Diagnoses
import Mathlib.Data.List.Perm.Basic

/-!
# The rules that an outline breaks

An outline is held to all rules before it becomes a document, and what it lacks is replaced by
default values only afterwards. Hence no default ever reaches a document: a document is made exactly
of an outline that obeys every rule, and takes its fields over. In all other cases each rule that is
broken is reported once, in the order of the rules, whatever other rules are broken.
-/

namespace TaskSheet

/-- A document takes over what an outline holds. -/
structure Document.Copies (document : Document) (outline : Outline) : Prop where
  /-- The title is the same. -/
  title_eq : document.title = outline.title
  /-- The objective is the same. -/
  objective_eq : outline.objective = some document.objective
  /-- The requirements are the same. -/
  requirements_eq : outline.requirements = some ⟨document.requirements, true⟩
  /-- There is one task for each block, with its module and its steps. -/
  tasks_eq : document.tasks = outline.blocks.map fun block => ⟨block.module, block.steps⟩

/-- Every rule is tried. -/
theorem Rule.mem_all (rule : Rule) : rule ∈ all := by
  cases rule <;> decide

/-- No rule is tried twice. -/
theorem Rule.nodup_all : all.Nodup := by decide

namespace Outline

/-- What a rule asks of an outline. -/
def Obeys (outline : Outline) : Rule → Prop
  | .title => Title.isTitle outline.title = true
  | .objective => ∃ objective, outline.objective = some objective ∧ objective ≠ []
  | .requirements => ∃ items, outline.requirements = some ⟨items, true⟩ ∧ items ≠ []
  | .tasks => outline.blocks ≠ []
  | .steps => ∀ block ∈ outline.blocks, block.steps ≠ []

/-- Whether a rule is obeyed is decided by what it asks. -/
instance (outline : Outline) : DecidablePred outline.Obeys
  | .title => inferInstanceAs (Decidable (Title.isTitle outline.title = true))
  | .objective =>
    decidable_of_iff (objectiveViolations outline.objective = []) objectiveViolations_eq_nil_iff
  | .requirements =>
    decidable_of_iff (requirementViolations outline.requirements = [])
      requirementViolations_eq_nil_iff
  | .tasks => inferInstanceAs (Decidable (outline.blocks ≠ []))
  | .steps => inferInstanceAs (Decidable (∀ block ∈ outline.blocks, block.steps ≠ []))

/-- An outline that shows a violation does not obey its rule. -/
theorem Shows.not_obeys {outline : Outline} {violation : Violation}
    (h : outline.Shows violation) : ¬outline.Obeys violation.rule := by
  intro hobeys
  cases violation with
  | missingTitle =>
    have htitle : Title.isTitle outline.title = true := hobeys
    rw [show outline.title = untitled from h] at htitle
    exact absurd htitle (by decide)
  | invalidTitle title =>
    obtain ⟨rfl, -, hinvalid⟩ := h
    exact Bool.false_ne_true (hinvalid.symm.trans hobeys)
  | missingObjective =>
    obtain ⟨objective, hsome, -⟩ := hobeys
    exact Option.some_ne_none objective (hsome.symm.trans h)
  | emptyObjective =>
    obtain ⟨objective, hsome, hne⟩ := hobeys
    exact hne (Option.some.inj (hsome.symm.trans h))
  | missingRequirements =>
    obtain ⟨items, hsome, -⟩ := hobeys
    exact Option.some_ne_none _ (hsome.symm.trans h)
  | plainRequirements =>
    obtain ⟨items, hsome, -⟩ := hobeys
    obtain ⟨others, hplain⟩ := h
    simp [hsome] at hplain
  | unnumberedRequirements =>
    obtain ⟨items, hsome, hne⟩ := hobeys
    have hnone : some (Requirements.mk items true) = some ⟨[], true⟩ := hsome.symm.trans h
    simp [hne] at hnone
  | noTasks => exact hobeys h
  | stepless modules =>
    obtain ⟨hne, rfl⟩ := h
    apply hne
    rw [List.map_eq_nil_iff, List.filter_eq_nil_iff]
    intro block hblock
    simpa using hobeys block hblock

/-- An outline that does not obey a rule shows a violation of it. -/
theorem exists_shows_of_not_obeys {outline : Outline} {rule : Rule} (h : ¬outline.Obeys rule) :
    ∃ violation, outline.Shows violation ∧ violation.rule = rule := by
  cases rule with
  | title =>
    by_cases htitle : outline.title = untitled
    · exact ⟨.missingTitle, htitle, rfl⟩
    · exact ⟨.invalidTitle outline.title, ⟨rfl, htitle, by simpa [Obeys] using h⟩, rfl⟩
  | objective =>
    cases hobjective : outline.objective with
    | none => exact ⟨.missingObjective, hobjective, rfl⟩
    | some objective =>
      obtain rfl : objective = [] := by simpa [Obeys, hobjective] using h
      exact ⟨.emptyObjective, hobjective, rfl⟩
  | requirements =>
    match hrequirements : outline.requirements with
    | none => exact ⟨.missingRequirements, hrequirements, rfl⟩
    | some ⟨items, false⟩ => exact ⟨.plainRequirements, ⟨items, hrequirements⟩, rfl⟩
    | some ⟨items, true⟩ =>
      obtain rfl : items = [] := by simpa [Obeys, hrequirements] using h
      exact ⟨.unnumberedRequirements, hrequirements, rfl⟩
  | tasks => exact ⟨.noTasks, not_not.mp h, rfl⟩
  | steps =>
    refine ⟨.stepless _, ⟨?_, rfl⟩, rfl⟩
    rw [Ne, List.map_eq_nil_iff, List.filter_eq_nil_iff]
    intro hall
    apply h
    intro block hblock
    simpa using hall block hblock

/-- The rules that an outline shows to be broken are those that it does not obey. -/
theorem exists_shows_iff {outline : Outline} {rule : Rule} :
    (∃ violation, outline.Shows violation ∧ violation.rule = rule) ↔ ¬outline.Obeys rule := by
  constructor
  · rintro ⟨violation, hshows, rfl⟩
    exact Shows.not_obeys hshows
  · exact exists_shows_of_not_obeys

/-- The rules that are reported are those that are broken, each once and in their order. -/
theorem map_rule_violations (outline : Outline) :
    outline.violations.map Violation.rule =
      Rule.all.filter fun rule => ¬outline.Obeys rule := by
  have hreported := map_rule_violations_sublist outline
  have hbroken : (Rule.all.filter fun rule => ¬outline.Obeys rule).Sublist Rule.all :=
    List.filter_sublist
  apply (List.Nodup.perm_iff_eq_of_sublist Rule.nodup_all hreported hbroken).mp
  apply (List.perm_ext_iff_of_nodup (Rule.nodup_all.sublist hreported)
    (Rule.nodup_all.sublist hbroken)).mpr
  intro rule
  simp only [List.mem_map, mem_violations_iff, exists_shows_iff, List.mem_filter, rule.mem_all,
    true_and, decide_eq_true_eq]

/-- Nothing is reported exactly if every rule is obeyed. -/
theorem violations_eq_nil_iff_obeys {outline : Outline} :
    outline.violations = [] ↔ ∀ rule, outline.Obeys rule := by
  rw [← List.map_eq_nil_iff (f := Violation.rule), map_rule_violations, List.filter_eq_nil_iff]
  simp [Rule.mem_all]

/-- The document of a complete outline takes over what the outline holds. -/
theorem IsComplete.copies {outline : Outline} {objective : Text} {items : List Text}
    (h : outline.IsComplete objective items) : (outline.document objective items).Copies outline :=
  ⟨rfl, h.objective_eq, h.requirements_eq, rfl⟩

/-- **Documents and broken rules.** A document is made of an outline exactly if the outline obeys
every rule, and then it takes over what the outline holds. Otherwise every rule that is broken is
reported, once and in the order of the rules, with what the outline shows. -/
theorem ofOutline_obeys_or_reports (outline : Outline) :
    ((∃ document, Document.ofOutline outline = .ok document) ↔ ∀ rule, outline.Obeys rule) ∧
      match Document.ofOutline outline with
      | .ok document => document.Copies outline
      | .error violations =>
        violations.map Violation.rule = Rule.all.filter (fun rule => ¬outline.Obeys rule) ∧
          ∀ violation ∈ violations, outline.Shows violation := by
  by_cases hviolations : outline.violations = []
  · obtain ⟨objective, items, hcomplete⟩ := violations_eq_nil_iff.mp hviolations
    rw [hcomplete.ofOutline]
    refine ⟨?_, hcomplete.copies⟩
    simpa using violations_eq_nil_iff_obeys.mp hviolations
  · rw [ofOutline_of_violations hviolations]
    refine ⟨?_, map_rule_violations outline, fun violation => mem_violations_iff.mp⟩
    rw [← violations_eq_nil_iff_obeys]
    simpa using hviolations

end Outline

end TaskSheet
