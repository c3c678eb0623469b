import TaskSheet.Compilation
import TaskSheet.Proofs.Completeness
import TaskSheet.Proofs.Placeholders

/-!
# The outcomes of a compilation

Compiling a sheet reads an outline, holds it to the rules, renders one prompt for every
block, and examines the records that are made of the prompts. Of the ways in which these
steps can fail only two are left: an outline that violates a rule, and prompts that hold
the placeholder of a path. Otherwise there is a record for each block.
-/

namespace TaskSheet

/-- The prompts for the blocks of an outline, in order. -/
def Outline.prompts (outline : Outline) (objective : Text) (items : List Text)
    (environment : Environment) : List Text :=
  outline.blocks.map fun block =>
    Prompt.render ⟨outline.title, objective, items, environment⟩
      ⟨block.module, stepTexts block.rawSteps⟩

/-- The records of an outline's document are made from the prompts for its blocks. -/
theorem Outline.records_document (outline : Outline) (objective : Text) (items : List Text)
    (environment : Environment) :
    (outline.document objective items).records environment =
      (outline.prompts objective items environment).map Record.ofPrompt := by
  rw [Document.records, Outline.document, Outline.prompts, List.map_map, List.map_map]
  rfl

/-- There is a prompt for a complete outline. -/
theorem Outline.IsComplete.prompts_ne_nil {outline : Outline} {objective : Text}
    {items : List Text} (h : outline.IsComplete objective items) (environment : Environment) :
    outline.prompts objective items environment ≠ [] := by
  rw [Outline.prompts, Ne, List.map_eq_nil_iff]
  exact h.blocks_ne_nil

/-- What is reported about a record whose command holds the placeholder. -/
def placeholderReport (number : Nat) : Text :=
  "Task " ++ Text.ofNat number ++ ": command contains ambiguous path '/path/to/'"

/-- The finding of a placeholder is reported so. -/
theorem text_placeholder (number : Nat) :
    (Schema.Finding.fault number .placeholder).text = placeholderReport number := by
  have hmessage : (": " : Text) ++ Schema.Fault.placeholder.message =
      ": command contains ambiguous path '/path/to/'" := by decide +kernel
  exact (List.append_assoc _ _ _).trans
    (congrArg (("Task " : Text) ++ Text.ofNat number ++ ·) hmessage)

/-- The message of a rejection lists the reports, with semicolons between them. -/
theorem message_rejected_placeholders (numbers : List Nat) :
    (Failure.rejected (numbers.map (.fault · .placeholder))).message =
      "output validation failed: " ++
        List.intercalate "; " (numbers.map placeholderReport) := by
  have hreports : (numbers.map (Schema.Finding.fault · .placeholder)).map (·.text) =
      numbers.map placeholderReport := by
    rw [List.map_map]
    exact List.map_congr_left fun number _ => text_placeholder number
  exact congrArg (fun reports : List Text =>
    ("output validation failed: " : Text) ++ List.intercalate ("; " : Text) reports) hreports

namespace Compilation

/-- An outline that violates a rule fails with all its violations. -/
theorem result_of_violations (environment : Environment) {sheet : Text}
    (h : (Outline.ofText sheet).violations ≠ []) :
    (ofSheet environment sheet).result =
      .error (.malformed (Outline.ofText sheet).violations) := by
  rw [ofSheet, Outline.ofOutline_of_violations h]

/-- A complete outline gives the records of its prompts, unless a prompt holds the
placeholder. -/
theorem result_of_isComplete (environment : Environment) {sheet objective : Text}
    {items : List Text} (h : (Outline.ofText sheet).IsComplete objective items) :
    (ofSheet environment sheet).result =
      let prompts := (Outline.ofText sheet).prompts objective items environment
      let numbers := Schema.placeholdersFrom 1 prompts
      if numbers = [] then .ok (prompts.map Record.ofPrompt)
      else .error (.rejected (numbers.map (.fault · .placeholder))) := by
  have herrors := Schema.filter_isError_verifyRecords environment
    ((Outline.ofText sheet).prompts objective items environment)
  simp only [ofSheet, h.ofOutline, ofDocument, Outline.records_document, Schema.passes_iff,
    herrors, List.map_eq_nil_iff]
  split <;> rfl

/-- Records are returned exactly for a complete outline without a placeholder in any of
its prompts. -/
theorem result_eq_ok_iff {environment : Environment} {sheet : Text} {records : List Record} :
    (ofSheet environment sheet).result = .ok records ↔
      ∃ objective items, (Outline.ofText sheet).IsComplete objective items ∧
        Schema.placeholdersFrom 1
          ((Outline.ofText sheet).prompts objective items environment) = [] ∧
        records =
          ((Outline.ofText sheet).prompts objective items environment).map Record.ofPrompt := by
  constructor
  · intro hresult
    by_cases hviolations : (Outline.ofText sheet).violations = []
    · obtain ⟨objective, items, h⟩ := Outline.violations_eq_nil_iff.mp hviolations
      rw [result_of_isComplete environment h] at hresult
      dsimp only at hresult
      split at hresult
      · rename_i hnumbers
        exact ⟨objective, items, h, hnumbers, (Except.ok.inj hresult).symm⟩
      · contradiction
    · rw [result_of_violations environment hviolations] at hresult
      contradiction
  · rintro ⟨objective, items, h, hnumbers, rfl⟩
    rw [result_of_isComplete environment h]
    exact if_pos hnumbers

/-- If no field of its prompts holds the placeholder, the records of a document have no errors,
for whatever environment they are examined. -/
theorem isError_eq_false_of_clear {document : Document} {environment : Environment}
    (hclear : ∀ task ∈ document.tasks,
      ¬Text.StandsOn Schema.placeholderPath
        (Prompt.fields (document.promptContext environment) task))
    (other : Environment) :
    ∀ finding ∈ Schema.verifyRecords other (document.records environment),
      finding.isError = false := by
  have hnumbers : Schema.placeholdersFrom 1
      (document.tasks.map (Prompt.render (document.promptContext environment))) = [] := by
    refine Schema.placeholdersFrom_eq_nil 1 fun prompt hprompt => ?_
    obtain ⟨task, htask, rfl⟩ := List.mem_map.mp hprompt
    rw [Prompt.placeholder_render_iff]
    exact hclear task htask
  have herrors := Schema.filter_isError_verifyRecords other
    (document.tasks.map (Prompt.render (document.promptContext environment)))
  rw [hnumbers, List.map_map, List.map_nil, List.filter_eq_nil_iff] at herrors
  exact fun finding hfinding => Bool.eq_false_iff.mpr (herrors finding hfinding)

/-- A document is compiled to its records, if no field of its prompts holds the
placeholder. -/
theorem result_of_document {environment : Environment} {sheet : Text} {document : Document}
    (h : Document.ofOutline (Outline.ofText sheet) = .ok document)
    (hclear : ∀ task ∈ document.tasks,
      ¬Text.StandsOn Schema.placeholderPath
        (Prompt.fields (document.promptContext environment) task)) :
    (ofSheet environment sheet).result = .ok (document.records environment) := by
  have hpasses : Schema.passes
      (Schema.verifyRecords environment (document.records environment)) = true :=
    List.all_eq_true.mpr fun finding hfinding =>
      congrArg not (isError_eq_false_of_clear hclear environment finding hfinding)
  simp only [ofSheet, h, ofDocument, hpasses, if_true]

/-- The lines of a sheet with one entry, which is spelled with two spaces behind its box. -/
def looseLines : List Text :=
  ["# Task 011: DB Ops",
    "## Objective",
    "Validate the DB layer.",
    "## Requirements",
    "1. [ ] Must use real DB",
    "## Tasks",
    "- [ ]  Validate `db.py`",
    "   - [ ] Connect"]

/-- That sheet. -/
def looseSheet : Text := Text.terminated looseLines

/-- A setting for that sheet. -/
def looseEnvironment : Environment := ⟨"/srv/app", Environment.defaultActivate, "/docs/011.md"⟩

/-- The document of that sheet. -/
def looseDocument : Document :=
  ⟨"Task 011: DB Ops", "Validate the DB layer.", ["Must use real DB"], [⟨"db.py", ["Connect"]⟩]⟩

/-- The prompt for the entry of that sheet. -/
def loosePrompt : Text :=
  Prompt.render
    ⟨"Task 011: DB Ops", "Validate the DB layer.", ["Must use real DB"], looseEnvironment⟩
    ⟨"db.py", ["Connect"]⟩

/-- The entry with two spaces is compiled like any other. -/
theorem result_looseSheet :
    (ofSheet looseEnvironment looseSheet).result = .ok [Record.ofPrompt loosePrompt] := by
  have hdocument : Document.ofOutline (Outline.ofText looseSheet) = .ok looseDocument := by
    decide +kernel
  exact result_of_document hdocument (by decide +kernel)

/-- **The three outcomes.** Either the outline of a sheet violates a rule, and the
compilation fails with all its violations; or there is a prompt for every block, and it
fails with the numbers of those that hold the placeholder; or none does, and every prompt
gives a record. -/
theorem ofSheet_three_outcomes (environment : Environment) (sheet : Text) :
    let outline := Outline.ofText sheet
    let result := (ofSheet environment sheet).result
    (outline.violations ≠ [] ∧ result = .error (.malformed outline.violations)) ∨
      outline.violations = [] ∧
        ∃ objective items, outline.objective = some objective ∧
          outline.requirements = some ⟨items, true⟩ ∧
          let prompts := outline.prompts objective items environment
          let numbers := Schema.placeholdersFrom 1 prompts
          let errors := numbers.map (Schema.Finding.fault · .placeholder)
          prompts ≠ [] ∧
            ((numbers ≠ [] ∧ result = .error (.rejected errors) ∧
                (Failure.rejected errors).message = "output validation failed: " ++
                  List.intercalate "; " (numbers.map placeholderReport)) ∨
              numbers = [] ∧ result = .ok (prompts.map fun prompt =>
                ⟨"claude_code", ⟨prompt, true, 300000⟩⟩)) := by
  dsimp only
  by_cases hviolations : (Outline.ofText sheet).violations = []
  · right
    obtain ⟨objective, items, h⟩ := Outline.violations_eq_nil_iff.mp hviolations
    refine ⟨hviolations, objective, items, h.objective_eq, h.requirements_eq,
      h.prompts_ne_nil environment, ?_⟩
    rw [result_of_isComplete environment h]
    by_cases hnumbers : Schema.placeholdersFrom 1
        ((Outline.ofText sheet).prompts objective items environment) = []
    · exact Or.inr ⟨hnumbers, if_pos hnumbers⟩
    · left
      refine ⟨hnumbers, if_neg hnumbers, ?_⟩
      exact message_rejected_placeholders _
  · exact Or.inl ⟨hviolations, result_of_violations environment hviolations⟩

end Compilation

end TaskSheet
