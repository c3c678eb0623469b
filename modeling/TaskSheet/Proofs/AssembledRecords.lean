import TaskSheet.Schema
import Mathlib.Data.List.Basic

/-!
# Records made from prompts

Compiled records are examined by rules that were made for lists from elsewhere. A record
that was made from a prompt satisfies all of these rules but one, whatever the prompt is:
the prompt may hold the placeholder of a path. Hence the errors that are found in such
records are the numbers of the prompts with the placeholder, in order.
-/

namespace TaskSheet.Schema

/-- The arguments of a record that was made from a prompt. -/
def promptArguments (prompt : Text) : List (Text × Json) :=
  [(Record.commandKey, .string prompt),
    (Record.skipPermissionsKey, .bool true),
    (Record.timeoutKey, .number (.int Record.defaultTimeout.toNat))]

/-- The members of a record that was made from a prompt. -/
def promptMembers (prompt : Text) : List (Text × Json) :=
  [(Record.argumentsKey, .object (promptArguments prompt)),
    (Record.toolKey, .string Record.toolName)]

/-- A record that was made from a prompt is the object of these members. -/
theorem toJson_ofPrompt (prompt : Text) :
    (Record.ofPrompt prompt).toJson = .object (promptMembers prompt) := rfl

/-- The tool of such a record is the right one. -/
theorem checkTool_promptMembers (prompt : Text) : checkTool (promptMembers prompt) = .ok () := by
  have hne : (Record.toolKey == Record.argumentsKey) = false := by decide
  have hlookup : (promptMembers prompt).lookup Record.toolKey = some (.string Record.toolName) := by
    rw [promptMembers, List.lookup_cons, hne, List.lookup_cons_self]
  simp only [checkTool, hlookup, if_true]

/-- The arguments of such a record are found. -/
theorem findArguments_promptMembers (prompt : Text) :
    findArguments (promptMembers prompt) = .ok (promptArguments prompt) := by
  have hlookup : (promptMembers prompt).lookup Record.argumentsKey =
      some (.object (promptArguments prompt)) := List.lookup_cons_self
  simp only [findArguments, hlookup]

/-- The command of such a record is the prompt, unless that holds the placeholder. -/
theorem findCommand_promptArguments (prompt : Text) :
    findCommand (promptArguments prompt) =
      if Text.contains placeholderPath prompt then .error .placeholder else .ok prompt := by
  have hlookup : (promptArguments prompt).lookup Record.commandKey = some (.string prompt) :=
    List.lookup_cons_self
  simp only [findCommand, hlookup]

/-- The permission is granted in such a record. -/
theorem checkPermission_promptArguments (prompt : Text) :
    checkPermission (promptArguments prompt) = .ok () := by
  have hne : (Record.skipPermissionsKey == Record.commandKey) = false := by decide
  have hlookup : (promptArguments prompt).lookup Record.skipPermissionsKey =
      some (.bool true) := by
    rw [promptArguments, List.lookup_cons, hne, List.lookup_cons_self]
  simp only [checkPermission, hlookup]

/-- A record that was made from a prompt is faulty only if the prompt holds the
placeholder. -/
theorem inspect_ofPrompt (prompt : Text) :
    inspect (Record.ofPrompt prompt).toJson =
      if Text.contains placeholderPath prompt then .error .placeholder
      else .ok (prompt, promptArguments prompt) := by
  rw [toJson_ofPrompt, inspect, checkTool_promptMembers, findArguments_promptMembers]
  have hcommand := findCommand_promptArguments prompt
  by_cases h : Text.contains placeholderPath prompt = true
  · rw [if_pos h] at hcommand
    simp only [bind, Except.bind, hcommand, if_pos h]
  · rw [if_neg h] at hcommand
    simp only [bind, Except.bind, hcommand, checkPermission_promptArguments, if_neg h]
    rfl

/-- The numbers of the prompts that hold the placeholder, in order. The first prompt has
the given number. -/
def placeholdersFrom (number : Nat) (prompts : List Text) : List Nat :=
  ((prompts.zipIdx number).filter fun prompt => Text.contains placeholderPath prompt.1).map (·.2)

/-- No prompt is counted if none holds the placeholder. -/
theorem placeholdersFrom_eq_nil {prompts : List Text} (number : Nat)
    (h : ∀ prompt ∈ prompts, ¬placeholderPath <:+: prompt) :
    placeholdersFrom number prompts = [] := by
  rw [placeholdersFrom, List.map_eq_nil_iff, List.filter_eq_nil_iff]
  intro prompt hprompt
  rw [Text.contains_iff_infix]
  exact h _ (List.fst_mem_of_mem_zipIdx hprompt)

/-- The errors in one record that was made from a prompt. -/
theorem filter_isError_examine (environment : Environment) (number : Nat) (prompt : Text) :
    (examine environment number (Record.ofPrompt prompt).toJson).filter (·.isError) =
      if Text.contains placeholderPath prompt then [.fault number .placeholder] else [] := by
  rw [examine, inspect_ofPrompt]
  by_cases h : Text.contains placeholderPath prompt = true
  · simp [h, Finding.isError]
  · simp [h, Finding.isError]

/-- The errors in records that were made from prompts. -/
theorem filter_isError_examineFrom (environment : Environment) (number : Nat)
    (prompts : List Text) :
    (examineFrom environment number
        (prompts.map fun prompt => (Record.ofPrompt prompt).toJson)).filter (·.isError) =
      (placeholdersFrom number prompts).map (.fault · .placeholder) := by
  induction prompts generalizing number with
  | nil => rfl
  | cons prompt prompts ih =>
    rw [List.map_cons, examineFrom, List.filter_append, filter_isError_examine, ih (number + 1),
      placeholdersFrom, placeholdersFrom, List.zipIdx_cons]
    by_cases h : Text.contains placeholderPath prompt = true
    · simp [h]
    · simp [h]

/-- The errors in a list of records that were made from prompts. -/
theorem filter_isError_verifyRecords (environment : Environment) (prompts : List Text) :
    (verifyRecords environment (prompts.map Record.ofPrompt)).filter (·.isError) =
      (placeholdersFrom 1 prompts).map (.fault · .placeholder) := by
  cases prompts with
  | nil => rfl
  | cons prompt prompts =>
    have hlist : Record.listToJson ((prompt :: prompts).map Record.ofPrompt) =
        .array ((prompt :: prompts).map fun p => (Record.ofPrompt p).toJson) := by
      rw [Record.listToJson, List.map_map]
      rfl
    rw [verifyRecords, hlist, ← filter_isError_examineFrom environment]
    rfl

/-- A list passes exactly when nothing in it is an error. -/
theorem passes_iff {findings : List Finding} :
    passes findings = true ↔ findings.filter (·.isError) = [] := by
  simp [passes, List.filter_eq_nil_iff]

end TaskSheet.Schema
