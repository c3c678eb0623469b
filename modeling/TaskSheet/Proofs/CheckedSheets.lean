import TaskSheet.Proofs.Outcomes
import TaskSheet.Proofs.PromptLines
import TaskSheet.Workspace

/-!
# What a check says of a compilation

A check and a compilation load a sheet and look for violations in the same way. The check then ends
and returns what it has found, while the compilation fails if there was anything to find, and goes
on otherwise. So a check tells in advance whether the compilation gets past its first steps.
-/

namespace TaskSheet

/-- Whether a failure is about the file of a sheet, and not about what the sheet says. -/
def Failure.isLoading : Failure → Bool
  | io _ _ => true
  | missingInput _ => true
  | malformed _ => false
  | rejected _ => false

/-- Notices alone are all the notices among their events. -/
@[simp] theorem Event.notices_map_notice (announced : List Notice) :
    notices (announced.map notice) = announced := by
  rw [notices, List.filterMap_map]
  exact List.filterMap_some

/-- A report shows each of its messages. -/
theorem infix_reportText_of_mem {messages : List Text} {message : Text}
    (h : message ∈ messages) : message <:+: reportText messages := by
  have hmarked : message <:+: messageMark ++ message := (List.suffix_append _ _).isInfix
  rw [reportText, Text.terminated_eq_unlines (List.cons_ne_nil _ _)]
  refine (hmarked.trans (Text.infix_unlines_of_mem ?_)).trans (List.prefix_append _ _).isInfix
  exact List.mem_cons_of_mem _ (List.mem_append_left _ (List.mem_map_of_mem h))

/-- The message about a malformed sheet shows that of each of its violations. -/
theorem Failure.infix_message_malformed {violations : List Violation} {violation : Violation}
    (h : violation ∈ violations) : violation.message <:+: (malformed violations).message :=
  infix_reportText_of_mem (List.mem_map_of_mem h)

namespace Compilation

/-- A compilation fails with the violations of its sheet. Without any, it can only fail with
errors that are found in the records. -/
theorem failure_cases {environment : Environment} {sheet : Text} {failure : Failure}
    (h : (ofSheet environment sheet).result = .error failure) :
    ((Outline.ofText sheet).violations ≠ [] ∧
        failure = .malformed (Outline.ofText sheet).violations) ∨
      ((Outline.ofText sheet).violations = [] ∧ ∃ errors, failure = .rejected errors) := by
  by_cases hviolations : (Outline.ofText sheet).violations = []
  · obtain ⟨objective, items, hcomplete⟩ := Outline.violations_eq_nil_iff.mp hviolations
    rw [result_of_isComplete environment hcomplete] at h
    dsimp only at h
    split at h
    · contradiction
    · exact .inr ⟨hviolations, _, (Except.error.inj h).symm⟩
  · rw [result_of_violations environment hviolations] at h
    exact .inl ⟨hviolations, (Except.error.inj h).symm⟩

/-- What is wrong with a sheet that could be loaded is not its file. -/
theorem isLoading_eq_false_of_result {environment : Environment} {sheet : Text}
    {failure : Failure} (h : (ofSheet environment sheet).result = .error failure) :
    failure.isLoading = false := by
  obtain ⟨-, rfl⟩ | ⟨-, errors, rfl⟩ := failure_cases h
  · rfl
  · rfl

/-- A sheet is malformed exactly if it has violations, and these are reported. -/
theorem result_eq_malformed_iff {environment : Environment} {sheet : Text}
    {violations : List Violation} :
    (ofSheet environment sheet).result = .error (.malformed violations) ↔
      violations = (Outline.ofText sheet).violations ∧ (Outline.ofText sheet).violations ≠ [] := by
  constructor
  · intro h
    obtain ⟨hne, heq⟩ | ⟨-, errors, heq⟩ := failure_cases h
    · exact ⟨Failure.malformed.inj heq, hne⟩
    · contradiction
  · rintro ⟨rfl, hne⟩
    exact result_of_violations environment hne

/-- A compilation announces first that it reads the sheet and holds it to the rules. -/
theorem opening_prefix_events (environment : Environment) (sheet : Text) :
    opening.map Event.notice <+: (ofSheet environment sheet).events := by
  rw [ofSheet]
  split
  · exact List.prefix_rfl
  · simp only [ofDocument]
    split
    · simp only [List.map_append, List.append_assoc]
      exact List.prefix_append _ _
    · simp only [List.map_append, List.append_assoc]
      exact List.prefix_append _ _

end Compilation

/-- A check and a compilation that do the same up to where the check ends. -/
structure Outcome.Predicts (checked : Outcome (List Violation)) (compiled : Outcome (List Record)) :
    Prop where
  /-- The check fails exactly if the sheet of the compilation cannot be loaded, and just as it. -/
  error_iff : ∀ failure, checked.result = .error failure ↔
    compiled.result = .error failure ∧ failure.isLoading = true
  /-- What the check finds, and nothing else, keeps the compilation from going on. -/
  malformed_iff : ∀ found, checked.result = .ok found → ∀ violations,
    compiled.result = .error (.malformed violations) ↔ violations = found ∧ found ≠ []
  /-- The compilation then reports all of it. -/
  message_infix : ∀ violations, compiled.result = .error (.malformed violations) →
    ∀ violation ∈ violations, violation.message <:+: (Failure.malformed violations).message
  /-- The check announces what the compilation announces at first. -/
  notices_prefix : Event.notices checked.events <+: Event.notices compiled.events
  /-- These are one or three notices. -/
  length_notices : (Event.notices checked.events).length =
    match checked.result with
    | .error _ => 1
    | .ok _ => 3

namespace Workspace

/-- Loading fails because of a file. -/
theorem isLoading_of_load {files : FileSystem} {path : Bytes} {failure : Failure}
    (h : load files path = .error failure) : failure.isLoading = true := by
  rw [load] at h
  split at h
  · obtain rfl := Except.error.inj h
    rfl
  · split at h
    · contradiction
    · obtain rfl := Except.error.inj h
      rfl

/-- **A check predicts the compilation.** On the same file, it fails as the compilation does if the
sheet cannot be loaded. Otherwise the compilation finds the sheet malformed exactly if the check has
found violations, and reports these. Up to there both announce the same. -/
theorem check_predicts_compile (files : FileSystem) (environment : Environment) (path : Bytes) :
    (check files path).Predicts (compile files environment path) := by
  cases hload : load files path with
  | error failure =>
    rw [check, compile, onSheet_of_error hload, onSheet_of_error hload]
    exact
      { error_iff := by
          intro other
          constructor
          · intro h
            obtain rfl := Except.error.inj h
            exact ⟨rfl, isLoading_of_load hload⟩
          · rintro ⟨h, -⟩
            obtain rfl := Except.error.inj h
            rfl
        malformed_iff := fun found h => (nomatch h)
        message_infix := fun _ _ _ h => Failure.infix_message_malformed h
        notices_prefix := List.prefix_rfl
        length_notices := rfl }
  | ok sheet =>
    have hevents := Compilation.opening_prefix_events environment sheet
    rw [check, compile, onSheet_of_ok hload, onSheet_of_ok hload]
    exact
      { error_iff := by
          intro failure
          refine ⟨fun h => (nomatch h), fun ⟨hresult, hloading⟩ => ?_⟩
          rw [Compilation.isLoading_eq_false_of_result hresult] at hloading
          contradiction
        malformed_iff := by
          intro found hfound violations
          obtain rfl := Except.ok.inj hfound
          exact Compilation.result_eq_malformed_iff
        message_infix := fun _ _ _ h => Failure.infix_message_malformed h
        notices_prefix := (List.cons_prefix_cons.mpr ⟨rfl, hevents⟩).filterMap _
        length_notices := by
          have hnotices := Event.notices_map_notice (.loading :: Compilation.opening)
          rw [List.map_cons] at hnotices
          rw [hnotices]
          rfl }

end Workspace

end TaskSheet
