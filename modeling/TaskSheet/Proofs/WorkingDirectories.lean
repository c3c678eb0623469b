import TaskSheet.Proofs.Outcomes
import TaskSheet.Proofs.SchemaVerdicts

/-!
# Working directories

The examination of a record looks for the command that changes to the project directory, and is
content wherever it finds it. So a record that was compiled for another directory is noticed only
if the command stands nowhere in its prompt. A prompt for a directory further inside always holds
it, since the path of the inner directory begins with that of the outer one, and so do prompts in
whose fields the command happens to be quoted.
-/

namespace TaskSheet

namespace Prompt

/-- What follows the first `cd` of a prompt on its line. -/
def commands (environment : Environment) : Text :=
  environment.projectRoot ++ " && " ++ environment.activate

/-- The fixed texts of a prompt have no share in the command to change to a directory. -/
theorem isForeign_cdCommand {environment : Environment} (hfeed : '\n' ∉ environment.projectDir) :
    IsForeign environment.cdCommand where
  getLast?_eq := by
    rw [Environment.cdCommand, Environment.projectRoot, ← List.append_assoc, List.getLast?_concat]
  feed_not_mem := Environment.feed_not_mem_cdCommand hfeed
  misses_fixed fixed hfixed := by
    have hcd : ∀ fixed ∈ fixedTexts, Text.Misses "cd " fixed := by decide +kernel
    exact (hcd fixed hfixed).append environment.projectRoot
  misses_number n := by
    have hdigits : 'c' ∉ Text.ofNat n :=
      fun hmem => absurd (Text.isDigit_of_mem_ofNat hmem) (by decide)
    have hpoint : 'c' ∉ (". " : Text) := by decide
    exact Text.misses_of_not_mem (List.not_mem_append hdigits hpoint)

/-- In the setup the command stands at its place if the path begins like the other one, or else
somewhere behind. -/
theorem cdCommand_infix_setupLine_iff (here there : Environment) :
    there.cdCommand <:+: setupLine here ↔
      there.projectRoot <+: commands here ∨ there.cdCommand <:+: commands here := by
  have hline : setupLine here = 'c' :: (['d', ' '] ++ commands here) := by
    rw [setupLine, Environment.cdCommand, commands, List.append_assoc, List.append_assoc,
      List.append_assoc]
    rfl
  have hcd : there.cdCommand = 'c' :: (['d', ' '] ++ there.projectRoot) := rfl
  -- Behind its place the command cannot begin before the path.
  have hmiss : Text.Misses there.cdCommand ['d', ' '] := Text.misses_of_not_mem (by decide)
  rw [hline, List.infix_cons_iff, Text.infix_append_iff_of_misses hmiss]
  exact or_congr_left (List.cons_prefix_cons.trans
    ((and_iff_right rfl).trans (List.prefix_append_right_inj _)))

/-- **Where a prompt changes to a directory.** It does so with its first command, or one of its
fields says so. -/
theorem cdCommand_infix_render_iff {there : Environment} (hfeed : '\n' ∉ there.projectDir)
    (context : PromptContext) (task : Task) :
    there.cdCommand <:+: render context task ↔
      there.projectRoot <+: commands context.environment ∨
        there.cdCommand <:+: commands context.environment ∨
        there.cdCommand <:+: context.objective ∨
        there.cdCommand <:+: context.environment.modulePath task.module ∨
        Text.StandsOn there.cdCommand context.requirements ∨
        Text.StandsOn there.cdCommand task.steps ∨
        there.cdCommand <:+: context.environment.taskFile ∨
        there.cdCommand <:+: entrySpan task.module := by
  rw [(isForeign_cdCommand hfeed).infix_render_iff, cdCommand_infix_setupLine_iff, or_assoc]

end Prompt

namespace Schema

/-! ## One record of a list -/

section Lists

variable (environment : Environment)

/-- Of one record the same is found in a list as would be found without the others. -/
theorem mem_examineFrom_iff {records : List Json} {record : Json} {number index : Nat}
    (h : records[index]? = some record) {finding : Finding}
    (hnumber : finding.record? = some (number + index)) :
    finding ∈ examineFrom environment number records ↔
      finding ∈ examine environment (number + index) record := by
  induction records generalizing number index with
  | nil => exact absurd h (by simp)
  | cons first records ih =>
    rw [examineFrom, List.mem_append]
    -- What is found elsewhere bears another number.
    cases index with
    | zero =>
      obtain rfl : first = record := Option.some.inj h
      refine or_iff_left fun hlater => ?_
      have hle := le_record?_of_mem_examineFrom environment hlater _ hnumber
      omega
    | succ index =>
      have hshift : number + (index + 1) = number + 1 + index := by omega
      rw [hshift] at hnumber ⊢
      have hfirst : finding ∉ examine environment number first := fun hfirst => by
        have hsame := (judged_examine environment number first).record?_eq finding hfirst
        have := Option.some.inj (hnumber.symm.trans hsame)
        omega
      rw [or_iff_right hfirst]
      exact ih h hnumber

/-- Of one record the same is found among others as would be found without them. -/
theorem mem_verifyRecords_iff {records : List Record} {record : Record} {index : Nat}
    (h : records[index]? = some record) {finding : Finding}
    (hnumber : finding.record? = some (index + 1)) :
    finding ∈ verifyRecords environment records ↔
      finding ∈ examine environment (index + 1) record.toJson := by
  have hvalues : (records.map Record.toJson)[index]? = some record.toJson := by
    rw [List.getElem?_map, h, Option.map_some]
  have hne : records.map Record.toJson ≠ [] := fun hnil => by
    rw [hnil, List.getElem?_nil] at hvalues
    contradiction
  rw [Nat.add_comm] at hnumber ⊢
  rw [verifyRecords, Record.listToJson, verify_array_of_ne_nil environment hne]
  exact mem_examineFrom_iff environment hvalues hnumber

/-- No other gap is reported like that of the working directory. -/
theorem eq_workingDirectory_of_message {gap : Gap} (hgap : gap ∈ expectations)
    (h : gap.message = "missing explicit working directory command") : gap = .workingDirectory := by
  simp only [expectations, List.mem_cons, List.not_mem_nil, or_false] at hgap
  rcases hgap with rfl | rfl | rfl | rfl | rfl | rfl
  · rfl
  all_goals exact absurd h (by decide +kernel)

/-- Whether a record without errors is noticed for its working directory is decided by the
search for the command. -/
theorem exists_workingDirectory_iff {records : List Record} {prompt : Text} {index : Nat}
    (h : records[index]? = some (Record.ofPrompt prompt))
    (hsound : ∀ finding ∈ verifyRecords environment records,
      finding.record? = some (index + 1) → finding.isError = false) :
    (∃ finding ∈ verifyRecords environment records,
        finding.record? = some (index + 1) ∧ finding.isError = false ∧
          finding.message = "missing explicit working directory command") ↔
      ¬environment.cdCommand <:+: prompt := by
  -- The placeholder is the only error that such a record can have.
  have hclear : ¬Text.contains placeholderPath prompt = true := fun hplaceholder => by
    have hfault : Finding.fault (index + 1) .placeholder ∈ verifyRecords environment records := by
      rw [mem_verifyRecords_iff environment h rfl, examine, inspect_ofPrompt, if_pos hplaceholder]
      exact List.mem_singleton_self _
    exact absurd (hsound _ hfault rfl) (by simp [Finding.isError])
  have hfindings : examine environment (index + 1) (Record.ofPrompt prompt).toJson =
      (expectations.filter (Leaves environment (promptArguments prompt) prompt ·)).map
        (.gap (index + 1)) := by
    rw [← gaps_eq, examine, inspect_ofPrompt, if_neg hclear]
  constructor
  · rintro ⟨finding, hfinding, hnumber, -, hmessage⟩
    rw [mem_verifyRecords_iff environment h hnumber, hfindings] at hfinding
    obtain ⟨gap, hgap, rfl⟩ := List.mem_map.mp hfinding
    obtain ⟨hexpected, hleaves⟩ := List.mem_filter.mp hgap
    have hleaves : Leaves environment (promptArguments prompt) prompt gap :=
      of_decide_eq_true hleaves
    rw [eq_workingDirectory_of_message hexpected hmessage] at hleaves
    exact hleaves
  · intro hmissing
    have hleaves : Leaves environment (promptArguments prompt) prompt .workingDirectory := hmissing
    refine ⟨.gap (index + 1) .workingDirectory, ?_, rfl, rfl, rfl⟩
    rw [mem_verifyRecords_iff environment h rfl, hfindings]
    exact List.mem_map_of_mem
      (List.mem_filter.mpr ⟨List.mem_cons_self, decide_eq_true hleaves⟩)

end Lists

/-- The command to change to a directory further inside goes on from the one for the outer
directory. -/
theorem cdCommand_prefix_of_outer {here there : Environment}
    (h : there.projectRoot <+: here.projectRoot) : there.cdCommand <+: here.cdCommand :=
  (List.prefix_append_right_inj _).mpr h

/-- **When a record for another directory is noticed.** A compiled record without errors is
noticed for its working directory exactly if the command to change there stands nowhere in its
prompt, neither in the setup, where it is enough that the path begins like the other one, nor
in one of the fields. So nobody notices a record that was compiled for a directory further
inside. -/
theorem workingDirectory_noticed_iff {document : Document} {task : Task} {place : Nat}
    {here there : Environment} {records : List Record} {index : Nat}
    (htask : document.tasks[place]? = some task)
    (hrecord : records[index]? = (document.records here)[place]?)
    (hsound : ∀ finding ∈ verifyRecords there records,
      finding.record? = some (index + 1) → finding.isError = false) :
    let noticed := ∃ finding ∈ verifyRecords there records,
      finding.record? = some (index + 1) ∧ finding.isError = false ∧
        finding.message = "missing explicit working directory command"
    let change : Text := "cd " ++ there.projectRoot
    let commands : Text := here.projectRoot ++ " && " ++ here.activate
    (noticed ↔ ¬change <:+: Prompt.render (document.promptContext here) task) ∧
      ('\n' ∉ there.projectDir →
        (noticed ↔
          ¬(there.projectRoot <+: commands ∨
            change <:+: commands ∨
            change <:+: document.objective ∨
            change <:+: here.modulePath task.module ∨
            (∃ item ∈ document.requirements, change <:+: item) ∨
            (∃ step ∈ task.steps, change <:+: step) ∨
            change <:+: here.taskFile ∨
            change <:+: task.module ++ "`\" to \"- [x] Validate `" ++ task.module))) ∧
      (there.projectRoot <+: here.projectRoot → ¬noticed) := by
  have hprompt : records[index]? =
      some (Record.ofPrompt (Prompt.render (document.promptContext here) task)) := by
    rw [hrecord, Document.records, List.getElem?_map, htask, Option.map_some]
  have hnoticed := exists_workingDirectory_iff there hprompt hsound
  refine ⟨hnoticed, fun hfeed => hnoticed.trans (not_congr ?_), fun houter hfound => ?_⟩
  · exact Prompt.cdCommand_infix_render_iff hfeed (document.promptContext here) task
  · -- The command of the setup goes on from the one that is looked for.
    obtain ⟨hcd, -⟩ := Prompt.command_infix_render (document.promptContext here) task
    exact hnoticed.mp hfound ((cdCommand_prefix_of_outer houter).isInfix.trans hcd)

/-! ## Records for other directories -/

/-- Nothing is found in records for a directory further inside, if they are examined for an
environment with the same activation. -/
theorem verifyRecords_eq_nil_of_outer {document : Document} {here there : Environment}
    (htasks : document.tasks ≠ []) (houter : there.projectRoot <+: here.projectRoot)
    (hactivate : there.activate = here.activate)
    (hclear : ∀ task ∈ document.tasks,
      ¬Text.StandsOn placeholderPath (Prompt.fields (document.promptContext here) task)) :
    verifyRecords there (document.records here) = [] := by
  have hne : (document.records here).map Record.toJson ≠ [] := by simpa [Document.records]
  rw [verifyRecords, Record.listToJson, verify_array_of_ne_nil there hne, examineFrom_eq_flatten,
    List.flatten_eq_nil_iff, List.forall_mem_map]
  intro record hrecord
  obtain ⟨compiled, hcompiled, hvalue⟩ := List.mem_map.mp (List.fst_mem_of_mem_zipIdx hrecord)
  obtain ⟨task, htask, rfl⟩ := List.mem_map.mp hcompiled
  obtain ⟨hcd, hactivation⟩ := Prompt.command_infix_render (document.promptContext here) task
  have hthere : there.cdCommand <:+: Prompt.render (document.promptContext here) task :=
    (cdCommand_prefix_of_outer houter).isInfix.trans hcd
  rw [← hvalue, examine_of_commands hthere (hactivate ▸ hactivation), if_neg]
  rw [Text.contains_iff_infix, Prompt.placeholder_render_iff]
  exact hclear task htask

open Compilation

/-- A setting with an unrelated directory. -/
def unrelatedEnvironment : Environment :=
  ⟨"/opt/app", Environment.defaultActivate, "/docs/011.md"⟩

/-- Against an unrelated directory the record of the loose sheet is noticed. -/
theorem workingDirectory_noticed_iff_unrelated :
    unrelatedEnvironment.projectRoot ≠ looseEnvironment.projectRoot ∧
      ∃ finding ∈ verifyRecords unrelatedEnvironment (looseDocument.records looseEnvironment),
        finding.record? = some 1 ∧ finding.isError = false ∧
          finding.message = "missing explicit working directory command" := by
  have htask : looseDocument.tasks[0]? = some ⟨"db.py", ["Connect"]⟩ := rfl
  have hclear : ∀ task ∈ looseDocument.tasks,
      ¬Text.StandsOn placeholderPath
        (Prompt.fields (looseDocument.promptContext looseEnvironment) task) := by
    decide +kernel
  have hsound := isError_eq_false_of_clear hclear unrelatedEnvironment
  obtain ⟨-, hfields, -⟩ := workingDirectory_noticed_iff htask rfl
    fun finding hfinding _ => hsound finding hfinding
  exact ⟨by decide +kernel, (hfields (by decide +kernel)).mpr (by decide +kernel)⟩

/-- A setting with the directory around that of the loose sheet. -/
def outerEnvironment : Environment := ⟨"/srv", Environment.defaultActivate, "/docs/011.md"⟩

/-- Against the directory around its own nothing is found in the record of the loose sheet. -/
theorem outerDirectory_unnoticed :
    Document.ofOutline (Outline.ofText looseSheet) = .ok looseDocument ∧
      (ofSheet looseEnvironment looseSheet).result =
        .ok (looseDocument.records looseEnvironment) ∧
      outerEnvironment.projectRoot ≠ looseEnvironment.projectRoot ∧
      verifyRecords outerEnvironment (looseDocument.records looseEnvironment) = [] := by
  refine ⟨by decide +kernel, result_looseSheet, by decide +kernel, ?_⟩
  exact verifyRecords_eq_nil_of_outer (by decide) (by decide +kernel) rfl (by decide +kernel)

end Schema

end TaskSheet
