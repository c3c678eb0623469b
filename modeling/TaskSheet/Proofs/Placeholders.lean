import TaskSheet.Proofs.AssembledRecords
import TaskSheet.Proofs.PromptOccurrences

/-!
# Placeholders in prompts

The placeholder of a path begins and ends with a slash and holds neither a space nor a line
feed. The fixed parts of a prompt have no share in it, and fields are set apart from each other
by spaces and line feeds. So where the placeholder stands in a prompt, it stands in one of the
fields; only the path of a module is put together from two parts without anything between them.
-/

namespace TaskSheet

namespace Schema

/-- The placeholder begins with a slash. -/
theorem placeholderPath_eq_cons : placeholderPath = '/' :: ("path/to/" : Text) := by decide

/-- The fixed texts of a prompt have no share in the placeholder. -/
theorem isForeign_placeholderPath : Prompt.IsForeign placeholderPath where
  getLast?_eq := by decide
  feed_not_mem := by decide
  misses_fixed := by decide +kernel
  misses_number n := by
    have hdigits : '/' ∉ Text.ofNat n :=
      fun hmem => absurd (Text.isDigit_of_mem_ofNat hmem) (by decide)
    have hpoint : '/' ∉ (". " : Text) := by decide
    rw [placeholderPath_eq_cons]
    exact Text.misses_of_not_mem (List.not_mem_append hdigits hpoint)

/-- A text without slashes between two others keeps them apart if it holds a space. -/
theorem placeholder_gap_iff {first gap second : Text} (hspace : ' ' ∈ gap) (hplain : '/' ∉ gap) :
    placeholderPath <:+: first ++ gap ++ second ↔
      placeholderPath <:+: first ∨ placeholderPath <:+: second := by
  obtain ⟨before, after, rfl⟩ := List.append_of_mem hspace
  have hforeign : ' ' ∉ placeholderPath := by decide
  obtain ⟨hbefore, -, hafter⟩ : '/' ∉ before ∧ '/' ≠ ' ' ∧ '/' ∉ after := by simpa using hplain
  have hmiss : Text.Misses placeholderPath after := by
    rw [placeholderPath_eq_cons]
    exact Text.misses_of_not_mem hafter
  have hshape : first ++ (before ++ ' ' :: after) ++ second =
      (first ++ before) ++ ' ' :: (after ++ second) := by simp
  rw [hshape, Text.infix_append_cons_iff isForeign_placeholderPath.ne_nil hforeign,
    Text.infix_append_iff_of_getLast? isForeign_placeholderPath.getLast?_eq hbefore,
    Text.infix_append_iff_of_misses hmiss]

/-- Slashes at the start of a text can be replaced by a single one. -/
theorem placeholder_slash_cons {text : Text} (h : placeholderPath <:+: text) :
    placeholderPath <:+: '/' :: text.dropWhile (· == '/') := by
  induction text with
  | nil => exact absurd h (by decide)
  | cons c text ih =>
    by_cases hc : c = '/'
    · subst hc
      rw [List.dropWhile_cons_of_pos (by simp)]
      rcases List.infix_cons_iff.mp h with hstarts | hfound
      · -- Behind its own slash the placeholder goes on with a letter, which is not dropped.
        rw [placeholderPath_eq_cons, List.cons_prefix_cons] at hstarts
        obtain ⟨rest, rfl⟩ := hstarts.2
        exact ⟨[], rest, rfl⟩
      · exact ih hfound
    · rw [List.dropWhile_cons_of_neg (by simpa using hc)]
      exact h.trans (List.suffix_cons _ _).isInfix

/-- What stands in the project directory stands in the path of every module. -/
theorem placeholder_modulePath_of_root {environment : Environment} {module : Text}
    (h : placeholderPath <:+: environment.projectRoot) :
    placeholderPath <:+: environment.modulePath module :=
  h.trans (List.prefix_append _ _).isInfix

/-- If the placeholder stands in a module, it stands in its path, whatever slashes are dropped
where the two parts of the path meet. -/
theorem placeholder_modulePath_of_module {environment : Environment} {module : Text}
    (h : placeholderPath <:+: module) : placeholderPath <:+: environment.modulePath module := by
  rw [Environment.modulePath, Environment.projectRoot, List.append_assoc]
  exact (placeholder_slash_cons h).trans (List.suffix_append _ _).isInfix

end Schema

namespace Prompt

open Schema

/-- The setup holds the placeholder if the environment does. -/
theorem placeholder_setupLine_iff (environment : Environment) :
    placeholderPath <:+: setupLine environment ↔
      placeholderPath <:+: environment.projectRoot ∨ placeholderPath <:+: environment.activate := by
  have hcd : Text.Misses placeholderPath "cd " := by decide +kernel
  have hspace : ' ' ∈ (" && " : Text) := by decide
  have hplain : '/' ∉ (" && " : Text) := by decide
  exact (placeholder_gap_iff hspace hplain).trans
    (or_congr_left (Text.infix_append_iff_of_misses hcd))

/-- Between the mentions of a module there is no placeholder unless there is one in the module. -/
theorem placeholder_entrySpan_iff (module : Text) :
    placeholderPath <:+: entrySpan module ↔ placeholderPath <:+: module := by
  have hspace : ' ' ∈ ("`\" to \"- [x] Validate `" : Text) := by decide
  have hplain : '/' ∉ ("`\" to \"- [x] Validate `" : Text) := by decide
  exact (placeholder_gap_iff hspace hplain).trans or_self_iff

/-- The texts that are filled into a prompt. The module itself is left out, since it is a part
of its path. -/
def fields (context : PromptContext) (task : Task) : List Text :=
  context.environment.activate :: context.environment.taskFile :: context.objective ::
    context.environment.modulePath task.module :: (context.requirements ++ task.steps)

/-- **Where a prompt holds the placeholder.** It does exactly if one of its fields does. -/
theorem placeholder_render_iff (context : PromptContext) (task : Task) :
    placeholderPath <:+: render context task ↔
      Text.StandsOn placeholderPath (fields context task) := by
  have hroot : placeholderPath <:+: context.environment.projectRoot →
      placeholderPath <:+: context.environment.modulePath task.module :=
    placeholder_modulePath_of_root
  have hmodule : placeholderPath <:+: task.module →
      placeholderPath <:+: context.environment.modulePath task.module :=
    placeholder_modulePath_of_module
  have hlines : placeholderPath <:+: render context task ↔
      (placeholderPath <:+: context.environment.projectRoot ∨
          placeholderPath <:+: context.environment.activate) ∨
        placeholderPath <:+: context.objective ∨
        placeholderPath <:+: context.environment.modulePath task.module ∨
        Text.StandsOn placeholderPath context.requirements ∨
        Text.StandsOn placeholderPath task.steps ∨
        placeholderPath <:+: context.environment.taskFile ∨ placeholderPath <:+: task.module := by
    rw [isForeign_placeholderPath.infix_render_iff, placeholder_setupLine_iff,
      placeholder_entrySpan_iff]
  rw [hlines, fields, Text.standsOn_cons, Text.standsOn_cons, Text.standsOn_cons,
    Text.standsOn_cons, Text.standsOn_append]
  grind

/-- The lines of a section are lines of the prompt. -/
theorem mem_promptLines {context : PromptContext} {task : Task} {line : Text}
    (h : line ∈ headerSection (taskId context.title) task.module) :
    line ∈ promptLines context task := by
  simp only [promptLines, List.mem_append, h, true_or, or_true]

/-- A prompt holds the commands of its environment. -/
theorem command_infix_render (context : PromptContext) (task : Task) :
    context.environment.cdCommand <:+: render context task ∧
      context.environment.activate <:+: render context task := by
  obtain ⟨rest, hlines⟩ := exists_promptLines_cons context task
  have hline : setupLine context.environment <:+: render context task := by
    rw [render_eq_unlines, hlines]
    exact Text.infix_unlines_of_mem List.mem_cons_self
  rw [setupLine] at hline
  refine ⟨List.IsInfix.trans ?_ hline, List.IsInfix.trans (List.suffix_append _ _).isInfix hline⟩
  rw [List.append_assoc]
  exact (List.prefix_append _ _).isInfix

/-- A prompt holds the marks by which the agent recognises a task. -/
theorem header_infix_render (context : PromptContext) (task : Task) :
    ∀ mark ∈ headers, mark <:+: render context task := by
  have hlines : ∀ mark ∈ headers,
      ∃ line ∈ headerSection (taskId context.title) task.module, mark <+: line := by
    simp only [headers, headerSection, List.forall_mem_cons]
    refine ⟨⟨_, List.mem_cons_self, List.prefix_append _ _⟩, ?_, ?_, by simp⟩
    · exact ⟨_, List.mem_cons_of_mem _ List.mem_cons_self, _, (List.append_assoc _ _ _).symm⟩
    · exact ⟨_, List.mem_cons_of_mem _ (List.mem_cons_of_mem _ List.mem_cons_self), _,
        (List.append_assoc _ _ _).symm⟩
  intro mark hmark
  obtain ⟨line, hline, hstarts⟩ := hlines mark hmark
  rw [render_eq_unlines]
  exact hstarts.isInfix.trans (Text.infix_unlines_of_mem (mem_promptLines hline))

end Prompt

namespace Schema

/-- A record that was made from a prompt has no gaps for an environment whose commands stand in
the prompt. -/
theorem gaps_eq_nil_of_commands {environment : Environment} {context : PromptContext} {task : Task}
    (hcd : environment.cdCommand <:+: Prompt.render context task)
    (hactivate : environment.activate <:+: Prompt.render context task) :
    gaps environment (Prompt.render context task)
      (promptArguments (Prompt.render context task)) = [] := by
  have hheaders : Prompt.headers.filter
      (fun mark => !Text.contains mark (Prompt.render context task)) = [] := by
    refine List.filter_eq_nil_iff.mpr fun mark hmark => ?_
    simp [Text.contains_iff_infix.mpr (Prompt.header_infix_render context task mark hmark)]
  have htimeout : ((promptArguments (Prompt.render context task)).lookup
      Record.timeoutKey).isSome = true := by
    have hcommand : (Record.timeoutKey == Record.commandKey) = false := by decide
    have hpermission : (Record.timeoutKey == Record.skipPermissionsKey) = false := by decide
    rw [promptArguments, List.lookup_cons, hcommand, List.lookup_cons, hpermission,
      List.lookup_cons_self]
    rfl
  rw [gaps, if_pos (Text.contains_iff_infix.mpr hcd),
    if_pos (Text.contains_iff_infix.mpr hactivate), hheaders, if_pos htimeout]
  rfl

/-- In such a record nothing is found but the placeholder. -/
theorem examine_of_commands {environment : Environment} {context : PromptContext} {task : Task}
    (hcd : environment.cdCommand <:+: Prompt.render context task)
    (hactivate : environment.activate <:+: Prompt.render context task) (number : Nat) :
    examine environment number (Record.ofPrompt (Prompt.render context task)).toJson =
      if Text.contains placeholderPath (Prompt.render context task) then
        [.fault number .placeholder]
      else [] := by
  rw [examine, inspect_ofPrompt]
  by_cases h : Text.contains placeholderPath (Prompt.render context task) = true
  · simp only [if_pos h]
  · simp only [if_neg h, gaps_eq_nil_of_commands hcd hactivate, List.map_nil]

/-- So it is in a record for the environment of its prompt. -/
theorem examine_render (context : PromptContext) (number : Nat) (task : Task) :
    examine context.environment number (Record.ofPrompt (Prompt.render context task)).toJson =
      if Text.contains placeholderPath (Prompt.render context task) then
        [.fault number .placeholder]
      else [] :=
  examine_of_commands (Prompt.command_infix_render context task).1
    (Prompt.command_infix_render context task).2 number

/-- **Prompts and the examination of records agree.** A record that was made from a prompt
lacks nothing for the environment of the prompt. It has an error exactly if the placeholder
stands in the activation command, the path of the sheet, the objective, the path of the module,
a requirement or a step. -/
theorem verifyRecords_render (context : PromptContext) (task : Task) :
    let findings :=
      verifyRecords context.environment [Record.ofPrompt (Prompt.render context task)]
    (∀ finding ∈ findings, finding.isError = true) ∧
      ((∃ finding ∈ findings, finding.isError = true) ↔
        "/path/to/" <:+: context.environment.activate ∨
          "/path/to/" <:+: context.environment.taskFile ∨
          "/path/to/" <:+: context.objective ∨
          "/path/to/" <:+: context.environment.modulePath task.module ∨
          (∃ item ∈ context.requirements, "/path/to/" <:+: item) ∨
          ∃ step ∈ task.steps, "/path/to/" <:+: step) := by
  have hfindings : verifyRecords context.environment
      [Record.ofPrompt (Prompt.render context task)] =
        if Text.contains placeholderPath (Prompt.render context task) then
          [.fault 1 .placeholder]
        else [] := by
    rw [← examine_render, ← List.append_nil (examine _ _ _)]
    rfl
  have hplaceholder := Prompt.placeholder_render_iff context task
  rw [← Text.contains_iff_infix, Prompt.fields, Text.standsOn_cons, Text.standsOn_cons,
    Text.standsOn_cons, Text.standsOn_cons, Text.standsOn_append] at hplaceholder
  dsimp only
  rw [hfindings]
  by_cases h : Text.contains placeholderPath (Prompt.render context task) = true
  · rw [if_pos h]
    exact ⟨by simp [Finding.isError],
      iff_of_true ⟨_, List.mem_singleton_self _, rfl⟩ (hplaceholder.mp h)⟩
  · rw [if_neg h]
    exact ⟨by simp, iff_of_false (by simp) fun hfield => h (hplaceholder.mpr hfield)⟩

end Schema

end TaskSheet
