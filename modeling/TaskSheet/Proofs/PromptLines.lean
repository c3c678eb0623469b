import TaskSheet.Prompt
import TaskSheet.Proofs.Blanks
import TaskSheet.Proofs.Titles

/-!
# The lines of a prompt

A prompt begins with a command and ends with a sentence, whatever the document holds. So
trimming takes away no more than the line feed behind the last line, and every line of a
prompt stands in it as it was written.
-/

namespace TaskSheet

namespace Text

/-- Lines that are put together begin with the first one. -/
theorem prefix_unlines (part : Text) (parts : List Text) : part <+: unlines (part :: parts) := by
  cases parts with
  | nil => simp [unlines_singleton]
  | cons next parts =>
    rw [unlines_cons_cons]
    exact List.prefix_append _ _

/-- Lines that are put together end with the last of them, put together. -/
theorem unlines_suffix (before : List Text) {parts : List Text} (hne : parts ≠ []) :
    unlines parts <:+ unlines (before ++ parts) := by
  induction before with
  | nil => exact List.suffix_rfl
  | cons first before ih =>
    obtain ⟨next, rest, hcons⟩ :=
      List.exists_cons_of_ne_nil (List.append_ne_nil_of_right_ne_nil before hne)
    rw [List.cons_append, hcons, unlines_cons_cons, ← hcons]
    exact ih.trans ((List.suffix_cons _ _).trans (List.suffix_append _ _))

/-- Lines that are put together end with the last one. -/
theorem suffix_unlines (parts : List Text) (part : Text) : part <:+ unlines (parts ++ [part]) := by
  have hlast := unlines_suffix parts (List.cons_ne_nil part [])
  rwa [unlines_singleton] at hlast

/-- Every one of the lines that are put together stands in the result. -/
theorem infix_unlines_of_mem {part : Text} {parts : List Text} (h : part ∈ parts) :
    part <:+: unlines parts := by
  obtain ⟨before, rest, rfl⟩ := List.append_of_mem h
  exact (prefix_unlines part rest).isInfix.trans
    (unlines_suffix before (List.cons_ne_nil part rest)).isInfix

/-- Terminated lines are lines with line feeds between them, and one more behind them. -/
theorem terminated_eq_unlines {parts : List Text} (hne : parts ≠ []) :
    terminated parts = unlines parts ++ ['\n'] := by
  induction parts with
  | nil => contradiction
  | cons part parts ih =>
    cases parts with
    | nil => rw [terminated, List.flatMap_singleton, unlines_singleton]
    | cons next parts =>
      rw [terminated, List.flatMap_cons, ← terminated, ih (List.cons_ne_nil _ _),
        unlines_cons_cons, List.append_assoc, List.append_assoc, List.singleton_append,
        List.cons_append]

end Text

/-- The directory to which an agent changes holds a line feed only if that of the environment
does. -/
theorem Environment.feed_not_mem_cdCommand {environment : Environment}
    (h : '\n' ∉ environment.projectDir) : '\n' ∉ environment.cdCommand := by
  have hcd : '\n' ∉ ("cd " : Text) := by decide
  have hdirectory : '\n' ∉ (environment.projectDir.reverse.dropWhile (· == '/')).reverse := by
    intro hmem
    have hmem := (List.dropWhile_suffix _).subset (List.mem_reverse.mp hmem)
    exact h (List.mem_reverse.mp hmem)
  exact List.not_mem_append hcd (List.not_mem_append hdirectory (by decide))

namespace Prompt

/-- An identifier is a number or a word that stands for one. -/
theorem not_mem_taskId {c : Char} (hdigit : c.isDigit = false) (hword : c ∉ unknownId)
    (title : Text) : c ∉ taskId title := by
  rw [taskId]
  cases hnumber : Title.findNumber? title with
  | none => exact hword
  | some number =>
    intro hmem
    have hmem := Title.isDigit_of_findNumber? hnumber c hmem
    rw [hdigit] at hmem
    contradiction

/-- These commands stand at the beginning of a prompt. -/
theorem exists_promptLines_cons (context : PromptContext) (task : Task) :
    ∃ rest, promptLines context task = setupLine context.environment :: rest :=
  ⟨_, rfl⟩

/-- The sentence with which a prompt ends. -/
theorem exists_promptLines_append (context : PromptContext) (task : Task) :
    ∃ before, promptLines context task = before ++ [beginLine task.module] := by
  have hsummary : summarySection task.module =
      (summarySection task.module).dropLast ++ [beginLine task.module] := rfl
  rw [promptLines, hsummary, ← List.append_assoc]
  exact ⟨_, rfl⟩

/-- Of the instructions only the ninth and the tenth line depend on anything. -/
theorem instructionsSection_eq (module taskFile : Text) :
    instructionsSection module taskFile =
      (instructionsSection [] []).take 8 ++ taskFileLine taskFile :: editLine module ::
        (instructionsSection [] []).drop 10 := rfl

/-- The first character of a prompt is that of its first command. -/
theorem exists_unlines_cons (context : PromptContext) (task : Task) :
    ∃ rest, Text.unlines (promptLines context task) = 'c' :: rest := by
  obtain ⟨lines, hlines⟩ := exists_promptLines_cons context task
  have hcd : ("cd " : Text) = 'c' :: ['d', ' '] := by decide
  obtain ⟨rest, hrest⟩ := Text.prefix_unlines (setupLine context.environment) lines
  rw [hlines, ← hrest, setupLine, Environment.cdCommand, hcd]
  exact ⟨_, rfl⟩

/-- The last character of a prompt is that of its last sentence. -/
theorem exists_unlines_append (context : PromptContext) (task : Task) :
    ∃ start, Text.unlines (promptLines context task) = start ++ ['.'] := by
  obtain ⟨lines, hlines⟩ := exists_promptLines_append context task
  have hnow : (" now." : Text) = [' ', 'n', 'o', 'w'] ++ ['.'] := by decide
  have hbegin : beginLine task.module =
      ("Begin validation of " : Text) ++ task.module ++ (" now." : Text) := rfl
  obtain ⟨start, hstart⟩ := Text.suffix_unlines lines (beginLine task.module)
  rw [hlines, ← hstart, hbegin, hnow, ← List.append_assoc, ← List.append_assoc]
  exact ⟨_, rfl⟩

/-- A prompt is its lines, with line feeds between them. -/
theorem render_eq_unlines (context : PromptContext) (task : Task) :
    render context task = Text.unlines (promptLines context task) := by
  obtain ⟨rest, hrest⟩ := exists_unlines_cons context task
  obtain ⟨start, hstart⟩ := exists_unlines_append context task
  have hne : promptLines context task ≠ [] := by
    obtain ⟨lines, hlines⟩ := exists_promptLines_cons context task
    rw [hlines]
    exact List.cons_ne_nil _ _
  have hbegin : Text.trimStart (Text.unlines (promptLines context task) ++ ['\n']) =
      Text.unlines (promptLines context task) ++ ['\n'] := by
    rw [hrest]
    exact (Text.startsVisible_cons.mpr (by decide)).trimStart
  have hend : Text.trimEnd (Text.unlines (promptLines context task)) =
      Text.unlines (promptLines context task) := by
    rw [hstart]
    exact Text.EndsVisible.trimEnd (by simp [Text.EndsVisible]; decide)
  rw [render, Text.terminated_eq_unlines hne, Text.trim, hbegin,
    Text.trimEnd_append_of_blank (by decide), hend]

end Prompt

end TaskSheet
