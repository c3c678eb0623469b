import TaskSheet.Proofs.FieldLines
import TaskSheet.Proofs.OrderedEdits
import TaskSheet.Proofs.Pieces
import TaskSheet.Proofs.Titles
import TaskSheet.Proofs.WrittenSheets

/-!
# Decoding prompts

A prompt can be read back. Its lines up to the objective have fixed places, and its lines
behind the objective can be told apart from the end: numbered lines begin with a digit, the
lines before them do not, and what is left in the middle is the objective, whatever it looks
like. Hence two documents with the same records agree in everything that an agent is told.
-/

namespace TaskSheet

/-- In a list that ends with a run of elements with a property, the last element without
the property tells where the run begins. -/
theorem append_cons_inj_of_run {α : Type} {p : α → Bool} {a b s t : List α} {x y : α}
    (hx : p x = false) (hy : p y = false) (hs : ∀ c ∈ s, p c = true) (ht : ∀ c ∈ t, p c = true)
    (h : a ++ x :: s = b ++ y :: t) : a = b ∧ x = y ∧ s = t := by
  have hreverse : s.reverse ++ x :: a.reverse = t.reverse ++ y :: b.reverse := by
    simpa using congrArg List.reverse h
  have hs : ∀ c ∈ s.reverse, p c = true := by simpa using hs
  have ht : ∀ c ∈ t.reverse, p c = true := by simpa using ht
  have htake := congrArg (List.takeWhile p) hreverse
  have hdrop := congrArg (List.dropWhile p) hreverse
  rw [takeWhile_append_of_stop hs (by simpa using hx),
    takeWhile_append_of_stop ht (by simpa using hy)] at htake
  rw [dropWhile_append_of_stop hs (by simpa using hx),
    dropWhile_append_of_stop ht (by simpa using hy)] at hdrop
  obtain ⟨hxy, hab⟩ := List.cons.inj hdrop
  exact ⟨List.reverse_inj.mp hab, hxy, List.reverse_inj.mp htake⟩

namespace Text

/-- Whether a line begins with a digit. -/
def startsWithDigit (line : Text) : Bool := line.head?.any Char.isDigit

end Text

namespace Prompt

/-- The numbered lines of a prompt stay on their lines. -/
structure FitsLines (context : PromptContext) (task : Task) : Prop where
  /-- Every requirement stays on its line. -/
  requirements_no_feed : ∀ item ∈ context.requirements, '\n' ∉ item
  /-- The module stays on its lines. -/
  module_no_feed : '\n' ∉ task.module
  /-- Every step stays on its line. -/
  steps_no_feed : ∀ step ∈ task.steps, '\n' ∉ step

/-- Whether the numbered lines stay on their lines is decided by the three conditions. -/
instance (context : PromptContext) (task : Task) : Decidable (FitsLines context task) :=
  decidable_of_iff ((∀ item ∈ context.requirements, '\n' ∉ item) ∧ '\n' ∉ task.module ∧
      ∀ step ∈ task.steps, '\n' ∉ step)
    ⟨fun ⟨hitems, hmodule, hsteps⟩ => ⟨hitems, hmodule, hsteps⟩,
      fun h => ⟨h.requirements_no_feed, h.module_no_feed, h.steps_no_feed⟩⟩

/-- A numbered line is a number, a point, a space and the item. -/
theorem feed_not_mem_numberedFrom {first : Nat} {items : List Text}
    (h : ∀ item ∈ items, '\n' ∉ item) : ∀ line ∈ numberedFrom first items, '\n' ∉ line := by
  induction items generalizing first with
  | nil => simp [numberedFrom]
  | cons item items ih =>
    have hdigits : '\n' ∉ Text.ofNat first :=
      fun hmem => absurd (Text.isDigit_of_mem_ofNat hmem) (by decide)
    have hpoint : '\n' ∉ (". " : Text) := by decide
    intro line hline
    rcases List.mem_cons.mp hline with rfl | hline
    · exact List.not_mem_append (List.not_mem_append hdigits hpoint) (h item List.mem_cons_self)
    · exact ih (fun i hi => h i (List.mem_cons_of_mem _ hi)) line hline

/-- Numbered lines begin with a digit. -/
theorem startsWithDigit_of_mem_numbered {items : List Text} :
    ∀ line ∈ numbered items, Text.startsWithDigit line = true := by
  intro line hline
  obtain ⟨d, rest, rfl, hd⟩ := exists_digit_of_mem_numberedFrom hline
  exact hd

/-- Numbering loses nothing. -/
theorem numberedFrom_injective (first : Nat) : Function.Injective (numberedFrom first) := by
  intro items others h
  induction items generalizing first others with
  | nil => cases others with
    | nil => rfl
    | cons other others => simp [numberedFrom] at h
  | cons item items ih => cases others with
    | nil => simp [numberedFrom] at h
    | cons other others =>
      obtain ⟨hline, hlines⟩ := List.cons.inj h
      rw [List.append_cancel_left hline, ih (first + 1) hlines]

/-- The lines behind the steps, which depend on the module alone. -/
def closingLines (environment : Environment) (module : Text) : List Text :=
  [] :: instructionsSection module environment.taskFile ++ summarySection module

/-- The lines of a prompt, with what varies in them set apart. -/
theorem promptLines_eq (context : PromptContext) (task : Task) :
    promptLines context task =
      setupSection context.environment ++ typeLine ::
        idLine (taskId context.title) :: subtaskLine task.module :: [] :: "CONTEXT:" ::
          ("- " ++ context.objective) :: (policyLines context.environment task.module ++
            requirementsTitle :: (numbered context.requirements ++
              [] :: stepsTitle task.module :: (numbered task.steps ++
                closingLines context.environment task.module))) := by
  have hsteps : ∀ rest, stepsSection task ++ rest =
      [] :: stepsTitle task.module :: (numbered task.steps ++ [] :: rest) := fun rest =>
    congrArg ([] :: stepsTitle task.module :: ·) (List.append_assoc _ [[]] rest)
  rw [promptLines, List.append_assoc, List.append_assoc, hsteps, List.append_assoc,
    List.append_assoc, List.append_assoc]
  rfl

/-- The pieces of a prompt: only what the environment says, and the objective, may take
several lines. -/
theorem pieces_render {context : PromptContext} {task : Task} (h : FitsLines context task) :
    Text.pieces (render context task) =
      (setupSection context.environment ++ [typeLine]).flatMap Text.pieces ++
        idLine (taskId context.title) :: subtaskLine task.module ::
          (([[], "CONTEXT:"] ++ Text.pieces ("- " ++ context.objective) ++
              (policyLines context.environment task.module).flatMap Text.pieces ++
            requirementsTitle :: (numbered context.requirements ++ [[]]) ++
              stepsTitle task.module :: numbered task.steps) ++
                (closingLines context.environment task.module).flatMap Text.pieces) := by
  have hne : promptLines context task ≠ [] := by
    rw [promptLines_eq]
    simp
  have hid : '\n' ∉ idLine (taskId context.title) := by
    have hstart : '\n' ∉ idHeader ++ (" db-validation-" : Text) := by decide
    exact List.not_mem_append hstart (not_mem_taskId (by decide) (by decide) _)
  have hsubtask : '\n' ∉ subtaskLine task.module := by
    have hstart : '\n' ∉ subtaskHeader ++ (" Validate " : Text) := by decide
    exact List.not_mem_append hstart h.module_no_feed
  have hcontext : '\n' ∉ ("CONTEXT:" : Text) := by decide
  have hrequirements : '\n' ∉ requirementsTitle := by decide
  have hsteps : '\n' ∉ stepsTitle task.module := by
    have hstart : '\n' ∉ ("VALIDATION STEPS for " : Text) := by decide
    have hcolon : '\n' ∉ (":" : Text) := by decide
    exact List.not_mem_append (List.not_mem_append hstart h.module_no_feed) hcolon
  have hempty : Text.pieces [] = [[]] := rfl
  rw [render_eq_unlines, Text.pieces_unlines hne, promptLines_eq]
  simp only [List.flatMap_append, List.flatMap_cons, List.flatMap_nil, hempty,
    Text.pieces_of_not_mem hid, Text.pieces_of_not_mem hsubtask, Text.pieces_of_not_mem hcontext,
    Text.pieces_of_not_mem hrequirements, Text.pieces_of_not_mem hsteps,
    Text.flatMap_pieces (feed_not_mem_numberedFrom h.requirements_no_feed),
    Text.flatMap_pieces (feed_not_mem_numberedFrom h.steps_no_feed), numbered,
    List.append_assoc, List.cons_append, List.nil_append, List.append_nil]

/-- **Prompts are decodable.** A prompt for a given environment determines the identifier of
the task, the objective, the requirements, the module and the steps. -/
theorem eq_of_render_eq {context other : PromptContext} {task more : Task}
    (henvironment : context.environment = other.environment) (hfits : FitsLines context task)
    (hothers : FitsLines other more) (h : render context task = render other more) :
    taskId context.title = taskId other.title ∧ context.objective = other.objective ∧
      context.requirements = other.requirements ∧ task = more := by
  have hpieces := congrArg Text.pieces h
  rw [pieces_render hfits, pieces_render hothers, henvironment] at hpieces
  obtain ⟨hid, hrest⟩ := List.cons.inj (List.append_cancel_left hpieces)
  obtain ⟨hsubtask, hrest⟩ := List.cons.inj hrest
  have hmodule : task.module = more.module := List.append_cancel_left hsubtask
  rw [hmodule] at hrest
  -- From the end on, numbered lines are those that begin with a digit.
  have htitle : Text.startsWithDigit (stepsTitle more.module) = false := rfl
  have hrequirements : Text.startsWithDigit requirementsTitle = false := rfl
  obtain ⟨hbefore, -, hsteps⟩ := append_cons_inj_of_run htitle htitle
    startsWithDigit_of_mem_numbered startsWithDigit_of_mem_numbered
    (List.append_cancel_right hrest)
  simp only [← List.append_assoc, ← List.cons_append] at hbefore
  obtain ⟨hcontext, -, hitems⟩ := append_cons_inj_of_run hrequirements hrequirements
    startsWithDigit_of_mem_numbered startsWithDigit_of_mem_numbered
    (List.append_cancel_right hbefore)
  have hobjective := Text.pieces_injective
    (List.append_cancel_left (List.append_cancel_right hcontext))
  exact ⟨List.append_cancel_left hid, List.append_cancel_left hobjective,
    numberedFrom_injective 1 hitems,
    Task.mk.injEq .. ▸ ⟨hmodule, numberedFrom_injective 1 hsteps⟩⟩

/-- Prompts that differ only in the tasks determine all tasks, in order. -/
theorem tasks_eq_of_map_render_eq {context other : PromptContext} {tasks more : List Task}
    (henvironment : context.environment = other.environment)
    (hfits : ∀ task ∈ tasks, FitsLines context task) (hothers : ∀ task ∈ more, FitsLines other task)
    (h : tasks.map (render context) = more.map (render other)) : tasks = more := by
  induction tasks generalizing more with
  | nil => exact (List.map_eq_nil_iff.mp h.symm).symm
  | cons task tasks ih => cases more with
    | nil => simp at h
    | cons next more =>
      obtain ⟨hrender, hrest⟩ := List.cons.inj h
      obtain ⟨-, -, -, rfl⟩ := eq_of_render_eq henvironment (hfits task List.mem_cons_self)
        (hothers next List.mem_cons_self) hrender
      rw [ih (fun t ht => hfits t (List.mem_cons_of_mem _ ht))
        (fun t ht => hothers t (List.mem_cons_of_mem _ ht)) hrest]

/-- Of the title, a prompt shows the number only. -/
theorem render_with_title (context : PromptContext) {title : Text}
    (h : taskId title = taskId context.title) (task : Task) :
    render { context with title := title } task = render context task := by
  simp only [render, promptLines, h]
  rfl

end Prompt

/-- The records of a document carry its prompts. -/
theorem Document.map_render_of_records_eq {document other : Document} {environment : Environment}
    (h : document.records environment = other.records environment) :
    document.tasks.map (Prompt.render (document.promptContext environment)) =
      other.tasks.map (Prompt.render (other.promptContext environment)) := by
  have hcommands := congrArg (List.map (·.arguments.command)) h
  simpa only [Document.records, List.map_map, Function.comp_def, Record.ofPrompt] using hcommands

/-- The prompts of a complete outline stay on their lines. -/
theorem Outline.IsComplete.fitsLines {sheet objective : Text} {items : List Text}
    (h : (Outline.ofText sheet).IsComplete objective items) (environment : Environment) :
    ∀ task ∈ ((Outline.ofText sheet).document objective items).tasks,
      Prompt.FitsLines
        (((Outline.ofText sheet).document objective items).promptContext environment) task := by
  intro task htask
  obtain ⟨block, hblock, rfl⟩ := List.mem_map.mp htask
  exact ⟨fun item hitem => Outline.feed_not_mem_of_mem_items h.requirements_eq hitem,
    Outline.feed_not_mem_module hblock, fun step hstep => Outline.feed_not_mem_of_mem_steps hstep⟩

namespace Compilation

/-- A sheet that is compiled has a document, and the records are those of the document. -/
theorem exists_document_of_result_eq_ok {environment : Environment} {sheet : Text}
    {records : List Record} (h : (ofSheet environment sheet).result = .ok records) :
    ∃ document, Document.ofOutline (Outline.ofText sheet) = .ok document ∧
      document.records environment = records ∧ document.tasks ≠ [] ∧
      (∃ number, Title.findNumber? document.title = some number) ∧
      ∀ task ∈ document.tasks, Prompt.FitsLines (document.promptContext environment) task := by
  obtain ⟨objective, items, hcomplete, -, rfl⟩ := result_eq_ok_iff.mp h
  refine ⟨(Outline.ofText sheet).document objective items, hcomplete.ofOutline,
    Outline.records_document .., ?_, Title.exists_number_of_isTitle hcomplete.isTitle,
    hcomplete.fitsLines environment⟩
  exact fun hnil => hcomplete.blocks_ne_nil (List.map_eq_nil_iff.mp hnil)

/-- **Commands lose nothing.** A prompt for a given environment determines what it was
made from, as far as it stays on its lines. Hence two sheets that are compiled to the same
records have documents with the same number, objective, requirements and tasks. -/
theorem documents_agree_of_records_eq (environment : Environment) :
    (∀ {context other : PromptContext} {task more : Task},
      context.environment = environment → other.environment = environment →
      Prompt.FitsLines context task → Prompt.FitsLines other more →
      Prompt.render context task = Prompt.render other more →
        Prompt.taskId context.title = Prompt.taskId other.title ∧
          context.objective = other.objective ∧ context.requirements = other.requirements ∧
          task.module = more.module ∧ task.steps = more.steps) ∧
    ∀ {sheet other : Text} {records : List Record},
      (ofSheet environment sheet).result = .ok records →
      (ofSheet environment other).result = .ok records →
        ∃ document same, Document.ofOutline (Outline.ofText sheet) = .ok document ∧
          Document.ofOutline (Outline.ofText other) = .ok same ∧
          (∃ number, Title.findNumber? document.title = some number ∧
            Title.findNumber? same.title = some number) ∧
          document.objective = same.objective ∧ document.requirements = same.requirements ∧
          document.tasks = same.tasks := by
  refine ⟨fun hcontext hother hfits hothers h => ?_, fun hsheet hother => ?_⟩
  · obtain ⟨hid, hobjective, hitems, rfl⟩ :=
      Prompt.eq_of_render_eq (hcontext.trans hother.symm) hfits hothers h
    exact ⟨hid, hobjective, hitems, rfl, rfl⟩
  · obtain ⟨document, hdocument, hrecords, hne, ⟨number, hnumber⟩, hfits⟩ :=
      exists_document_of_result_eq_ok hsheet
    obtain ⟨same, hsame, hrecords', -, ⟨number', hnumber'⟩, hfits'⟩ :=
      exists_document_of_result_eq_ok hother
    have hprompts := Document.map_render_of_records_eq (hrecords.trans hrecords'.symm)
    have henvironment : (document.promptContext environment).environment =
        (same.promptContext environment).environment := rfl
    have htasks := Prompt.tasks_eq_of_map_render_eq henvironment hfits hfits' hprompts
    rw [← htasks] at hprompts hfits'
    obtain ⟨task, htask⟩ := List.exists_mem_of_ne_nil _ hne
    obtain ⟨hid, hobjective, hitems, -⟩ := Prompt.eq_of_render_eq henvironment (hfits task htask)
      (hfits' task htask) (List.map_inj_left.mp hprompts task htask)
    have hid : number = number' := by
      simpa [Prompt.taskId, Document.promptContext, hnumber, hnumber'] using hid
    exact ⟨document, same, hdocument, hsame, ⟨number, hnumber, hid ▸ hnumber'⟩, hobjective, hitems,
      htasks⟩

/-- The name behind the number of the title does not show in the records. -/
theorem result_of_retitled {environment : Environment} {sheet other title : Text}
    {records : List Record} (h : (ofSheet environment sheet).result = .ok records)
    (houtline : Outline.ofText other = { Outline.ofText sheet with title := title })
    (htitle : Title.isTitle title = true)
    (hid : Prompt.taskId title = Prompt.taskId (Outline.ofText sheet).title) :
    (ofSheet environment other).result = .ok records := by
  obtain ⟨objective, items, hcomplete, hnumbers, rfl⟩ := result_eq_ok_iff.mp h
  have hprompts : (Outline.ofText other).prompts objective items environment =
      (Outline.ofText sheet).prompts objective items environment := by
    rw [houtline, Outline.prompts, Outline.prompts]
    exact List.map_congr_left fun block _ => Prompt.render_with_title
      ⟨(Outline.ofText sheet).title, objective, items, environment⟩ hid _
  have hother : (Outline.ofText other).IsComplete objective items := by
    rw [houtline]
    exact { hcomplete with isTitle := htitle }
  exact result_eq_ok_iff.mpr ⟨objective, items, hother, hprompts ▸ hnumbers, by rw [hprompts]⟩

/-- The sheet with the loose entry under another name, and with a tight entry. -/
def retitledSheet : Text :=
  Text.terminated ("# Task 011: Databases" :: looseLines.tail.set 5 "- [ ] Validate `db.py`")

/-- Both sheets are compiled to the same records. -/
theorem result_retitledSheet :
    (ofSheet looseEnvironment retitledSheet).result = .ok [Record.ofPrompt loosePrompt] := by
  have houtline : Outline.ofText retitledSheet =
      { Outline.ofText looseSheet with title := "Task 011: Databases" } := by decide +kernel
  exact result_of_retitled result_looseSheet houtline (by decide +kernel) (by decide +kernel)

/-- A context whose objective looks like the parts of a prompt that follow it. -/
def imitatingContext (title : Text) : PromptContext :=
  ⟨title, "x\nREQUIREMENTS:\n1. y\n\nVALIDATION STEPS for m:\n1. z\n", ["y"], looseEnvironment⟩

/-- The imitation is told apart from the parts that it looks like, and the two sheets with
the same records have documents that agree. -/
theorem documents_agree_of_records_eq_retitled :
    (Prompt.render (imitatingContext "Task 7: a") ⟨"m", ["z"]⟩ =
        Prompt.render (imitatingContext "Part 2, Task 7: b") ⟨"m", ["z"]⟩ ∧
      Prompt.taskId "Task 7: a" = Prompt.taskId "Part 2, Task 7: b") ∧
    (ofSheet looseEnvironment looseSheet).result = .ok [Record.ofPrompt loosePrompt] ∧
    (ofSheet looseEnvironment retitledSheet).result = .ok [Record.ofPrompt loosePrompt] ∧
      ∃ document same, Document.ofOutline (Outline.ofText looseSheet) = .ok document ∧
        Document.ofOutline (Outline.ofText retitledSheet) = .ok same ∧
        (∃ number, Title.findNumber? document.title = some number ∧
          Title.findNumber? same.title = some number) ∧
        document.objective = same.objective ∧ document.requirements = same.requirements ∧
        document.tasks = same.tasks := by
  have hrender : Prompt.render (imitatingContext "Task 7: a") ⟨"m", ["z"]⟩ =
      Prompt.render (imitatingContext "Part 2, Task 7: b") ⟨"m", ["z"]⟩ :=
    Prompt.render_with_title (imitatingContext "Part 2, Task 7: b") (by decide +kernel) _
  have hagree := documents_agree_of_records_eq looseEnvironment
  exact ⟨⟨hrender, (hagree.1 rfl rfl (by decide +kernel) (by decide +kernel) hrender).1⟩,
    result_looseSheet, result_retitledSheet, hagree.2 result_looseSheet result_retitledSheet⟩

end Compilation

end TaskSheet
