import TaskSheet.Proofs.Lines
import TaskSheet.Proofs.OpenBoxes
import TaskSheet.Proofs.Openings
import TaskSheet.Proofs.Outcomes
import TaskSheet.Proofs.PromptLines
import Mathlib.Data.List.Forall2

/-!
# The edit that a prompt orders

A prompt tells the agent to replace the entry of its module by the ticked entry. The
entry is spelled there with one space behind the box. The reader of entries skips any
blank characters in that place, so it also accepts entries that are spelled otherwise,
and for these the edit cannot be made. This file proves which entries can be ticked as
ordered: those whose word follows the box at once, and those that repeat their own
spelling behind the quote.
-/

namespace TaskSheet

/-- The text before the first occurrence of an element is determined by the whole, and so
is the text behind it. -/
theorem append_cons_inj_of_not_mem {α : Type} [DecidableEq α] {c : α} {a b x y : List α}
    (ha : c ∉ a) (hb : c ∉ b) (h : a ++ c :: x = b ++ c :: y) : a = b ∧ x = y := by
  have hbefore : ∀ {l : List α}, c ∉ l → ∀ d ∈ l, (d != c) = true :=
    fun hl d hd => bne_iff_ne.mpr fun heq => hl (heq ▸ hd)
  have htake := congrArg (List.takeWhile (· != c)) h
  have hdrop := congrArg (List.dropWhile (· != c)) h
  rw [takeWhile_append_of_stop (hbefore ha) (by simp),
    takeWhile_append_of_stop (hbefore hb) (by simp)] at htake
  rw [dropWhile_append_of_stop (hbefore ha) (by simp),
    dropWhile_append_of_stop (hbefore hb) (by simp)] at hdrop
  exact ⟨htake, (List.cons.inj hdrop).2⟩

/-- Of a part that contains a mark, the first mark stands either on the first mark of the
text or behind it. -/
theorem infix_append_cons_iff {α : Type} [DecidableEq α] {c : α} {a b x y : List α}
    (ha : c ∉ a) (hb : c ∉ b) :
    a ++ c :: x <:+: b ++ c :: y ↔ (a <:+ b ∧ x <+: y) ∨ a ++ c :: x <:+: y := by
  constructor
  · rintro ⟨s, t, h⟩
    by_cases hs : c ∈ s
    · right
      obtain ⟨first, second, rfl, hfirst⟩ := List.eq_append_cons_of_mem hs
      have hsplit : first ++ c :: (second ++ (a ++ c :: x) ++ t) = b ++ c :: y := by
        simpa using h
      exact ⟨second, t, (append_cons_inj_of_not_mem hfirst hb hsplit).2⟩
    · left
      have hsplit : (s ++ a) ++ c :: (x ++ t) = b ++ c :: y := by simpa using h
      obtain ⟨hbefore, hafter⟩ := append_cons_inj_of_not_mem (by simp [hs, ha]) hb hsplit
      exact ⟨⟨s, hbefore⟩, ⟨t, hafter⟩⟩
  · rintro (⟨⟨s, rfl⟩, ⟨t, rfl⟩⟩ | h)
    · exact ⟨s, t, by simp⟩
    · exact h.trans ((List.suffix_cons c y).trans (List.suffix_append b _)).isInfix

/-- The word of an entry follows its box without further blanks. -/
def IsTight (line : Text) : Prop := openBox ++ entryStart <+: Text.trimStart line

/-- What stands behind the first backquote of a line. -/
def behindQuote (line : Text) : Text := (line.dropWhile (· != backquote)).drop 1

/-- The word with which the text of an entry begins. -/
def entryWord : Text := "Validate "

/-- Trimming takes the last space of the literal box away, with all blanks behind it. -/
theorem trimEnd_openBox {gap : Text} (hgap : Text.isAllBlank gap = true) (start : Text) :
    Text.trimEnd (start ++ openBox ++ gap) = start ++ ['-', ' ', '[', ' ', ']'] := by
  have hbox : openBox = ['-', ' ', '[', ' ', ']'] ++ [' '] := by decide
  have hvisible : Text.EndsVisible (start ++ ['-', ' ', '[', ' ', ']']) := by
    intro c hc
    rw [List.getLast?_append_of_ne_nil _ (by simp)] at hc
    exact (Option.some.inj hc) ▸ by decide
  rw [Text.trimEnd_append_of_blank hgap, hbox, ← List.append_assoc,
    Text.trimEnd_append_of_blank (by decide), hvisible.trimEnd]

/-- The literal box stands at the end of a text that holds it only if nothing follows. -/
theorem openBox_suffix_iff {blank gap : Text} (hgap : Text.isAllBlank gap = true) :
    openBox <:+ blank ++ openBox ++ gap ↔ gap = [] := by
  constructor
  · rintro ⟨start, h⟩
    -- Trimming leaves the same text before both boxes, so both have as much behind them.
    have htrim := congrArg Text.trimEnd h
    rw [← List.append_nil (start ++ openBox), trimEnd_openBox rfl, trimEnd_openBox hgap] at htrim
    have hlength := congrArg List.length h
    have hstart := congrArg List.length htrim
    simp only [List.length_append] at hlength hstart
    exact List.length_eq_zero_iff.mp (by omega)
  · rintro rfl
    rw [List.append_nil]
    exact List.suffix_append blank openBox

/-- A blank run before the word of an entry is what keeps the entry from being tight. -/
theorem entryStart_prefix_iff {gap rest : Text} (hgap : Text.isAllBlank gap = true) :
    entryStart <+: gap ++ (entryStart ++ rest) ↔ gap = [] := by
  constructor
  · intro h
    cases gap with
    | nil => rfl
    | cons c gap =>
      have hstart : entryStart = 'V' :: entryStart.tail := by decide
      rw [hstart, List.cons_append, List.cons_prefix_cons] at h
      have hblank := Text.isAllBlank_iff.mp hgap c List.mem_cons_self
      rw [← h.1] at hblank
      exact absurd hblank (by decide)
  · rintro rfl
    exact List.prefix_append entryStart rest

/-- An entry is tight exactly when there is no blank run between its box and its word. -/
theorem isTight_append {blank gap : Text} (hblank : Text.isAllBlank blank = true)
    (hgap : Text.isAllBlank gap = true) (rest : Text) :
    IsTight (blank ++ openBox ++ (gap ++ (entryStart ++ rest))) ↔ gap = [] := by
  rw [IsTight, List.append_assoc, Text.trimStart_append_of_blank hblank,
    (startsVisible_openBox_append _).trimStart, List.prefix_append_right_inj,
    entryStart_prefix_iff hgap]

/-- What stands behind the first backquote does not depend on what stands before it. -/
theorem behindQuote_append {before : Text} (h : backquote ∉ before) (rest : Text) :
    behindQuote (before ++ backquote :: rest) = rest := by
  have hbefore : ∀ c ∈ before, (c != backquote) = true :=
    fun c hc => bne_iff_ne.mpr fun heq => h (heq ▸ hc)
  rw [behindQuote, dropWhile_append_of_stop hbefore (by simp)]
  rfl

/-- An entry holds the spelling that prompts use exactly when its word follows the box at
once, or when that spelling is repeated behind the first quote. -/
theorem openEntry_infix_iff {line module : Text} (h : entryModule? line = some module) :
    Prompt.openEntry module <:+: line ↔
      IsTight line ∨ Prompt.openEntry module <:+: behindQuote line := by
  obtain ⟨blank, rest, tail, hblank, rfl, htrim, -, -⟩ := entryModule?_eq_some_iff.mp h
  obtain ⟨gap, after, hgap, -, hrest⟩ := Text.exists_trim rest
  have hrest : rest = gap ++ (entryStart ++ (module ++ [backquote] ++ (tail ++ after))) := by
    rw [hrest, htrim]
    simp
  have hstart : entryStart = entryWord ++ [backquote] := by decide
  have hquote : ∀ {text : Text}, Text.isAllBlank text = true → backquote ∉ text :=
    fun htext hmem => absurd (Text.isAllBlank_iff.mp htext _ hmem) (by decide)
  have hliteral : backquote ∉ openBox ++ entryWord := by decide
  have hbefore : backquote ∉ blank ++ openBox ++ gap ++ entryWord := by
    simp only [List.mem_append, not_or] at hliteral ⊢
    exact ⟨⟨⟨hquote hblank, hliteral.1⟩, hquote hgap⟩, hliteral.2⟩
  have hline : blank ++ openBox ++ rest =
      (blank ++ openBox ++ gap ++ entryWord) ++
        backquote :: (module ++ [backquote] ++ (tail ++ after)) := by
    rw [hrest, hstart]
    simp
  have hentry : Prompt.openEntry module =
      (openBox ++ entryWord) ++ backquote :: (module ++ [backquote]) := by
    rw [openEntry_eq, hstart]
    simp
  have htight : IsTight (blank ++ openBox ++ rest) ↔ gap = [] := by
    rw [hrest, isTight_append hblank hgap]
  rw [htight, hline, behindQuote_append hbefore, hentry, infix_append_cons_iff hliteral hbefore,
    List.suffix_append_self_iff, openBox_suffix_iff hgap]
  exact or_congr_left (and_iff_left (List.prefix_append _ _))

namespace Prompt

/-- Every prompt orders the edit. -/
theorem editLine_infix_render (context : PromptContext) (task : Task) :
    editLine task.module <:+: render context task := by
  have hinstruction : editLine task.module ∈
      instructionsSection task.module context.environment.taskFile :=
    List.mem_of_getElem? (i := 9) rfl
  have hline : editLine task.module ∈ promptLines context task :=
    List.mem_append_left _ (List.mem_append_right _ hinstruction)
  rw [render_eq_unlines]
  exact Text.infix_unlines_of_mem hline

end Prompt

namespace Compilation

/-- **The ordered edit.** The records of a sheet are made from its entries, one from each
and in order. Each orders to tick its entry, and the spelling that it names stands on the
line of that entry exactly when the word follows the box at once, or when the spelling is
repeated behind the first quote. -/
theorem openEntry_infix_line_iff {environment : Environment} {sheet : Text}
    {records : List Record} (h : (ofSheet environment sheet).result = .ok records) :
    ∃ objective items, (Outline.ofText sheet).objective = some objective ∧
      (Outline.ofText sheet).requirements = some ⟨items, true⟩ ∧
      List.Forall₂
        (fun opening record =>
          opening.StandsIn (Text.lines sheet) ∧ opening.line <:+: sheet ∧
            record = Record.ofPrompt (Prompt.render
              ⟨(Outline.ofText sheet).title, objective, items, environment⟩
              (Task.ofBlock opening.block)) ∧
            Prompt.editLine opening.module <:+: record.arguments.command ∧
            (Prompt.openEntry opening.module <:+: opening.line ↔
              IsTight opening.line ∨
                Prompt.openEntry opening.module <:+: behindQuote opening.line))
        (Outline.openings (Text.lines sheet)) records := by
  obtain ⟨objective, items, hcomplete, -, rfl⟩ := result_eq_ok_iff.mp h
  refine ⟨objective, items, hcomplete.objective_eq, hcomplete.requirements_eq, ?_⟩
  have hblocks : (Outline.ofText sheet).blocks =
      (Outline.openings (Text.lines sheet)).map Outline.Opening.block :=
    (Outline.map_block_openings (Text.lines sheet)).symm
  rw [Outline.prompts, hblocks, List.map_map, List.map_map, List.forall₂_map_right_iff,
    List.forall₂_same]
  intro opening hopening
  have hstands := Outline.standsIn_of_mem_openings hopening
  refine ⟨hstands, ?_, rfl, ?_, openEntry_infix_iff hstands.module_eq⟩
  · exact Text.infix_of_mem_lines (List.mem_of_getElem? hstands.line_eq)
  · exact Prompt.editLine_infix_render _ (Task.ofBlock opening.block)

/-- The sheet with the loose entry is compiled from one opening. -/
theorem openEntry_infix_line_iff_looseSheet :
    (ofSheet looseEnvironment looseSheet).result = .ok [Record.ofPrompt loosePrompt] ∧
      ∃ objective items, (Outline.ofText looseSheet).objective = some objective ∧
        (Outline.ofText looseSheet).requirements = some ⟨items, true⟩ ∧
        List.Forall₂
          (fun opening record =>
            opening.StandsIn (Text.lines looseSheet) ∧ opening.line <:+: looseSheet ∧
              record = Record.ofPrompt (Prompt.render
                ⟨(Outline.ofText looseSheet).title, objective, items, looseEnvironment⟩
                (Task.ofBlock opening.block)) ∧
              Prompt.editLine opening.module <:+: record.arguments.command ∧
              (Prompt.openEntry opening.module <:+: opening.line ↔
                IsTight opening.line ∨
                  Prompt.openEntry opening.module <:+: behindQuote opening.line))
          (Outline.openings (Text.lines looseSheet)) [Record.ofPrompt loosePrompt] :=
  ⟨result_looseSheet, openEntry_infix_line_iff result_looseSheet⟩

/-- The record of the loose entry orders to replace a spelling that does not occur in the
sheet. -/
theorem not_openEntry_infix_looseSheet :
    (ofSheet looseEnvironment looseSheet).result = .ok [Record.ofPrompt loosePrompt] ∧
      Prompt.editLine "db.py" <:+: loosePrompt ∧
      ¬Prompt.openEntry "db.py" <:+: looseSheet := by
  have hedit : Prompt.editLine "db.py" <:+: loosePrompt := by
    rw [loosePrompt]
    exact Prompt.editLine_infix_render _ ⟨"db.py", _⟩
  refine ⟨result_looseSheet, hedit, ?_⟩
  rw [← Text.contains_iff_infix]
  decide +kernel

end Compilation

end TaskSheet
