import TaskSheet.Outline.Reading
import TaskSheet.Proofs.Lines
import TaskSheet.Proofs.StepRuns

/-!
# Sheets put together

Where a sheet is put behind another one whose last line is ended, the lines of both stay what
they were. Of the search for blocks only the run of steps below the last entry can reach over
the seam. If the second sheet does not begin with a step, not even behind blank lines, that run
ends at the seam, and the blocks of both sheets are found as if each stood alone.
-/

namespace TaskSheet

namespace Text

/-- A text every line of which is ended by a line feed. -/
def IsEnded (text : Text) : Prop := text = [] ∨ text.getLast? = some '\n'

/-- Whether the lines of a text are ended is decided by its last character. -/
instance (text : Text) : Decidable (IsEnded text) :=
  inferInstanceAs (Decidable (text = [] ∨ text.getLast? = some '\n'))

/-- Behind ended lines a text is cut as if it stood alone. -/
theorem IsEnded.lines_append {text : Text} (h : IsEnded text) (rest : Text) :
    Text.lines (text ++ rest) = Text.lines text ++ Text.lines rest := by
  rcases h with rfl | hlast
  · rfl
  · obtain ⟨start, rfl⟩ := List.getLast?_eq_some_iff.mp hlast
    rw [List.append_assoc, List.singleton_append, lines_append_line_feed]

/-- Texts with ended lines are cut one by one. -/
theorem lines_flatten {texts : List Text} (h : ∀ text ∈ texts, IsEnded text) :
    lines texts.flatten = (texts.map lines).flatten := by
  induction texts with
  | nil => rfl
  | cons text texts ih =>
    rw [List.flatten_cons, (h text List.mem_cons_self).lines_append,
      ih fun t ht => h t (List.mem_cons_of_mem _ ht), List.map_cons, List.flatten_cons]

end Text

namespace Outline

/-- Where no run starts at some indentation, none starts at a deeper one. -/
theorem stepRun_eq_nil_of_le {least more : Nat} (hle : least ≤ more) {lines : List Text}
    (h : stepRun least lines = []) : stepRun more lines = [] := by
  induction lines with
  | nil => rfl
  | cons line lines ih =>
    obtain ⟨hstep, hblank⟩ := stepRun_cons_eq_nil_iff.mp h
    exact stepRun_cons_eq_nil_iff.mpr
      ⟨stepText?_eq_none_of_le hle hstep, fun hline => ih (hblank hline)⟩

/-- A run ends at the latest where no further run starts. -/
theorem stepRun_append_of_eq_nil {least : Nat} {rest : List Text} (h : stepRun least rest = [])
    (lines : List Text) : stepRun least (lines ++ rest) = stepRun least lines := by
  induction lines with
  | nil => exact h
  | cons line lines ih => rw [List.cons_append, stepRun, stepRun, ih]

/-- Blocks are found on either side of a seam as if nothing stood on the other side, unless a
run of steps starts behind it. -/
theorem findBlocks_append_of_eq_nil {rest : List Text} (h : stepRun leastStepIndent rest = [])
    (lines : List Text) : findBlocks (lines ++ rest) = findBlocks lines ++ findBlocks rest := by
  fun_induction findBlocks lines with
  | case1 => rfl
  | case2 line lines hentry ih => rw [List.cons_append, findBlocks.eq_2, hentry, ih]
  | case3 line lines module hentry run ih =>
    have hdeeper : stepRun (stepIndent line) rest = [] :=
      stepRun_eq_nil_of_le (Nat.le_max_left _ _) h
    have hrun : run <+: lines := stepRun_prefix (stepIndent line) lines
    rw [List.cons_append, findBlocks.eq_2, hentry]
    simp only [stepRun_append_of_eq_nil hdeeper]
    rw [List.drop_append_of_le_length hrun.length_le, ih, List.cons_append]

/-- No run starts in sheets put together, if none starts in any of them. -/
theorem stepRun_flatten_eq_nil {least : Nat} {sheets : List (List Text)}
    (h : ∀ sheet ∈ sheets, stepRun least sheet = []) : stepRun least sheets.flatten = [] := by
  induction sheets with
  | nil => rfl
  | cons sheet sheets ih =>
    have hrest := ih fun s hs => h s (List.mem_cons_of_mem _ hs)
    rw [List.flatten_cons, stepRun_append_of_eq_nil hrest, h sheet List.mem_cons_self]

/-- The blocks of sheets none of which begins with steps are found one by one. -/
theorem findBlocks_flatten {sheets : List (List Text)}
    (h : ∀ sheet ∈ sheets, stepRun leastStepIndent sheet = []) :
    findBlocks sheets.flatten = sheets.flatMap findBlocks := by
  induction sheets with
  | nil => simp [findBlocks]
  | cons sheet sheets ih =>
    have hothers : ∀ s ∈ sheets, stepRun leastStepIndent s = [] :=
      fun s hs => h s (List.mem_cons_of_mem _ hs)
    rw [List.flatten_cons, findBlocks_append_of_eq_nil (stepRun_flatten_eq_nil hothers),
      ih hothers, List.flatMap_cons]

/-- A sheet of one entry, to which steps at the start of another sheet would belong. -/
def openSheet : Text := Text.terminated [Prompt.openEntry ['m']]

/-- The steps at the start of another sheet do belong to that entry. -/
theorem exists_blocks_openSheet_append (sheet : Text) :
    ∃ blocks, (ofText (openSheet ++ sheet)).blocks =
      ⟨['m'], Text.unlines (stepRun leastStepIndent (Text.lines sheet))⟩ :: blocks := by
  have hended : Text.IsEnded openSheet := by decide
  have hlines : Text.lines openSheet = [Prompt.openEntry ['m']] := by decide
  have hentry : entryModule? (Prompt.openEntry ['m']) = some ['m'] := by decide
  have hindent : stepIndent (Prompt.openEntry ['m']) = leastStepIndent := by decide
  obtain ⟨rest, hrest⟩ := stepRun_prefix leastStepIndent (Text.lines sheet)
  refine ⟨findBlocks rest, ?_⟩
  rw [ofText, hended.lines_append, hlines, List.singleton_append]
  exact findBlocks_entry hentry (by rw [hindent]) hrest.symm

/-- **Blocks on either side of a seam.** A sheet can be put behind any other one with ended lines
without a change of the blocks of either, exactly if it does not begin with a step, not even
behind blank lines. -/
theorem blocks_append_iff {sheet : Text} :
    (∀ before, Text.IsEnded before →
        (ofText (before ++ sheet)).blocks = (ofText before).blocks ++ (ofText sheet).blocks) ↔
      ∀ line, firstVisible? (Text.lines sheet) = some line → stepText? 3 line = none := by
  rw [← stepRun_eq_nil_iff]
  constructor
  · intro h
    obtain ⟨rest, happend⟩ := exists_blocks_openSheet_append sheet
    obtain ⟨_, halone⟩ := exists_blocks_openSheet_append []
    rw [List.append_nil] at halone
    rw [h openSheet (by decide), halone, List.cons_append] at happend
    -- Alone the entry has no steps, so that none may be found behind the seam.
    have hraw := congrArg Block.rawSteps (List.cons.inj happend).1
    exact (Text.unlines_eq_nil_iff_of_visible fun line hline =>
      visible_of_getLast?_stepRun hline).mp hraw.symm
  · intro h before hbefore
    rw [ofText, ofLines, hbefore.lines_append]
    exact findBlocks_append_of_eq_nil h _

end Outline

end TaskSheet
