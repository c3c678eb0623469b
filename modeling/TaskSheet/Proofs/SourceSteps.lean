import TaskSheet.Proofs.Diagnoses
import TaskSheet.Proofs.Partitions

/-!
# Steps and the lines they stand on

The lines of a run are put together to the raw text of a block, and the steps are read from that
text in a second pass that cuts it again and demands less indentation. A carriage return at the end
of a line can get lost on the way, but neither a step nor its text: every visible line of the run
gives one step, the one that the search for blocks has seen there. So a block is without steps
exactly if its raw text is empty.
-/

namespace TaskSheet

namespace Text

/-- A carriage return before the line feed belongs to the ending. -/
theorem lines_append_return_feed {text : Text} (h : '\n' ∉ text) :
    lines (text ++ ['\r', '\n']) = [text] := by
  induction text with
  | nil => rfl
  | cons c text ih =>
    obtain ⟨hc, htext⟩ : c ≠ '\n' ∧ '\n' ∉ text := by simpa [eq_comm] using h
    have hpair : ¬(c = '\r' ∧ (text ++ ['\r', '\n']).head? = some '\n') := by
      rintro ⟨-, hhead⟩
      cases text with
      | nil => simp at hhead
      | cons d text => exact htext (by simpa using Or.inl (Option.some.inj hhead).symm)
    rw [List.cons_append, lines_cons_of_ne hc hpair, ih htext]
    rfl

/-- With a line feed behind it, a part of a line becomes a line again, but for a carriage return
at its end. -/
theorem exists_lines_append_feed {text : Text} (h : '\n' ∉ text) :
    ∃ line blank, lines (text ++ ['\n']) = [line] ∧ text = line ++ blank ∧
      isAllBlank blank = true := by
  by_cases hlast : text.getLast? = some '\r'
  · obtain ⟨line, rfl⟩ := List.getLast?_eq_some_iff.mp hlast
    have hline : '\n' ∉ line := fun hmem => h (List.mem_append_left _ hmem)
    refine ⟨line, ['\r'], ?_, rfl, by decide⟩
    rw [List.append_assoc]
    exact lines_append_return_feed hline
  · have hline : IsLine text := ⟨h, hlast⟩
    exact ⟨text, [], hline.lines, (List.append_nil text).symm, rfl⟩

end Text

/-- Lines that are put together and cut again have the steps that they had. -/
theorem stepTexts_unlines {parts : List Text} (h : ∀ part ∈ parts, '\n' ∉ part) :
    stepTexts (Text.unlines parts) = parts.filterMap (stepText? 1) := by
  rw [stepTexts]
  induction parts with
  | nil => rfl
  | cons part parts ih =>
    rw [List.forall_mem_cons] at h
    cases parts with
    | nil =>
      rw [Text.unlines_singleton]
      by_cases hempty : part = []
      · subst hempty
        rfl
      · rw [Text.lines_of_not_mem hempty h.1]
    | cons next parts =>
      obtain ⟨line, blank, hline, hpart, hblank⟩ := Text.exists_lines_append_feed h.1
      have hsame : stepText? 1 part = stepText? 1 line := by
        rw [hpart, stepText?_append_of_blank hblank]
      rw [Text.unlines_cons_cons, Text.lines_append_line_feed, hline, List.singleton_append,
        List.filterMap_cons, ih h.2, ← hsame, ← List.filterMap_cons]

/-- Where every visible line is a step, demanding less indentation gives no further one. -/
theorem map_some_filterMap_stepText? {least : Nat} {lines : List Text} (hleast : 1 ≤ least)
    (h : ∀ line ∈ lines, Text.isAllBlank line = false → (stepText? least line).isSome = true) :
    (lines.filterMap (stepText? 1)).map some =
      (lines.filter (!Text.isAllBlank ·)).map (stepText? least) := by
  induction lines with
  | nil => rfl
  | cons line lines ih =>
    rw [List.forall_mem_cons] at h
    cases hblank : Text.isAllBlank line with
    | true => simp [hblank, stepText?_of_isAllBlank hblank, ih h.2]
    | false =>
      obtain ⟨text, htext⟩ := Option.isSome_iff_exists.mp (h.1 hblank)
      simp [hblank, htext, stepText?_of_le hleast htext, ih h.2]

namespace Outline

namespace Span

/-- The lines of the stretch below the entry that are not blank. -/
def visible (span : Span) (lines : List Text) : List Text :=
  (span.below lines).filter (!Text.isAllBlank ·)

/-- The lines below an entry are lines of the sheet. -/
theorem below_subset (span : Span) (lines : List Text) : span.below lines ⊆ lines :=
  fun _ hline => List.mem_of_mem_take (List.mem_of_mem_drop hline)

namespace Gives

variable {span : Span} {block : Block}

/-- The steps of a block are those that the search has seen below its entry. -/
theorem map_some_steps {sheet : Text} (h : span.Gives (Text.lines sheet) block) :
    block.steps.map some =
      (span.visible (Text.lines sheet)).map (stepText? (span.leastIndent (Text.lines sheet))) := by
  have hleast : 1 ≤ span.leastIndent (Text.lines sheet) :=
    Nat.le_trans (by decide) (Nat.le_max_left _ _)
  have hfeed : ∀ line ∈ span.below (Text.lines sheet), '\n' ∉ line :=
    fun line hline => Text.not_mem_of_mem_lines (span.below_subset _ hline)
  rw [Block.steps, h.rawSteps_eq, stepTexts_unlines hfeed,
    map_some_filterMap_stepText? hleast h.isStep, visible]

/-- There is one step for each visible line. -/
theorem length_steps {sheet : Text} (h : span.Gives (Text.lines sheet) block) :
    block.steps.length = (span.visible (Text.lines sheet)).length := by
  simpa using congrArg List.length h.map_some_steps

/-- A block is without visible lines exactly if it is without lines. -/
theorem visible_eq_nil_iff {lines : List Text} (h : span.Gives lines block) :
    span.visible lines = [] ↔ block.rawSteps = [] := by
  rw [h.rawSteps_eq, Text.unlines_eq_nil_iff_of_visible h.visible_last, visible,
    List.filter_eq_nil_iff]
  constructor
  · intro hblank
    by_contra hne
    have hlast := List.getLast?_eq_some_getLast hne
    exact hblank _ (List.getLast_mem hne) (by simp [h.visible_last _ hlast])
  · intro hnil
    simp [hnil]

/-- A block is without steps exactly if its raw text is empty. -/
theorem steps_eq_nil_iff {sheet : Text} (h : span.Gives (Text.lines sheet) block) :
    block.steps = [] ↔ block.rawSteps = [] := by
  rw [← h.visible_eq_nil_iff, ← List.length_eq_zero_iff, h.length_steps, List.length_eq_zero_iff]

end Gives

end Span

/-- Each block of a sheet is without steps exactly if its raw text is empty. -/
theorem isEmpty_steps_of_mem_blocks {sheet : Text} {block : Block}
    (h : block ∈ (ofText sheet).blocks) : block.steps.isEmpty = block.rawSteps.isEmpty := by
  rw [ofText, ofLines, ← map_block_openings] at h
  obtain ⟨opening, hopening, rfl⟩ := List.mem_map.mp h
  rw [Bool.eq_iff_iff, List.isEmpty_iff, List.isEmpty_iff]
  exact (standsIn_of_mem_openings hopening).gives.steps_eq_nil_iff

/-- **No step is lost or gained between the two passes.** The steps of a block are, in order, the
texts that its visible lines have for the search, one for each of them. A sheet is reported for
blocks without steps exactly if it has some whose raw text is empty, and then by their modules. -/
theorem steps_match_source (sheet : Text) :
    ∃ spans, IsPartition (Text.lines sheet) spans (ofText sheet).blocks ∧
      List.Forall₂ (fun span block =>
          block.steps.map some = (span.visible (Text.lines sheet)).map
              (stepText? (span.leastIndent (Text.lines sheet))) ∧
            block.steps.length = (span.visible (Text.lines sheet)).length ∧
            (block.steps = [] ↔ block.rawSteps = []))
        spans (ofText sheet).blocks ∧
      ∀ modules, .stepless modules ∈ (ofText sheet).violations ↔
        modules ≠ [] ∧
          modules = ((ofText sheet).blocks.filter (·.rawSteps.isEmpty)).map (·.module) := by
  have hpartition := isPartition_openings (Text.lines sheet)
  refine ⟨_, hpartition, ?_, fun modules => ?_⟩
  · exact hpartition.gives.imp fun span block h =>
      ⟨h.map_some_steps, h.length_steps, h.steps_eq_nil_iff⟩
  · rw [mem_violations_iff, Shows, List.filter_congr fun _ => isEmpty_steps_of_mem_blocks]

end Outline

end TaskSheet
