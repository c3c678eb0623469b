import TaskSheet.Outline.Blocks
import TaskSheet.Proofs.OpenBoxes

/-!
# Where blocks open

A block keeps the module and the steps of an entry, but not the line on which the entry
stands. The scan of this file goes along the same lines and keeps that line and its
position as well. Forgetting them again gives the blocks of the sheet, so that what is
proved of openings holds of blocks.
-/

namespace TaskSheet.Outline

/-- Below a step the run goes on. -/
theorem stepRun_step {least : Nat} {line : Text} (h : (stepText? least line).isSome = true)
    (lines : List Text) : stepRun least (line :: lines) = line :: stepRun least lines := by
  rw [stepRun, if_pos h]

/-- A line that is neither a step nor blank ends the run. -/
theorem stepRun_other {least : Nat} {line : Text} (hstep : stepText? least line = none)
    (hblank : Text.isAllBlank line = false) (lines : List Text) :
    stepRun least (line :: lines) = [] := by
  rw [stepRun, if_neg (by simp [hstep]), if_neg (by simp [hblank])]

/-- Steps come before everything that is a run behind them. -/
theorem stepRun_append {least : Nat} {steps : List Text}
    (h : ∀ line ∈ steps, (stepText? least line).isSome = true) (lines : List Text) :
    stepRun least (steps ++ lines) = steps ++ stepRun least lines := by
  induction steps with
  | nil => rfl
  | cons line steps ih =>
    rw [List.cons_append, stepRun_step (h line List.mem_cons_self),
      ih fun l hl => h l (List.mem_cons_of_mem _ hl)]
    rfl

/-- A run stands at the start of the lines in which it is looked for. -/
theorem stepRun_prefix (least : Nat) (lines : List Text) : stepRun least lines <+: lines := by
  induction lines with
  | nil => exact List.prefix_rfl
  | cons line lines ih =>
    rw [stepRun]
    split
    · exact List.cons_prefix_cons.mpr ⟨rfl, ih⟩
    · split
      · cases hrun : stepRun least lines with
        | nil => exact List.nil_prefix
        | cons first run =>
          rw [hrun] at ih
          exact List.cons_prefix_cons.mpr ⟨rfl, ih⟩
      · exact List.nil_prefix

/-- Lines that are no entries, and stand outside every run, give no blocks. -/
theorem findBlocks_append {before : List Text} (h : ∀ line ∈ before, entryModule? line = none)
    (lines : List Text) : findBlocks (before ++ lines) = findBlocks lines := by
  induction before with
  | nil => rfl
  | cons line before ih =>
    rw [List.cons_append, findBlocks.eq_2, h line List.mem_cons_self]
    exact ih fun l hl => h l (List.mem_cons_of_mem _ hl)

/-- There is no block exactly if no line is an entry. -/
theorem findBlocks_eq_nil_iff {lines : List Text} :
    findBlocks lines = [] ↔ ∀ line ∈ lines, entryModule? line = none := by
  constructor
  · intro h
    induction lines with
    | nil => simp
    | cons line lines ih =>
      rw [findBlocks.eq_2] at h
      cases hentry : entryModule? line with
      | none =>
        rw [hentry] at h
        exact List.forall_mem_cons.mpr ⟨hentry, ih h⟩
      | some module => simp [hentry] at h
  · intro h
    have hnone := findBlocks_append h []
    rw [List.append_nil] at hnone
    rw [hnone, findBlocks]

/-- An entry opens a block with the run below it, and the search goes on behind the run. -/
theorem findBlocks_entry {line module : Text} (h : entryModule? line = some module)
    {run lines rest : List Text} (hrun : stepRun (stepIndent line) lines = run)
    (hlines : lines = run ++ rest) :
    findBlocks (line :: lines) = ⟨module, Text.unlines run⟩ :: findBlocks rest := by
  rw [findBlocks.eq_2, h]
  simp only [hrun]
  rw [hlines, List.drop_left]

/-- An entry with the place where it stands and the run of its steps. -/
structure Opening where
  /-- The number of lines before the entry. -/
  position : Nat
  /-- The line of the entry. -/
  line : Text
  /-- The module that the entry names. -/
  module : Text
  /-- The lines of its run. -/
  run : List Text
  deriving DecidableEq

/-- The block that an opening gives. -/
def Opening.block (opening : Opening) : Block := ⟨opening.module, Text.unlines opening.run⟩

/-- The openings among lines, the first of which has the given position. -/
def openingsFrom (position : Nat) : List Text → List Opening
  | [] => []
  | line :: lines =>
    match entryModule? line with
    | none => openingsFrom (position + 1) lines
    | some module =>
      let run := stepRun (stepIndent line) lines
      ⟨position, line, module, run⟩ ::
        openingsFrom (position + 1 + run.length) (lines.drop run.length)
  termination_by lines => lines.length
  decreasing_by
    · simp
    · simp only [List.length_cons, List.length_drop]
      omega

/-- The openings of a sheet. -/
def openings (lines : List Text) : List Opening := openingsFrom 0 lines

/-- Without their places, openings are the blocks that the search finds. -/
theorem map_block_openingsFrom (position : Nat) (lines : List Text) :
    (openingsFrom position lines).map Opening.block = findBlocks lines := by
  fun_induction openingsFrom position lines with
  | case1 => simp [findBlocks]
  | case2 position line lines hentry ih => rw [findBlocks.eq_2, hentry, ih]
  | case3 position line lines module hentry run ih =>
    rw [findBlocks.eq_2, hentry, List.map_cons, ih]
    rfl

/-- The blocks of a sheet are its openings without their places. -/
theorem map_block_openings (lines : List Text) :
    (openings lines).map Opening.block = findBlocks lines := map_block_openingsFrom 0 lines

/-- The scan never looks back. -/
theorem le_position_of_mem_openingsFrom {position : Nat} {lines : List Text} {opening : Opening}
    (h : opening ∈ openingsFrom position lines) : position ≤ opening.position := by
  fun_induction openingsFrom position lines with
  | case1 => simp at h
  | case2 position line lines _ ih =>
    have := ih h
    omega
  | case3 position line lines module _ run ih =>
    rcases List.mem_cons.mp h with rfl | h
    · exact Nat.le_refl _
    · have := ih h
      omega

/-- An opening describes what stands at its place in the sheet. -/
structure Opening.StandsIn (opening : Opening) (lines : List Text) : Prop where
  /-- The line is that of the sheet. -/
  line_eq : lines[opening.position]? = some opening.line
  /-- The line is an entry for the module. -/
  module_eq : entryModule? opening.line = some opening.module
  /-- The run is that of the lines below. -/
  run_eq : opening.run =
    stepRun (stepIndent opening.line) (lines.drop (opening.position + 1))

/-- The scan describes the sheet, whatever lines it has left behind. -/
theorem standsIn_of_mem_openingsFrom {before lines : List Text} {opening : Opening}
    (h : opening ∈ openingsFrom before.length lines) : opening.StandsIn (before ++ lines) := by
  induction hlength : lines.length using Nat.strong_induction_on generalizing before lines with
  | _ length ih =>
    subst hlength
    cases lines with
    | nil => simp [openingsFrom] at h
    | cons line lines =>
      rw [openingsFrom.eq_2] at h
      have hshape : before ++ line :: lines = (before ++ [line]) ++ lines := by simp
      have hposition : before.length + 1 = (before ++ [line]).length := by simp
      cases hentry : entryModule? line with
      | none =>
        simp only [hentry, hposition] at h
        rw [hshape]
        exact ih lines.length (by simp) h rfl
      | some module =>
        simp only [hentry, List.mem_cons] at h
        rcases h with rfl | h
        · refine ⟨by simp, hentry, ?_⟩
          rw [hshape, hposition, List.drop_left]
        · -- Behind the run the scan has left the entry and the lines of the run.
          obtain ⟨rest, hrest⟩ := stepRun_prefix (stepIndent line) lines
          have hskip : before ++ line :: lines =
              (before ++ [line] ++ stepRun (stepIndent line) lines) ++ rest := by
            rw [hshape, List.append_assoc _ _ rest, hrest]
          have hdrop : lines.drop (stepRun (stepIndent line) lines).length = rest := by
            nth_rewrite 2 [← hrest]
            exact List.drop_left
          rw [hdrop, hposition, ← List.length_append] at h
          rw [hskip]
          refine ih rest.length ?_ h rfl
          have := congrArg List.length hrest
          simp only [List.length_append, List.length_cons] at this ⊢
          omega

/-- Every opening describes what stands at its place in the sheet. -/
theorem standsIn_of_mem_openings {lines : List Text} {opening : Opening}
    (h : opening ∈ openings lines) : opening.StandsIn lines := by
  have hfrom : opening ∈ openingsFrom ([] : List Text).length lines := h
  exact standsIn_of_mem_openingsFrom hfrom

end TaskSheet.Outline
