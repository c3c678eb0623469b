import TaskSheet.Outline.Reading
import TaskSheet.Proofs.StepRuns
import Mathlib.Data.List.Forall2

/-!
# The partition of a sheet

Every block of a sheet stands for a stretch of its lines: the line of the entry and the steps
below it. This file says which stretches these are by what stands in them, right behind them,
and outside of all of them, without a word about the search that finds them. The description
leaves no choice, so that it is one of the search: there is a single list of stretches that
satisfies it, and the blocks of these stretches are those of the sheet.
-/

namespace TaskSheet.Outline

/-- A stretch of lines that begins with an entry. -/
structure Span where
  /-- The place of the entry. -/
  entry : Nat
  /-- The place behind the last line of the stretch. -/
  stop : Nat
  deriving DecidableEq

namespace Span

/-- The line of the entry. -/
def entryLine (span : Span) (lines : List Text) : Text := lines.getD span.entry []

/-- The lines of the stretch below the entry. -/
def below (span : Span) (lines : List Text) : List Text :=
  (lines.take span.stop).drop (span.entry + 1)

/-- The indentation that a step of the stretch has at least. -/
def leastIndent (span : Span) (lines : List Text) : Nat :=
  max 3 (Text.indent (span.entryLine lines) + 1)

/-- Whether a place belongs to the stretch. -/
def Covers (span : Span) (place : Nat) : Prop := span.entry ≤ place ∧ place < span.stop

/-- A stretch that gives a block: an entry, and below it as many steps as there are. Blank lines
may stand in front of a step, but not at the end. -/
structure Gives (span : Span) (lines : List Text) (block : Block) : Prop where
  /-- The entry belongs to the stretch. -/
  entry_lt_stop : span.entry < span.stop
  /-- The stretch ends with the lines at the latest. -/
  stop_le_length : span.stop ≤ lines.length
  /-- The entry names the module of the block. -/
  module_eq : entryModule? (span.entryLine lines) = some block.module
  /-- The block keeps the lines below the entry. -/
  rawSteps_eq : block.rawSteps = Text.unlines (span.below lines)
  /-- Every visible one of them is a step. -/
  isStep : ∀ line ∈ span.below lines, Text.isAllBlank line = false →
    (stepText? (span.leastIndent lines) line).isSome = true
  /-- The last one of them is visible. -/
  visible_last : ∀ line, (span.below lines).getLast? = some line → Text.isAllBlank line = false
  /-- The next visible line is no step. -/
  maximal : ∀ line, firstVisible? (lines.drop span.stop) = some line →
    stepText? (span.leastIndent lines) line = none

end Span

/-- Stretches that give blocks, one behind the other, with no entry outside of them. -/
structure IsPartition (lines : List Text) (spans : List Span) (blocks : List Block) : Prop where
  /-- Each stretch gives the block in the same position. -/
  gives : List.Forall₂ (fun span block => span.Gives lines block) spans blocks
  /-- No stretch begins before the end of an earlier one. -/
  ordered : spans.Pairwise fun first second => first.stop ≤ second.entry
  /-- No line outside of the stretches is an entry. -/
  others : ∀ place line, lines[place]? = some line → (∀ span ∈ spans, ¬span.Covers place) →
    entryModule? line = none

/-! ## The search gives a partition -/

/-- The stretch of an opening. -/
def Opening.span (opening : Opening) : Span :=
  ⟨opening.position, opening.position + 1 + opening.run.length⟩

/-- The stretch of an opening gives its block. -/
theorem Opening.StandsIn.gives {opening : Opening} {lines : List Text}
    (h : opening.StandsIn lines) : opening.span.Gives lines opening.block := by
  obtain ⟨rest, hrest⟩ := stepRun_prefix (stepIndent opening.line)
    (lines.drop (opening.position + 1))
  rw [← h.run_eq] at hrest
  have hline : opening.span.entryLine lines = opening.line := by
    rw [Span.entryLine, List.getD_eq_getElem?_getD, Opening.span, h.line_eq, Option.getD_some]
  have hleast : opening.span.leastIndent lines = stepIndent opening.line := by
    rw [Span.leastIndent, hline]
    rfl
  have hbelow : opening.span.below lines = opening.run := by
    rw [Span.below, Opening.span, List.drop_take, Nat.add_sub_cancel_left, ← hrest, List.take_left]
  have hplace := (List.getElem?_eq_some_iff.mp h.line_eq).1
  have hdrop : lines.drop (opening.position + 1 + opening.run.length) = rest := by
    rw [← List.drop_drop, ← hrest, List.drop_left]
  constructor
  · exact Nat.lt_add_right _ (Nat.lt_succ_self _)
  · have hlength := congrArg List.length hrest
    rw [List.length_append, List.length_drop] at hlength
    dsimp only [Opening.span]
    omega
  · rw [hline]
    exact h.module_eq
  · rw [hbelow]
    rfl
  · intro line hmem hvisible
    rw [hbelow, h.run_eq] at hmem
    rw [hleast]
    exact (step_or_blank_of_mem_stepRun hmem).resolve_right (by simp [hvisible])
  · intro line hlast
    rw [hbelow, h.run_eq] at hlast
    exact visible_of_getLast?_stepRun hlast
  · rw [hleast, ← stepRun_eq_nil_iff, Opening.span, ← List.drop_drop]
    nth_rewrite 1 [h.run_eq]
    exact stepRun_drop _ _

/-- The search goes on behind each run. -/
theorem pairwise_openingsFrom (position : Nat) (lines : List Text) :
    (openingsFrom position lines).Pairwise
      fun first second => first.span.stop ≤ second.span.entry := by
  fun_induction openingsFrom position lines with
  | case1 => exact List.Pairwise.nil
  | case2 position line lines _ ih => exact ih
  | case3 position line lines module _ run ih =>
    exact List.pairwise_cons.mpr ⟨fun _ hopening => le_position_of_mem_openingsFrom hopening, ih⟩

/-- The search passes over no entry. -/
theorem exists_covers_of_entry (position : Nat) {place : Nat} {lines : List Text} {line : Text}
    (hline : lines[place]? = some line) (hentry : entryModule? line ≠ none) :
    ∃ opening ∈ openingsFrom position lines, opening.span.Covers (position + place) := by
  fun_induction openingsFrom position lines generalizing place with
  | case1 => simp at hline
  | case2 position first lines hfirst ih =>
    cases place with
    | zero =>
      obtain rfl : first = line := Option.some.inj hline
      exact absurd hfirst hentry
    | succ place =>
      rw [← Nat.add_assoc, Nat.add_right_comm]
      exact ih hline
  | case3 position first lines module _ run =>
    rename_i ih
    cases place with
    | zero => exact ⟨_, List.mem_cons_self, Nat.le_refl _, by dsimp only [Opening.span]; omega⟩
    | succ place =>
      rw [List.getElem?_cons_succ] at hline
      by_cases hrun : place < run.length
      · refine ⟨_, List.mem_cons_self, Nat.le_add_right _ _, ?_⟩
        dsimp only [Opening.span]
        omega
      · have hplace : (lines.drop run.length)[place - run.length]? = some line := by
          rw [List.getElem?_drop, Nat.add_sub_cancel' (Nat.le_of_not_lt hrun), hline]
        obtain ⟨opening, hopening, hcovers⟩ := ih hplace
        have hshift : position + (place + 1) =
            position + 1 + run.length + (place - run.length) := by omega
        exact ⟨opening, List.mem_cons_of_mem _ hopening, hshift ▸ hcovers⟩

/-- The stretches of the openings are a partition into the blocks. -/
theorem isPartition_openings (lines : List Text) :
    IsPartition lines ((openings lines).map Opening.span) (findBlocks lines) := by
  refine ⟨?_, List.pairwise_map.mpr (pairwise_openingsFrom 0 lines), ?_⟩
  · rw [← map_block_openings, List.forall₂_map_left_iff, List.forall₂_map_right_iff,
      List.forall₂_same]
    exact fun opening hopening => (standsIn_of_mem_openings hopening).gives
  · intro place line hline houtside
    by_contra hentry
    obtain ⟨opening, hopening, hcovers⟩ := exists_covers_of_entry 0 hline hentry
    rw [Nat.zero_add] at hcovers
    exact houtside _ (List.mem_map_of_mem hopening) hcovers

/-! ## There is no other partition -/

/-- Lines that are no entries are passed over. -/
theorem openingsFrom_drop {start place : Nat} {lines : List Text} (hle : start ≤ place)
    (h : ∀ other line, start ≤ other → other < place → lines[other]? = some line →
      entryModule? line = none) :
    openingsFrom start (lines.drop start) = openingsFrom place (lines.drop place) := by
  induction hle with
  | refl => rfl
  | @step place hle ih =>
    rw [ih fun other line hstart hlt => h other line hstart (Nat.lt_succ_of_lt hlt)]
    by_cases hplace : place < lines.length
    · have hline : lines[place]? = some lines[place] := List.getElem?_eq_getElem hplace
      rw [List.drop_eq_getElem_cons hplace, openingsFrom.eq_2,
        h place _ hle (Nat.lt_succ_self place) hline]
    · rw [List.drop_eq_nil_of_le (by omega), List.drop_eq_nil_of_le (by omega), openingsFrom,
        openingsFrom]

/-- A line between the entry and the stop stands below the entry. -/
theorem Span.mem_below {span : Span} {place : Nat} {lines : List Text} {line : Text}
    (hline : lines[place]? = some line) (hentry : span.entry < place) (hstop : place < span.stop) :
    line ∈ span.below lines := by
  refine List.mem_iff_getElem?.mpr ⟨place - (span.entry + 1), ?_⟩
  rw [Span.below, List.getElem?_drop, Nat.add_sub_cancel' hentry, List.getElem?_take_of_lt hstop,
    hline]

namespace Span.Gives

variable {span : Span} {lines : List Text} {block : Block}

/-- From the stop on, the lines below the entry are behind. -/
theorem entry_add_length_below (h : span.Gives lines block) :
    span.entry + 1 + (span.below lines).length = span.stop := by
  have hlt := h.entry_lt_stop
  have hle := h.stop_le_length
  rw [Span.below, List.length_drop, List.length_take]
  omega

/-- From the entry on, there are the entry, the lines below it, and those from the stop on. -/
theorem drop_entry_eq (h : span.Gives lines block) :
    lines.drop span.entry =
      span.entryLine lines :: (span.below lines ++ lines.drop span.stop) := by
  have hlt := h.entry_lt_stop
  have hle := h.stop_le_length
  have hentry : span.entry < lines.length := by omega
  have hlength : span.entry + 1 ≤ (lines.take span.stop).length := by
    rw [List.length_take]
    omega
  have hline : span.entryLine lines = lines[span.entry] := by
    rw [Span.entryLine, List.getD_eq_getElem?_getD, List.getElem?_eq_getElem hentry,
      Option.getD_some]
  rw [List.drop_eq_getElem_cons hentry, hline, Span.below,
    ← List.drop_append_of_le_length hlength, List.take_append_drop]

/-- The search finds the entry with the lines below it and goes on behind the stretch. -/
theorem openingsFrom_entry (h : span.Gives lines block) :
    openingsFrom span.entry (lines.drop span.entry) =
      ⟨span.entry, span.entryLine lines, block.module, span.below lines⟩ ::
        openingsFrom span.stop (lines.drop span.stop) := by
  have hrun : stepRun (stepIndent (span.entryLine lines))
      (span.below lines ++ lines.drop span.stop) = span.below lines :=
    stepRun_append_eq_left h.isStep h.visible_last (stepRun_eq_nil_iff.mpr h.maximal)
  rw [h.drop_entry_eq, openingsFrom.eq_2, h.module_eq]
  simp only [hrun, List.drop_left, h.entry_add_length_below]

end Span.Gives

/-- From any place on, the search finds the stretches of a partition and their blocks. -/
theorem map_openingsFrom_of_gives {start : Nat} {lines : List Text} {spans : List Span}
    {blocks : List Block}
    (hgives : List.Forall₂ (fun span block => span.Gives lines block) spans blocks)
    (hordered : spans.Pairwise fun first second => first.stop ≤ second.entry)
    (hstart : ∀ span ∈ spans, start ≤ span.entry)
    (hothers : ∀ place line, start ≤ place → lines[place]? = some line →
      (∀ span ∈ spans, ¬span.Covers place) → entryModule? line = none) :
    (openingsFrom start (lines.drop start)).map Opening.span = spans ∧
      (openingsFrom start (lines.drop start)).map Opening.block = blocks := by
  induction hgives generalizing start with
  | nil =>
    rw [openingsFrom_drop (Nat.le_max_left start lines.length) fun place line hle _ hline =>
        hothers place line hle hline (by simp),
      List.drop_eq_nil_of_le (Nat.le_max_right _ _), openingsFrom]
    exact ⟨rfl, rfl⟩
  | @cons span block spans blocks hspan _ ih =>
    obtain ⟨hbehind, hordered⟩ := List.pairwise_cons.mp hordered
    rw [List.forall_mem_cons] at hstart
    have hlt := hspan.entry_lt_stop
    -- No stretch covers a place between the start and the first entry.
    have hskip : openingsFrom start (lines.drop start) =
        openingsFrom span.entry (lines.drop span.entry) := by
      refine openingsFrom_drop hstart.1 fun place line hle hplace hline =>
        hothers place line hle hline ?_
      refine List.forall_mem_cons.mpr ⟨fun hcovers => ?_, fun other hother hcovers => ?_⟩
      · exact absurd hcovers.1 (by omega)
      · have := hbehind other hother
        exact absurd hcovers.1 (by omega)
    obtain ⟨hspans, hblocks⟩ := ih hordered hbehind fun place line hle hline houtside => by
      have hfirst : ¬span.Covers place := fun hcovers => absurd hcovers.2 (by omega)
      exact hothers place line (by omega) hline (List.forall_mem_cons.mpr ⟨hfirst, houtside⟩)
    rw [hskip, hspan.openingsFrom_entry, List.map_cons, List.map_cons, hspans, hblocks,
      Opening.span, Opening.block, hspan.entry_add_length_below, ← hspan.rawSteps_eq]
    exact ⟨rfl, rfl⟩

/-- A partition is what the search finds, and nothing else is one. -/
theorem isPartition_iff {lines : List Text} {spans : List Span} {blocks : List Block} :
    IsPartition lines spans blocks ↔
      spans = (openings lines).map Opening.span ∧ blocks = findBlocks lines := by
  constructor
  · intro h
    obtain ⟨hspans, hblocks⟩ := map_openingsFrom_of_gives h.gives h.ordered
      (fun _ _ => Nat.zero_le _) fun place line _ => h.others place line
    exact ⟨hspans.symm, hblocks.symm.trans (map_block_openingsFrom 0 lines)⟩
  · rintro ⟨rfl, rfl⟩
    exact isPartition_openings lines

/-! ## The use of a line -/

/-- Whether a place belongs to the stretch with the given number. -/
def IsUsedBy (spans : List Span) (place number : Nat) : Prop :=
  ∃ span, spans[number]? = some span ∧ span.Covers place

/-- Whether the stretch with the given number begins at a place. -/
def IsEntryOf (spans : List Span) (place number : Nat) : Prop :=
  ∃ span, spans[number]? = some span ∧ span.entry = place

/-- Whether the line at a place is a step of the stretch with the given number, which begins
earlier. -/
def IsStepOf (lines : List Text) (spans : List Span) (place number : Nat) : Prop :=
  ∃ span, spans[number]? = some span ∧ span.entry < place ∧ place < span.stop ∧
    ∃ line, lines[place]? = some line ∧
      (stepText? (span.leastIndent lines) line).isSome = true

/-- A step is used. -/
theorem IsStepOf.isUsedBy {lines : List Text} {spans : List Span} {place number : Nat}
    (h : IsStepOf lines spans place number) : IsUsedBy spans place number := by
  obtain ⟨span, hspan, hentry, hstop, -⟩ := h
  exact ⟨span, hspan, Nat.le_of_lt hentry, hstop⟩

namespace IsPartition

variable {lines : List Text} {spans : List Span} {blocks : List Block}

/-- Each stretch of a partition gives a block. -/
theorem exists_gives (h : IsPartition lines spans blocks) {span : Span} (hspan : span ∈ spans) :
    ∃ block, span.Gives lines block := by
  obtain ⟨rfl, -⟩ := isPartition_iff.mp h
  obtain ⟨opening, hopening, rfl⟩ := List.mem_map.mp hspan
  exact ⟨opening.block, (standsIn_of_mem_openings hopening).gives⟩

/-- No line is used twice. -/
theorem isUsedBy_unique (h : IsPartition lines spans blocks) {place number other : Nat}
    (hnumber : IsUsedBy spans place number) (hother : IsUsedBy spans place other) :
    number = other := by
  have hordered := List.pairwise_iff_getElem.mp h.ordered
  obtain ⟨span, hspan, hcovers⟩ := hnumber
  obtain ⟨second, hsecond, hagain⟩ := hother
  obtain ⟨hlt, rfl⟩ := List.getElem?_eq_some_iff.mp hspan
  obtain ⟨hlt', rfl⟩ := List.getElem?_eq_some_iff.mp hsecond
  rcases Nat.lt_trichotomy number other with hless | heq | hless
  · have := hordered number other hlt hlt' hless
    exact absurd (Nat.lt_of_lt_of_le hcovers.2 this) (Nat.not_lt_of_le hagain.1)
  · exact heq
  · have := hordered other number hlt' hlt hless
    exact absurd (Nat.lt_of_lt_of_le hagain.2 this) (Nat.not_lt_of_le hcovers.1)

/-- An entry begins a stretch. -/
theorem isUsedBy_of_isEntryOf (h : IsPartition lines spans blocks) {place number : Nat}
    (hentry : IsEntryOf spans place number) : IsUsedBy spans place number := by
  obtain ⟨span, hspan, rfl⟩ := hentry
  obtain ⟨block, hgives⟩ := h.exists_gives (List.mem_of_getElem? hspan)
  exact ⟨span, hspan, Nat.le_refl _, hgives.entry_lt_stop⟩

/-- Every line that is an entry begins a stretch or is a step of an earlier one, and not both. -/
theorem entry_xor_step (h : IsPartition lines spans blocks) {place : Nat} {line : Text}
    (hline : lines[place]? = some line) (hentry : entryModule? line ≠ none) :
    Xor (∃! number, IsEntryOf spans place number)
      (∃! number, IsStepOf lines spans place number) := by
  obtain ⟨span, hspan, hfirst, hstop⟩ : ∃ span ∈ spans, span.Covers place := by
    by_contra houtside
    exact hentry (h.others place line hline (by simpa using houtside))
  obtain ⟨number, hnumber⟩ := List.mem_iff_getElem?.mp hspan
  have hused : IsUsedBy spans place number := ⟨span, hnumber, hfirst, hstop⟩
  have hsame : ∀ other, IsUsedBy spans place other → other = number :=
    fun other hother => h.isUsedBy_unique hother hused
  rcases Nat.eq_or_lt_of_le hfirst with heq | hlt
  · have hopens : IsEntryOf spans place number := ⟨span, hnumber, heq⟩
    refine .inl ⟨⟨number, hopens, fun other hother =>
      hsame other (h.isUsedBy_of_isEntryOf hother)⟩, ?_⟩
    rintro ⟨other, hstep, -⟩
    obtain rfl := hsame other hstep.isUsedBy
    obtain ⟨same, hsame, hlt, -⟩ := hstep
    obtain rfl := Option.some.inj (hnumber.symm.trans hsame)
    omega
  · obtain ⟨block, hgives⟩ := h.exists_gives hspan
    have hvisible : Text.isAllBlank line = false := by
      by_contra hblank
      exact hentry (entryModule?_of_isAllBlank (by simpa using hblank))
    have hstep : IsStepOf lines spans place number :=
      ⟨span, hnumber, hlt, hstop, line, hline,
        hgives.isStep line (span.mem_below hline hlt hstop) hvisible⟩
    refine .inr ⟨⟨number, hstep, fun other hother => hsame other hother.isUsedBy⟩, ?_⟩
    rintro ⟨other, hopens, -⟩
    obtain rfl := hsame other (h.isUsedBy_of_isEntryOf hopens)
    obtain ⟨same, hsame, heq⟩ := hopens
    obtain rfl := Option.some.inj (hnumber.symm.trans hsame)
    omega

end IsPartition

/-- **The blocks are a greedy partition.** There are stretches of the lines, one for each block,
in order and apart from each other. Each consists of the entry of its block and of the longest
run of steps below it, and no entry stands outside of them. Hence a line that could be an entry
either opens one block or is a step of one earlier block, and no line is used twice. There is no
other way to cut the sheet like this. -/
theorem blocks_partition_sheet (sheet : Text) :
    ∃ spans, IsPartition (Text.lines sheet) spans (ofText sheet).blocks ∧
      (∀ place line, (Text.lines sheet)[place]? = some line → entryModule? line ≠ none →
        Xor (∃! number, IsEntryOf spans place number)
          (∃! number, IsStepOf (Text.lines sheet) spans place number)) ∧
      (∀ place number other, IsUsedBy spans place number → IsUsedBy spans place other →
        number = other) ∧
      ∀ others blocks, IsPartition (Text.lines sheet) others blocks →
        others = spans ∧ blocks = (ofText sheet).blocks := by
  have h := isPartition_openings (Text.lines sheet)
  exact ⟨_, h, fun _ _ => h.entry_xor_step, fun _ _ _ => h.isUsedBy_unique,
    fun _ _ => isPartition_iff.mp⟩

end TaskSheet.Outline
