import TaskSheet.Outline.Reading
import TaskSheet.Proofs.LineEdits
import TaskSheet.Proofs.Sections
import TaskSheet.Proofs.StepRuns
import Mathlib.Data.List.Forall2

/-!
# Ticked entries

When a task is done, the agent replaces the space in the box of its entry. The entry is then
no entry any more, but it still ends the run of steps before it, and the steps below it are
left over without opening anything. So the next reading finds the same blocks without the
one that was ticked, under the same title and with the same requirements.
-/

namespace TaskSheet

/-- The box of an entry as the agent leaves it. -/
def tickedBox : Text := "- [x] "

/-- The place of the space in the box of an entry. -/
def boxPlace (line : Text) : Nat := Text.indent line + 3

/-- In the box, an `x` in the place of the space makes it a ticked box. -/
theorem set_boxPlace {blank : Text} (hblank : Text.isAllBlank blank = true) (rest : Text) :
    (blank ++ openBox ++ rest).set (boxPlace (blank ++ openBox ++ rest)) 'x' =
      blank ++ tickedBox ++ rest := by
  have hplace : boxPlace (blank ++ openBox ++ rest) = blank.length + 3 := by
    rw [boxPlace, List.append_assoc, Text.indent_append hblank (startsVisible_openBox_append rest)]
  rw [hplace, List.append_assoc, List.set_append_right _ _ (Nat.le_add_right _ _),
    Nat.add_sub_cancel_left, List.append_assoc]
  rfl

/-- The place of the space in the box holds the space. -/
theorem getElem?_boxPlace {blank : Text} (hblank : Text.isAllBlank blank = true) (rest : Text) :
    (blank ++ openBox ++ rest)[boxPlace (blank ++ openBox ++ rest)]? = some ' ' := by
  rw [boxPlace, List.append_assoc, Text.indent_append hblank (startsVisible_openBox_append rest),
    List.getElem?_append_right (Nat.le_add_right _ _), Nat.add_sub_cancel_left]
  rfl

/-- A ticked box begins visibly. -/
theorem startsVisible_tickedBox_append (rest : Text) : Text.StartsVisible (tickedBox ++ rest) :=
  Text.startsVisible_cons.mpr (by decide)

/-- A ticked box is no open box. -/
theorem isOpenBox_tickedBox {blank : Text} (hblank : Text.isAllBlank blank = true) (rest : Text) :
    isOpenBox (blank ++ tickedBox ++ rest) = false := by
  rw [isOpenBox, List.append_assoc, Text.trimStart_append_of_blank hblank,
    (startsVisible_tickedBox_append rest).trimStart]
  rfl

/-- The reader of checkboxes finds a ticked box where it found an open one, and the same
text behind it. -/
theorem Checkbox.parse?_tickedBox {blank : Text} (hblank : Text.isAllBlank blank = true)
    (rest : Text) :
    parse? (blank ++ tickedBox ++ rest) =
      (parse? (blank ++ openBox ++ rest)).map fun box => { box with checked := true } := by
  have hparts : blank ++ tickedBox ++ rest =
      blank ++ ['-', ' '] ++ [] ++ ['[', 'x', ']'] ++ ' ' :: rest := by
    simp only [List.append_assoc]
    rfl
  rw [parse?_openBox hblank, hparts, parse?_of_spells hblank .dash rfl .small,
    Text.trim_space_cons]
  split <;> rfl

/-- A line that does not begin with a number sign is no heading. -/
theorem Heading.parse?_eq_none {line : Text} (h : line.head? ≠ some '#') : parse? line = none := by
  cases line with
  | nil => rfl
  | cons c line =>
    have hc : c ≠ '#' := by simpa using h
    simp [parse?, hc]

/-- A line that does not begin with a number sign ends no section. -/
theorem Heading.breaksSection_eq_false {line : Text} (h : line.head? ≠ some '#') :
    breaksSection line = false := by
  cases line with
  | nil => rfl
  | cons c line =>
    have hc : ('#' == c) = false := beq_eq_false_iff_ne.mpr fun heq => h (by rw [heq]; rfl)
    rw [breaksSection, List.isPrefixOf_cons_cons, hc, Bool.false_and]

/-- An indented dash does not begin with a number sign. -/
theorem head?_blank_append {blank : Text} (hblank : Text.isAllBlank blank = true) (rest : Text) :
    (blank ++ '-' :: rest).head? ≠ some '#' := by
  cases blank with
  | nil => simp
  | cons c blank =>
    have hc := Text.isAllBlank_iff.mp hblank c List.mem_cons_self
    rw [List.cons_append, List.head?_cons, Ne, Option.some.injEq]
    rintro rfl
    exact absurd hc (by decide)

namespace Outline

/-! ## Blocks around a line without a part in them -/

/-- A line that is neither an entry nor a step nor blank. -/
structure IsInert (line : Text) : Prop where
  /-- The line is no entry. -/
  entry_eq_none : entryModule? line = none
  /-- The line is no step, however little indentation is demanded. -/
  step_eq_none : ∀ least, stepText? least line = none
  /-- The line is visible. -/
  not_blank : Text.isAllBlank line = false

/-- A ticked entry is inert. -/
theorem isInert_tickedBox {blank : Text} (hblank : Text.isAllBlank blank = true) (rest : Text) :
    IsInert (blank ++ tickedBox ++ rest) := by
  have hbox := isOpenBox_tickedBox hblank rest
  have hclosed : ¬isOpenBox (blank ++ tickedBox ++ rest) = true := by rw [hbox]; decide
  refine ⟨if_neg hclosed, fun least => if_neg hclosed, ?_⟩
  have hvisible : Text.isAllBlank tickedBox = false := by decide
  simp only [Text.isAllBlank, List.all_append] at hvisible ⊢
  simp [hvisible]

/-- An inert line in the place of another one starts no run. -/
theorem stepRun_set_eq_nil {least : Nat} {line : Text} {lines : List Text} (hline : IsInert line)
    (h : stepRun least lines = []) (number : Nat) : stepRun least (lines.set number line) = [] := by
  induction lines generalizing number with
  | nil => rfl
  | cons first lines ih => cases number with
    | zero => exact stepRun_other (hline.step_eq_none least) hline.not_blank lines
    | succ number =>
      obtain ⟨hstep, hblank⟩ := stepRun_cons_eq_nil_iff.mp h
      exact stepRun_cons_eq_nil_iff.mpr ⟨hstep, fun hfirst => ih (hblank hfirst) number⟩

/-- An inert line in the place of an entry takes its block away and no other, if no line of
its run could open a block in its stead. -/
theorem findBlocks_set_of_openingsFrom {position number : Nat} {lines : List Text} {line : Text}
    {opening : Opening} (hline : IsInert line)
    (hopening : (openingsFrom position lines)[number]? = some opening)
    (hrun : ∀ step ∈ opening.run, entryModule? step = none) :
    findBlocks (lines.set (opening.position - position) line) =
      (findBlocks lines).eraseIdx number := by
  fun_induction openingsFrom position lines generalizing number with
  | case1 => simp at hopening
  | case2 position first lines hfirst ih =>
    have hle := le_position_of_mem_openingsFrom (List.mem_of_getElem? hopening)
    have hplace : opening.position - position = opening.position - (position + 1) + 1 := by omega
    rw [hplace, List.set_cons_succ, findBlocks.eq_2, findBlocks.eq_2, hfirst]
    exact ih hopening
  | case3 position first lines module hfirst run =>
    rename_i ih
    obtain ⟨rest, hrest⟩ := stepRun_prefix (stepIndent first) lines
    have hdrop : lines.drop run.length = rest := by
      rw [← hrest]
      exact List.drop_left
    have hentry := findBlocks_entry hfirst (rfl : stepRun (stepIndent first) lines = run) hrest.symm
    rw [hentry]
    cases number with
    | zero =>
      obtain rfl := Option.some.inj hopening
      rw [Nat.sub_self, List.set_cons_zero, List.eraseIdx_cons_zero, findBlocks.eq_2,
        hline.entry_eq_none, ← hrest]
      exact findBlocks_append hrun rest
    | succ number =>
      rw [List.getElem?_cons_succ] at hopening
      have hle := le_position_of_mem_openingsFrom (List.mem_of_getElem? hopening)
      have hplace : opening.position - position =
          run.length + (opening.position - (position + 1 + run.length)) + 1 := by omega
      -- The run before the entry ends in the same place as before.
      have hends : stepRun (stepIndent first) rest = [] := hdrop ▸ stepRun_drop _ lines
      have hagain : stepRun (stepIndent first)
          (run ++ rest.set (opening.position - (position + 1 + run.length)) line) = run := by
        rw [stepRun_stepRun_append, stepRun_set_eq_nil hline hends, List.append_nil]
      have hset : lines.set (run.length + (opening.position - (position + 1 + run.length))) line =
          run ++ rest.set (opening.position - (position + 1 + run.length)) line := by
        nth_rewrite 1 [← hrest]
        rw [List.set_append_right _ _ (Nat.le_add_right _ _), Nat.add_sub_cancel_left]
      rw [hplace, List.set_cons_succ, hset, findBlocks_entry hfirst hagain rfl,
        List.eraseIdx_cons_succ, ← hdrop, ih hopening]

/-- An inert line in the place of an entry takes its block away and no other, if no line of
its run could open a block in its stead. -/
theorem findBlocks_set {number : Nat} {lines : List Text} {line : Text} {opening : Opening}
    (hline : IsInert line) (hopening : (openings lines)[number]? = some opening)
    (hrun : ∀ step ∈ opening.run, entryModule? step = none) :
    findBlocks (lines.set opening.position line) = (findBlocks lines).eraseIdx number :=
  findBlocks_set_of_openingsFrom hline hopening hrun

/-! ## Title and sections around a line that keeps its part in them -/

/-- Two lines that play the same part in titles and sections: they are the same heading, or
checkboxes that differ at most in their indentation and in being ticked. -/
structure IsAlike (line other : Text) : Prop where
  /-- They are the same heading, if they are headings. -/
  heading_eq : Heading.parse? line = Heading.parse? other
  /-- They end a section, or neither does. -/
  breaks_eq : Heading.breaksSection line = Heading.breaksSection other
  /-- They are checkboxes with the same marker and the same text, if they are checkboxes. -/
  box_eq : (Checkbox.parse? line).map (fun box => (box.marker, box.text)) =
    (Checkbox.parse? other).map fun box => (box.marker, box.text)

/-- Every line is like itself. -/
theorem IsAlike.refl (line : Text) : IsAlike line line := ⟨rfl, rfl, rfl⟩

/-- A ticked box is like the open box. -/
theorem isAlike_tickedBox {blank : Text} (hblank : Text.isAllBlank blank = true) (rest : Text) :
    IsAlike (blank ++ openBox ++ rest) (blank ++ tickedBox ++ rest) := by
  have hopen : (blank ++ openBox ++ rest).head? ≠ some '#' := by
    rw [List.append_assoc]
    exact head?_blank_append hblank _
  have hticked : (blank ++ tickedBox ++ rest).head? ≠ some '#' := by
    rw [List.append_assoc]
    exact head?_blank_append hblank _
  refine ⟨?_, ?_, ?_⟩
  · rw [Heading.parse?_eq_none hopen, Heading.parse?_eq_none hticked]
  · rw [Heading.breaksSection_eq_false hopen, Heading.breaksSection_eq_false hticked]
  · rw [Checkbox.parse?_tickedBox hblank, Option.map_map]
    rfl

/-- Lines that are alike in each place, apart from one in which a line is replaced by one
that is like it. -/
theorem forall₂_isAlike_set {lines : List Text} {line other : Text} {number : Nat}
    (hline : lines[number]? = some line) (hother : IsAlike line other) :
    List.Forall₂ IsAlike lines (lines.set number other) := by
  induction lines generalizing number with
  | nil => simp at hline
  | cons first lines ih => cases number with
    | zero =>
      obtain rfl := Option.some.inj hline
      exact List.Forall₂.cons hother (List.forall₂_same.mpr fun l _ => IsAlike.refl l)
    | succ number => exact List.Forall₂.cons (IsAlike.refl first) (ih hline)

/-- Alike lines give the same title. -/
theorem findTitle?_congr {lines others : List Text} (h : List.Forall₂ IsAlike lines others) :
    findTitle? lines = findTitle? others := by
  have hheadings : lines.filterMap Heading.parse? = others.filterMap Heading.parse? := by
    induction h with
    | nil => rfl
    | cons hline _ ih => rw [List.filterMap_cons, List.filterMap_cons, hline.heading_eq, ih]
  rw [findTitle?, findTitle?, hheadings]

/-- Alike lines up to the end of a section are alike. -/
theorem forall₂_takeWhile {lines others : List Text} (h : List.Forall₂ IsAlike lines others) :
    List.Forall₂ IsAlike (lines.takeWhile fun l => !Heading.breaksSection l)
      (others.takeWhile fun l => !Heading.breaksSection l) := by
  induction h with
  | nil => exact List.Forall₂.nil
  | cons hline _ ih =>
    rw [List.takeWhile_cons, List.takeWhile_cons, hline.breaks_eq]
    split
    · exact List.Forall₂.cons hline ih
    · exact List.Forall₂.nil

/-- Alike lines have sections with alike lines. -/
theorem sectionLines?_congr (name : Text) {lines others : List Text}
    (h : List.Forall₂ IsAlike lines others) :
    Option.Rel (List.Forall₂ IsAlike) (sectionLines? name lines) (sectionLines? name others) := by
  induction h with
  | nil => exact Option.Rel.none
  | @cons line other lines others hline hlines ih =>
    have hopens : Heading.opensSection name line = Heading.opensSection name other := by
      rw [Heading.opensSection, Heading.opensSection, hline.heading_eq]
    rw [sectionLines?, sectionLines?, hopens]
    split
    · exact Option.Rel.some (forall₂_takeWhile hlines)
    · exact ih

/-- Alike lines hold the same requirements. -/
theorem readRequirements_congr {lines others : List Text}
    (h : List.Forall₂ IsAlike lines others) : readRequirements lines = readRequirements others := by
  -- Requirements are read from the markers and texts of the boxes alone.
  have hread : ∀ body, readRequirements body =
      let boxes := body.filterMap fun line =>
        (Checkbox.parse? line).map fun box => (box.marker, box.text)
      ⟨(boxes.filter (·.1 == .numbered)).map (·.2), !boxes.isEmpty⟩ := by
    intro body
    simp only [readRequirements, ← List.map_filterMap, List.filter_map, List.map_map,
      List.isEmpty_map]
    rfl
  have hboxes : lines.filterMap (fun line =>
        (Checkbox.parse? line).map fun box => (box.marker, box.text)) =
      others.filterMap fun line =>
        (Checkbox.parse? line).map fun box => (box.marker, box.text) := by
    induction h with
    | nil => rfl
    | cons hline _ ih => rw [List.filterMap_cons, List.filterMap_cons, hline.box_eq, ih]
  rw [hread, hread, hboxes]

/-- What is said of the lines of a section is the same for alike lines, if it does not tell
alike lines apart. -/
theorem map_sectionLines?_congr {α : Type} {say : List Text → α}
    (hsay : ∀ {body other}, List.Forall₂ IsAlike body other → say body = say other) (name : Text)
    {lines others : List Text} (h : List.Forall₂ IsAlike lines others) :
    (sectionLines? name lines).map say = (sectionLines? name others).map say := by
  have hsection := sectionLines?_congr name h
  generalize sectionLines? name lines = body at hsection ⊢
  generalize sectionLines? name others = other at hsection ⊢
  cases hsection with
  | none => rfl
  | some hbody => rw [Option.map_some, Option.map_some, hsay hbody]

/-- Alike lines state the same requirements. -/
theorem findRequirements?_congr {lines others : List Text}
    (h : List.Forall₂ IsAlike lines others) : findRequirements? lines = findRequirements? others :=
  map_sectionLines?_congr readRequirements_congr "Requirements" h

/-- Of alike lines, either all or none state an objective. -/
theorem findObjective?_eq_none_congr {lines others : List Text}
    (h : List.Forall₂ IsAlike lines others) :
    findObjective? lines = none ↔ findObjective? others = none := by
  have hlength : (sectionLines? "Objective" lines).map List.length =
      (sectionLines? "Objective" others).map List.length :=
    map_sectionLines?_congr List.Forall₂.length_eq "Objective" h
  rw [findObjective?, findObjective?, Option.map_eq_none_iff, Option.map_eq_none_iff,
    ← Option.map_eq_none_iff (f := List.length), hlength, Option.map_eq_none_iff]

/-! ## Ticking -/

/-- The place in a sheet of the space in the box of an opening. -/
def Opening.boxPlaceIn (opening : Opening) (sheet : Text) : Nat :=
  Text.lineStart opening.position sheet + boxPlace opening.line

/-- A sheet with an `x` in the place of that space, and otherwise unchanged. -/
def Opening.tick (opening : Opening) (sheet : Text) : Text :=
  sheet.set (opening.boxPlaceIn sheet) 'x'

/-- Ticking replaces the space in the box on the line of the entry. -/
theorem exists_lines_tick {sheet : Text} {opening : Opening}
    (h : opening ∈ openings (Text.lines sheet)) :
    ∃ blank rest, Text.isAllBlank blank = true ∧ opening.line = blank ++ openBox ++ rest ∧
      sheet[opening.boxPlaceIn sheet]? = some ' ' ∧
      Text.lines (opening.tick sheet) =
        (Text.lines sheet).set opening.position (blank ++ tickedBox ++ rest) := by
  have hstands := standsIn_of_mem_openings h
  obtain ⟨blank, rest, -, hblank, hline, -⟩ := entryModule?_eq_some_iff.mp hstands.module_eq
  have hspace : opening.line[boxPlace opening.line]? = some ' ' := by
    rw [hline]
    exact getElem?_boxPlace hblank rest
  have hplace : boxPlace opening.line < opening.line.length :=
    (List.getElem?_eq_some_iff.mp hspace).1
  refine ⟨blank, rest, hblank, hline, ?_, ?_⟩
  · rw [Opening.boxPlaceIn, Text.getElem?_lineStart_add hstands.line_eq hplace, hspace]
  · rw [Opening.tick, Opening.boxPlaceIn,
      Text.lines_set hstands.line_eq hplace (by decide) (by decide), hline,
      set_boxPlace hblank]

/-- **Ticking retires one block.** If no step below an entry could open a block, then ticking
the entry takes its block away and leaves all others, the title and the requirements as they
are. There is an objective as before, though its text may hold the entry. -/
theorem tick_retires_block {sheet : Text} {number : Nat} {opening : Opening}
    (hopening : (openings (Text.lines sheet))[number]? = some opening)
    (hsteps : ∀ step ∈ opening.run,
      (stepText? (stepIndent opening.line) step).isSome = true → entryModule? step = none) :
    (Text.lines sheet)[opening.position]? = some opening.line ∧
      (ofText sheet).blocks[number]? = some opening.block ∧
      (∃ blank rest, Text.isAllBlank blank = true ∧ opening.line = blank ++ "- [ ] " ++ rest ∧
        sheet[opening.boxPlaceIn sheet]? = some ' ' ∧
        Text.lines (opening.tick sheet) =
          (Text.lines sheet).set opening.position (blank ++ "- [x] " ++ rest)) ∧
      (ofText (opening.tick sheet)).blocks = (ofText sheet).blocks.eraseIdx number ∧
      (ofText (opening.tick sheet)).title = (ofText sheet).title ∧
      (ofText (opening.tick sheet)).requirements = (ofText sheet).requirements ∧
      ((ofText (opening.tick sheet)).objective = none ↔ (ofText sheet).objective = none) := by
  have hmem := List.mem_of_getElem? hopening
  have hstands := standsIn_of_mem_openings hmem
  obtain ⟨blank, rest, hblank, hline, hspace, hlines⟩ := exists_lines_tick hmem
  have hblock : (ofText sheet).blocks[number]? = some opening.block := by
    rw [ofText, ofLines, ← map_block_openings, List.getElem?_map, hopening]
    rfl
  have hrun : ∀ step ∈ opening.run, entryModule? step = none := by
    intro step hstep
    rcases step_or_blank_of_mem_stepRun (hstands.run_eq ▸ hstep) with hbox | hblank
    · exact hsteps step hstep hbox
    · exact entryModule?_of_isAllBlank hblank
  have hblocks := findBlocks_set (isInert_tickedBox hblank rest) hopening hrun
  have halike := forall₂_isAlike_set (hstands.line_eq.trans (congrArg some hline))
    (isAlike_tickedBox hblank rest)
  rw [← hlines] at hblocks halike
  refine ⟨hstands.line_eq, hblock, ⟨blank, rest, hblank, hline, hspace, hlines⟩, hblocks, ?_,
    (findRequirements?_congr halike).symm, (findObjective?_eq_none_congr halike).symm⟩
  rw [ofText, ofText, ofLines, ofLines, findTitle?_congr halike]

/-- The lines of a sheet with three entries, the second of which is indented. Its step would
be deep enough for the first one, too. -/
def threeEntries : List Text :=
  ["# Task 1: t",
    "## Requirements",
    "1. [ ] r",
    "- [ ] Validate `a`",
    "   - [ ] s",
    "",
    "  - [ ] Validate `b`",
    "   - [ ] t",
    "",
    "   - [ ] u",
    "- [ ] Validate `c`",
    "   - [ ] v"]

/-- The second entry of that sheet. -/
def secondOpening : Opening :=
  ⟨6, "  - [ ] Validate `b`", "b", ["   - [ ] t", "", "   - [ ] u"]⟩

/-- Ticking the second entry leaves the first and the third. -/
theorem tick_retires_block_secondOpening :
    (openings (Text.lines (Text.terminated threeEntries)))[1]? = some secondOpening ∧
      (∀ step ∈ secondOpening.run,
        (stepText? (stepIndent secondOpening.line) step).isSome = true →
          entryModule? step = none) ∧
      (ofText (secondOpening.tick (Text.terminated threeEntries))).blocks =
        (ofText (Text.terminated threeEntries)).blocks.eraseIdx 1 := by
  have hopening : (openings (Text.lines (Text.terminated threeEntries)))[1]? =
      some secondOpening := by decide +kernel
  have hsteps : ∀ step ∈ secondOpening.run,
      (stepText? (stepIndent secondOpening.line) step).isSome = true →
        entryModule? step = none := by decide +kernel
  exact ⟨hopening, hsteps, (tick_retires_block hopening hsteps).2.2.2.1⟩

end Outline

end TaskSheet
