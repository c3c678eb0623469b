import TaskSheet.Line.Entry
import TaskSheet.Prompt
import TaskSheet.Proofs.CheckboxGrammar

/-!
# Lines that are open boxes

Steps and entries are read in two passes over one line: a test for the literal box, and
a reader of checkboxes that is more tolerant about blanks. The two agree on where the
box stands. A line passes both exactly when it is an indentation, the literal box, and a
text that is not blank, and the text that is read is what trimming leaves of that last
part. An entry is a step whose text names a module, and how deep a step is indented decides
where it counts as one, but not how it reads.
-/

namespace TaskSheet

/-- A box begins visibly. -/
theorem startsVisible_openBox_append (rest : Text) : Text.StartsVisible (openBox ++ rest) :=
  Text.startsVisible_cons.mpr (by decide)

/-- The test for the literal box skips any indentation. -/
theorem isOpenBox_iff {line : Text} :
    isOpenBox line = true ↔
      ∃ blank rest, Text.isAllBlank blank = true ∧ line = blank ++ openBox ++ rest := by
  rw [isOpenBox, List.isPrefixOf_iff_prefix]
  constructor
  · rintro ⟨rest, hrest⟩
    obtain ⟨blank, hblank, _, hline⟩ := Text.exists_indent line
    exact ⟨blank, rest, hblank, by rw [List.append_assoc, hrest, ← hline]⟩
  · rintro ⟨blank, rest, hblank, rfl⟩
    rw [List.append_assoc, Text.trimStart_append_of_blank hblank,
      (startsVisible_openBox_append rest).trimStart]
    exact List.prefix_append openBox rest

namespace Checkbox

/-- The reader of checkboxes finds the literal box behind any indentation, and the text
behind the box. -/
theorem parse?_openBox {blank : Text} (hblank : Text.isAllBlank blank = true) (rest : Text) :
    parse? (blank ++ openBox ++ rest) =
      if Text.trim rest = [] then none
      else some ⟨blank.length, .bullet, false, Text.trim rest⟩ := by
  have hparts : blank ++ openBox ++ rest =
      blank ++ ['-', ' '] ++ [] ++ ['[', ' ', ']'] ++ ' ' :: rest := by
    simp only [List.append_assoc]
    rfl
  rw [hparts, parse?_of_spells hblank .dash rfl .spaced, Text.trim_space_cons]

end Checkbox

/-- What a step line reads as is decided by its indentation and the text behind the box. -/
theorem stepText?_openBox {blank : Text} (hblank : Text.isAllBlank blank = true) (least : Nat)
    (rest : Text) :
    stepText? least (blank ++ openBox ++ rest) =
      if Text.trim rest = [] ∨ blank.length < least then none else some (Text.trim rest) := by
  rw [stepText?, if_pos (isOpenBox_iff.mpr ⟨blank, rest, hblank, rfl⟩),
    Checkbox.parse?_openBox hblank]
  by_cases hempty : Text.trim rest = []
  · simp [hempty]
  · simp [hempty]

/-- A step is an indentation that is deep enough, the literal box, and a text that is not
blank. -/
theorem stepText?_eq_some_iff {least : Nat} {line text : Text} :
    stepText? least line = some text ↔
      ∃ blank rest, Text.isAllBlank blank = true ∧ line = blank ++ openBox ++ rest ∧
        least ≤ blank.length ∧ Text.trim rest = text ∧ text ≠ [] := by
  constructor
  · intro h
    have hbox : isOpenBox line = true := by
      by_contra hbox
      simp [stepText?, hbox] at h
    obtain ⟨blank, rest, hblank, rfl⟩ := isOpenBox_iff.mp hbox
    rw [stepText?_openBox hblank, Option.ite_none_left_eq_some, not_or, not_lt] at h
    obtain ⟨⟨hempty, hleast⟩, htext⟩ := h
    have htext : Text.trim rest = text := Option.some.inj htext
    exact ⟨blank, rest, hblank, rfl, hleast, htext, htext ▸ hempty⟩
  · rintro ⟨blank, rest, hblank, rfl, hleast, rfl, hne⟩
    rw [stepText?_openBox hblank, if_neg (by simp [hne, hleast])]

/-- A quoted name is what stands before the first backquote, unless that is nothing. -/
theorem quotedName?_eq_some_iff {text name : Text} :
    quotedName? text = some name ↔
      name ≠ [] ∧ backquote ∉ name ∧ ∃ rest, text = name ++ backquote :: rest := by
  have hsplit : text.takeWhile (· != backquote) ++ text.dropWhile (· != backquote) = text :=
    List.takeWhile_append_dropWhile
  constructor
  · intro h
    have hname : backquote ∉ text.takeWhile (· != backquote) := by
      intro hmem
      simpa using List.mem_takeWhile_imp hmem
    have hlength : (text.takeWhile (· != backquote)).length ≠ text.length ∧
        text.takeWhile (· != backquote) ≠ [] ∧ text.takeWhile (· != backquote) = name := by
      by_cases hempty : text.takeWhile (· != backquote) = []
      · simp [quotedName?, hempty] at h
      · by_cases hall : (text.takeWhile (· != backquote)).length = text.length
        · simp [quotedName?, hall] at h
        · exact ⟨hall, hempty, by simpa [quotedName?, hempty, hall] using h⟩
    obtain ⟨hall, hempty, rfl⟩ := hlength
    refine ⟨hempty, hname, ?_⟩
    cases hdrop : text.dropWhile (· != backquote) with
    | nil =>
      rw [hdrop, List.append_nil] at hsplit
      exact absurd (congrArg List.length hsplit) hall
    | cons c rest =>
      have hc : c = backquote := by
        have h := List.head?_dropWhile_not (· != backquote) text
        simpa [hdrop] using h
      rw [hdrop, hc] at hsplit
      exact ⟨rest, hsplit.symm⟩
  · rintro ⟨hne, hmem, rest, rfl⟩
    have hvisible : ∀ c ∈ name, (c != backquote) = true :=
      fun c hc => bne_iff_ne.mpr fun heq => hmem (heq ▸ hc)
    have htake : (name ++ backquote :: rest).takeWhile (· != backquote) = name :=
      takeWhile_append_of_stop hvisible (by simp)
    simp [quotedName?, htake, hne]

/-- The word with which the text of an entry begins, and the backquote that opens the
name of the module. -/
def entryStart : Text := "Validate `"

/-- A written entry is the literal box, the word, and the quoted module. -/
theorem openEntry_eq (module : Text) :
    Prompt.openEntry module = openBox ++ (entryStart ++ module ++ [backquote]) := by
  have hstart : ("- [ ] Validate `" : Text) = openBox ++ entryStart := by decide
  have hend : ("`" : Text) = [backquote] := by decide
  have hparts : Prompt.openEntry module = openBox ++ entryStart ++ module ++ [backquote] := by
    unfold Prompt.openEntry
    exact congrArg₂ (· ++ module ++ ·) hstart hend
  rw [hparts, List.append_assoc, List.append_assoc, List.append_assoc]

/-- The module of an entry is looked for in the trimmed text behind the box. -/
theorem entryModule?_openBox {blank : Text} (hblank : Text.isAllBlank blank = true)
    (rest : Text) :
    entryModule? (blank ++ openBox ++ rest) =
      (Text.after? entryStart (Text.trim rest)).bind quotedName? := by
  rw [entryModule?, if_pos (isOpenBox_iff.mpr ⟨blank, rest, hblank, rfl⟩),
    Checkbox.parse?_openBox hblank]
  by_cases hempty : Text.trim rest = []
  · have hnone : Text.after? entryStart [] = none := by decide
    simp only [hempty, if_true, hnone, Option.bind_none]
  · simp only [hempty, if_false]
    rfl

/-- An entry is an indentation, the literal box, and a text that, once trimmed, begins
with the word and a quoted name. -/
theorem entryModule?_eq_some_iff {line module : Text} :
    entryModule? line = some module ↔
      ∃ blank rest tail, Text.isAllBlank blank = true ∧ line = blank ++ openBox ++ rest ∧
        Text.trim rest = entryStart ++ module ++ backquote :: tail ∧
        module ≠ [] ∧ backquote ∉ module := by
  constructor
  · intro h
    have hbox : isOpenBox line = true := by
      by_contra hbox
      simp [entryModule?, hbox] at h
    obtain ⟨blank, rest, hblank, rfl⟩ := isOpenBox_iff.mp hbox
    rw [entryModule?_openBox hblank] at h
    obtain ⟨quoted, hafter, hname⟩ := Option.bind_eq_some_iff.mp h
    obtain ⟨hne, hmem, tail, rfl⟩ := quotedName?_eq_some_iff.mp hname
    rw [Text.after?_eq_some_iff, ← List.append_assoc] at hafter
    exact ⟨blank, rest, tail, hblank, rfl, hafter, hne, hmem⟩
  · rintro ⟨blank, rest, tail, hblank, rfl, htrim, hne, hmem⟩
    have hafter : Text.after? entryStart (Text.trim rest) = some (module ++ backquote :: tail) := by
      rw [Text.after?_eq_some_iff, htrim, List.append_assoc]
    rw [entryModule?_openBox hblank, hafter]
    exact quotedName?_eq_some_iff.mpr ⟨hne, hmem, tail, rfl⟩

/-- A line that begins visibly, but not with the dash of a box, is no open box. -/
theorem isOpenBox_cons {c : Char} (hvisible : Text.isBlank c = false) (hne : c ≠ '-')
    (rest : Text) : isOpenBox (c :: rest) = false := by
  have hdash : openBox = '-' :: [' ', '[', ' ', ']', ' '] := by decide
  rw [isOpenBox, (Text.startsVisible_cons.mpr hvisible).trimStart, hdash,
    List.isPrefixOf_cons_cons, beq_eq_false_iff_ne.mpr hne.symm, Bool.false_and]

/-- A line that begins visibly, but not with the dash of a box, is no entry. -/
theorem entryModule?_cons {c : Char} (hvisible : Text.isBlank c = false) (hne : c ≠ '-')
    (rest : Text) : entryModule? (c :: rest) = none := by
  simp [entryModule?, isOpenBox_cons hvisible hne]

/-- A line that begins visibly, but not with the dash of a box, is no step. -/
theorem stepText?_cons {c : Char} (hvisible : Text.isBlank c = false) (hne : c ≠ '-')
    (least : Nat) (rest : Text) : stepText? least (c :: rest) = none := by
  simp [stepText?, isOpenBox_cons hvisible hne]

/-- A step with much indentation is the same step where less is demanded. -/
theorem stepText?_of_le {least more : Nat} (hle : least ≤ more) {line text : Text}
    (h : stepText? more line = some text) : stepText? least line = some text := by
  obtain ⟨blank, rest, hblank, hline, hmore, htext⟩ := stepText?_eq_some_iff.mp h
  exact stepText?_eq_some_iff.mpr ⟨blank, rest, hblank, hline, Nat.le_trans hle hmore, htext⟩

/-- A line that is no step with little indentation is no step with more. -/
theorem stepText?_eq_none_of_le {least more : Nat} (hle : least ≤ more) {line : Text}
    (h : stepText? least line = none) : stepText? more line = none := by
  rw [Option.eq_none_iff_forall_ne_some] at h ⊢
  exact fun text hstep => h text (stepText?_of_le hle hstep)

/-- Blank characters behind a line do not matter for the step. -/
theorem stepText?_append_of_blank {blank : Text} (h : Text.isAllBlank blank = true) (least : Nat)
    (line : Text) : stepText? least (line ++ blank) = stepText? least line := by
  ext text
  rw [stepText?_eq_some_iff, stepText?_eq_some_iff]
  constructor
  · rintro ⟨start, rest, hstart, hline, hleast, htrim, hne⟩
    rcases List.append_eq_append_iff.mp hline with ⟨middle, -, hblank⟩ | ⟨middle, hline, hrest⟩
    · -- Then nothing visible stands behind the box.
      have hrest : Text.isAllBlank rest = true := by
        rw [hblank, Text.isAllBlank, List.all_append, Bool.and_eq_true] at h
        exact h.2
      exact absurd (htrim.symm.trans (Text.trim_eq_nil_iff.mpr hrest)) hne
    · rw [hrest, Text.trim_append_of_blank h] at htrim
      exact ⟨start, middle, hstart, hline, hleast, htrim, hne⟩
  · rintro ⟨start, rest, hstart, rfl, hleast, htrim, hne⟩
    exact ⟨start, rest ++ blank, hstart, List.append_assoc _ _ _, hleast,
      (Text.trim_append_of_blank h rest).trans htrim, hne⟩

/-- How deep a line is indented decides whether it is a step, but not what it reads as. -/
theorem stepText?_eq_ite (least : Nat) (line : Text) :
    stepText? least line = if least ≤ Text.indent line then stepText? 0 line else none := by
  by_cases hbox : isOpenBox line = true
  · obtain ⟨blank, rest, hblank, rfl⟩ := isOpenBox_iff.mp hbox
    have hindent : Text.indent (blank ++ openBox ++ rest) = blank.length := by
      rw [List.append_assoc, Text.indent_append hblank (startsVisible_openBox_append rest)]
    rw [hindent, stepText?_openBox hblank, stepText?_openBox hblank]
    by_cases hleast : least ≤ blank.length
    · simp [hleast, Nat.not_lt.mpr hleast]
    · simp [hleast, Nat.lt_of_not_le hleast]
  · simp [stepText?, hbox]

/-- A text begins with the word and the module between backquotes. -/
def NamesModule (text module : Text) : Prop :=
  ∃ rest, text = entryStart ++ module ++ backquote :: rest ∧ module ≠ [] ∧ backquote ∉ module

/-- An entry is a step of any indentation whose text names a module. -/
theorem entryModule?_eq_some_iff_namesModule {line module : Text} :
    entryModule? line = some module ↔
      ∃ text, stepText? 0 line = some text ∧ NamesModule text module := by
  rw [entryModule?_eq_some_iff]
  constructor
  · rintro ⟨blank, rest, tail, hblank, hline, htrim, hne, hquote⟩
    have hvisible : Text.trim rest ≠ [] := by
      rw [htrim]
      exact List.append_ne_nil_of_right_ne_nil _ (List.cons_ne_nil _ _)
    have hstep : stepText? 0 line = some (Text.trim rest) :=
      stepText?_eq_some_iff.mpr ⟨blank, rest, hblank, hline, Nat.zero_le _, rfl, hvisible⟩
    exact ⟨Text.trim rest, hstep, tail, htrim, hne, hquote⟩
  · rintro ⟨text, hstep, tail, htext, hne, hquote⟩
    obtain ⟨blank, rest, hblank, hline, -, htrim, -⟩ := stepText?_eq_some_iff.mp hstep
    exact ⟨blank, rest, tail, hblank, hline, htrim.trans htext, hne, hquote⟩

/-- An entry is a step exactly where its indentation is deep enough. -/
theorem exists_stepText?_iff_of_entryModule? {line module : Text}
    (h : entryModule? line = some module) (least : Nat) :
    (∃ text, stepText? least line = some text) ↔ least ≤ Text.indent line := by
  obtain ⟨text, hstep, -⟩ := entryModule?_eq_some_iff_namesModule.mp h
  rw [stepText?_eq_ite, hstep]
  by_cases hleast : least ≤ Text.indent line
  · simp [hleast]
  · simp [hleast]

/-- **Steps and entries are open boxes.** A step is an indentation that is deep enough, the literal
box, and a text that is not blank; an entry is a step of any indentation whose text names a module.
So an entry is also a step wherever no more indentation is demanded than it has, and a higher demand
takes steps away, but changes the text of none. -/
theorem steps_and_entries_are_open_boxes (line : Text) :
    (∀ least text, stepText? least line = some text ↔
        ∃ blank rest, Text.isAllBlank blank = true ∧ line = blank ++ openBox ++ rest ∧
          least ≤ blank.length ∧ Text.trim rest = text ∧ text ≠ []) ∧
      (∀ module, entryModule? line = some module ↔
        ∃ text, stepText? 0 line = some text ∧ NamesModule text module) ∧
      (∀ module, entryModule? line = some module → ∀ least,
        (∃ text, stepText? least line = some text) ↔ least ≤ Text.indent line) ∧
      ∀ least more, least ≤ more →
        stepText? more line = none ∨ stepText? more line = stepText? least line := by
  refine ⟨fun _ _ => stepText?_eq_some_iff, fun _ => entryModule?_eq_some_iff_namesModule,
    fun _ => exists_stepText?_iff_of_entryModule?, fun least more hle => ?_⟩
  cases hmore : stepText? more line with
  | none => exact .inl rfl
  | some text => exact .inr (stepText?_of_le hle hmore).symm

/-- An indented line that is an entry as well as a step. -/
def nestedLine : Text := "\t \u2003 - [ ]  Validate \x60a b.py\x60 first \r"

/-- The line is an entry for its module, a step where at most four blanks are demanded, and reads
the same where fewer are. -/
theorem steps_and_entries_are_open_boxes_nestedLine :
    entryModule? nestedLine = some "a b.py" ∧
      (∃ text, stepText? 4 nestedLine = some text) ∧
      (¬∃ text, stepText? 5 nestedLine = some text) ∧
      stepText? 4 nestedLine = stepText? 3 nestedLine := by
  obtain ⟨-, -, hentry, hthreshold⟩ := steps_and_entries_are_open_boxes nestedLine
  have hmodule : entryModule? nestedLine = some "a b.py" := by decide
  have hstep : ∃ text, stepText? 4 nestedLine = some text :=
    (hentry _ hmodule 4).mpr (by decide)
  refine ⟨hmodule, hstep, mt (hentry _ hmodule 5).mp (by decide), ?_⟩
  obtain ⟨text, htext⟩ := hstep
  rcases hthreshold 3 4 (by decide) with hnone | hsame
  · rw [hnone] at htext
    contradiction
  · exact hsame

end TaskSheet
