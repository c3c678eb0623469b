import TaskSheet.Proofs.Titles

/-!
# The number of a task

The word of a title can stand anywhere in a text, and only where blanks, digits and a colon follow
it does it begin a title. A search that takes the first such place skips the others, and none of
them can hide it, since the parts behind a place are determined by the text. A title that is read
from the start of a text is the occurrence with nothing before it, so that reading a title and
looking for a number never disagree.
-/

namespace TaskSheet.Title

/-- The parts into which a title divides a text in which it occurs. -/
structure Occurrence where
  /-- What stands before the word. -/
  before : Text
  /-- What stands between the word and the number. -/
  gap : Text
  /-- The number. -/
  number : Text
  /-- What stands behind the colon. -/
  rest : Text

/-- A text is divided by the word, a blank run, a number and a colon. -/
structure Occurrence.StandsIn (occurrence : Occurrence) (text : Text) : Prop where
  /-- The parts make up the text. -/
  text_eq : text = occurrence.before ++ "Task" ++ occurrence.gap ++ occurrence.number ++
    ':' :: occurrence.rest
  /-- The word is set off. -/
  gap_ne_nil : occurrence.gap ≠ []
  /-- It is set off by blanks. -/
  isBlank_gap : ∀ c ∈ occurrence.gap, Text.isBlank c = true
  /-- There is a number. -/
  number_ne_nil : occurrence.number ≠ []
  /-- It is made of digits. -/
  isDigit_number : ∀ c ∈ occurrence.number, c.isDigit = true

/-- No title occurs in a text before this one. -/
structure Occurrence.IsFirstIn (occurrence : Occurrence) (text : Text) : Prop
    extends occurrence.StandsIn text where
  /-- All others have at least as much before them. -/
  length_le : ∀ other : Occurrence, other.StandsIn text →
    occurrence.before.length ≤ other.before.length

/-- A title that is read is an occurrence with nothing before it. -/
theorem parse?_eq_some_iff_standsIn {text : Text} {title : Title} :
    parse? text = some title ↔
      ∃ gap, Occurrence.StandsIn ⟨[], gap, title.number, title.name⟩ text := by
  rw [parse?_eq_some_iff]
  apply exists_congr
  intro gap
  constructor
  · rintro ⟨hgap, hblank, hnumber, hdigits, htext⟩
    exact ⟨htext, hgap, Text.isAllBlank_iff.mp hblank, hnumber, hdigits⟩
  · intro h
    exact ⟨h.gap_ne_nil, Text.isAllBlank_iff.mpr h.isBlank_gap, h.number_ne_nil,
      h.isDigit_number, h.text_eq⟩

/-- A character in front of a text belongs to what stands before the title. -/
theorem standsIn_cons_iff {first c : Char} {before gap number rest text : Text} :
    Occurrence.StandsIn ⟨c :: before, gap, number, rest⟩ (first :: text) ↔
      first = c ∧ Occurrence.StandsIn ⟨before, gap, number, rest⟩ text := by
  constructor
  · intro h
    obtain ⟨hfirst, htext⟩ := List.cons.inj h.text_eq
    exact ⟨hfirst, htext, h.gap_ne_nil, h.isBlank_gap, h.number_ne_nil, h.isDigit_number⟩
  · rintro ⟨rfl, h⟩
    exact ⟨congrArg (first :: ·) h.text_eq, h.gap_ne_nil, h.isBlank_gap, h.number_ne_nil,
      h.isDigit_number⟩

/-- A title does not occur in nothing. -/
theorem Occurrence.not_standsIn_nil (occurrence : Occurrence) : ¬occurrence.StandsIn [] := by
  intro h
  simpa using h.text_eq

/-- Where no title is read at the start of a text, every occurrence begins behind the first
character. -/
theorem Occurrence.StandsIn.exists_of_parse?_eq_none {occurrence : Occurrence} {first : Char}
    {text : Text} (h : occurrence.StandsIn (first :: text))
    (hparse : parse? (first :: text) = none) :
    ∃ later : Occurrence, later.StandsIn text ∧
      occurrence.before.length = later.before.length + 1 := by
  obtain ⟨before, gap, number, rest⟩ := occurrence
  cases before with
  | nil =>
    have hread : parse? (first :: text) = some ⟨number, rest⟩ :=
      parse?_eq_some_iff_standsIn.mpr ⟨gap, h⟩
    rw [hparse] at hread
    contradiction
  | cons c before => exact ⟨⟨before, gap, number, rest⟩, (standsIn_cons_iff.mp h).2, rfl⟩

/-- The place where a title begins determines its number. -/
theorem Occurrence.StandsIn.number_eq {first second : Occurrence} {text : Text}
    (hfirst : first.StandsIn text) (hsecond : second.StandsIn text)
    (hlength : first.before.length = second.before.length) : first.number = second.number := by
  obtain ⟨before, gap, number, rest⟩ := first
  obtain ⟨before', gap', number', rest'⟩ := second
  have hsplit : before ++ ("Task" ++ gap ++ number ++ ':' :: rest) =
      before' ++ ("Task" ++ gap' ++ number' ++ ':' :: rest') := by
    have := hfirst.text_eq.symm.trans hsecond.text_eq
    simpa only [List.append_assoc] using this
  obtain ⟨rfl, htail⟩ := List.append_inj hsplit hlength
  -- Both are read from what stands behind the same place.
  have hread : parse? ("Task" ++ gap ++ number ++ ':' :: rest) = some ⟨number, rest⟩ := by
    apply parse?_eq_some_iff_standsIn.mpr
    exact ⟨gap, rfl, hfirst.gap_ne_nil, hfirst.isBlank_gap, hfirst.number_ne_nil,
      hfirst.isDigit_number⟩
  have hread' : parse? ("Task" ++ gap ++ number ++ ':' :: rest) = some ⟨number', rest'⟩ := by
    apply parse?_eq_some_iff_standsIn.mpr
    exact ⟨gap', htail, hsecond.gap_ne_nil, hsecond.isBlank_gap, hsecond.number_ne_nil,
      hsecond.isDigit_number⟩
  rw [hread] at hread'
  exact congrArg Title.number (Option.some.inj hread')

/-- A number that is found is that of the first title. -/
theorem exists_isFirstIn_of_findNumber? {text number : Text} (h : findNumber? text = some number) :
    ∃ occurrence : Occurrence, occurrence.IsFirstIn text ∧ occurrence.number = number := by
  fun_induction findNumber? text with
  | case1 => contradiction
  | case2 first text title hparse =>
    obtain ⟨gap, hstands⟩ := parse?_eq_some_iff_standsIn.mp hparse
    exact ⟨_, ⟨hstands, fun _ _ => Nat.zero_le _⟩, Option.some.inj h⟩
  | case3 first text hparse ih =>
    obtain ⟨⟨before, gap, number, rest⟩, hfirst, rfl⟩ := ih h
    refine ⟨⟨first :: before, gap, number, rest⟩, ⟨?_, ?_⟩, rfl⟩
    · exact standsIn_cons_iff.mpr ⟨rfl, hfirst.toStandsIn⟩
    · intro other hother
      obtain ⟨later, hlater, hlength⟩ := hother.exists_of_parse?_eq_none hparse
      have hle : before.length ≤ later.before.length := hfirst.length_le later hlater
      rw [hlength, List.length_cons]
      omega

/-- No number is found only where no title occurs. -/
theorem not_standsIn_of_findNumber?_eq_none {text : Text} (h : findNumber? text = none)
    (occurrence : Occurrence) : ¬occurrence.StandsIn text := by
  fun_induction findNumber? text generalizing occurrence with
  | case1 => exact occurrence.not_standsIn_nil
  | case2 => contradiction
  | case3 first text hparse ih =>
    intro hstands
    obtain ⟨later, hlater, -⟩ := hstands.exists_of_parse?_eq_none hparse
    exact ih h later hlater

/-- The search for a number finds that of the first title. -/
theorem findNumber?_eq_some_iff {text number : Text} :
    findNumber? text = some number ↔
      ∃ occurrence : Occurrence, occurrence.IsFirstIn text ∧ occurrence.number = number := by
  constructor
  · exact exists_isFirstIn_of_findNumber?
  · rintro ⟨occurrence, hfirst, rfl⟩
    cases hfound : findNumber? text with
    | none => exact absurd hfirst.toStandsIn (not_standsIn_of_findNumber?_eq_none hfound _)
    | some found =>
      obtain ⟨other, hother, rfl⟩ := exists_isFirstIn_of_findNumber? hfound
      have hlength : other.before.length = occurrence.before.length :=
        Nat.le_antisymm (hother.length_le _ hfirst.toStandsIn)
          (hfirst.length_le _ hother.toStandsIn)
      rw [hother.number_eq hfirst.toStandsIn hlength]

/-- The search for a number fails exactly where no title occurs. -/
theorem findNumber?_eq_none_iff {text : Text} :
    findNumber? text = none ↔ ¬∃ occurrence : Occurrence, occurrence.StandsIn text := by
  constructor
  · rintro h ⟨occurrence, hstands⟩
    exact not_standsIn_of_findNumber?_eq_none h occurrence hstands
  · intro h
    rw [Option.eq_none_iff_forall_ne_some]
    intro number hnumber
    obtain ⟨occurrence, hfirst, -⟩ := exists_isFirstIn_of_findNumber? hnumber
    exact h ⟨occurrence, hfirst.toStandsIn⟩

/-- **The number of a task.** The number that is found in a text is that of the first title that
occurs in it, and none is found exactly if no title occurs. A text is a task title exactly if a
title occurs at its start and its name is not blank; then the number that is found is the one that
is read there, digit by digit as it is written. -/
theorem number_of_first_title (text : Text) :
    (∀ number, findNumber? text = some number ↔
        ∃ occurrence : Occurrence, occurrence.IsFirstIn text ∧ occurrence.number = number) ∧
      (findNumber? text = none ↔ ¬∃ occurrence : Occurrence, occurrence.StandsIn text) ∧
      (isTitle text = true ↔ ∃ occurrence : Occurrence, occurrence.StandsIn text ∧
        occurrence.before = [] ∧ ∃ c ∈ occurrence.rest, Text.isBlank c = false) ∧
      (isTitle text = true → ∃ title gap, parse? text = some title ∧
        findNumber? text = some title.number ∧
        Occurrence.StandsIn ⟨[], gap, title.number, title.name⟩ text) := by
  refine ⟨fun _ => findNumber?_eq_some_iff, findNumber?_eq_none_iff, ⟨?_, ?_⟩, ?_⟩
  · intro h
    obtain ⟨title, hparse, hvisible⟩ := isTitle_iff.mp h
    obtain ⟨gap, hstands⟩ := parse?_eq_some_iff_standsIn.mp hparse
    exact ⟨_, hstands, rfl, hvisible⟩
  · rintro ⟨⟨_, gap, number, rest⟩, hstands, rfl, hvisible⟩
    have hparse : parse? text = some ⟨number, rest⟩ :=
      parse?_eq_some_iff_standsIn.mpr ⟨gap, hstands⟩
    exact isTitle_iff.mpr ⟨_, hparse, hvisible⟩
  · intro h
    obtain ⟨title, hparse, -⟩ := isTitle_iff.mp h
    obtain ⟨gap, hstands⟩ := parse?_eq_some_iff_standsIn.mp hparse
    exact ⟨title, gap, hparse, findNumber?_of_parse? hparse, hstands⟩

/-- The word occurs four times, and only the last two begin a title. -/
example : findNumber? "Task list / Task 2a: Task\u00a0007: Task 8: x" = some ("007" : Text) := by
  decide

end TaskSheet.Title
