import TaskSheet.Outline.Reading
import TaskSheet.Proofs.Sections

/-!
# What is read from a section

Three rules for lines decide what a section states: one for its heading, which needs exactly two
number signs, blanks and the name; one for the line that ends it, which needs the two number signs
only; and one for the checkboxes in it. Cutting the lines of a sheet around the first heading of a
name shows how they fit together: what is read depends on nothing but the lines of the section, and
no line belongs to two sections.
-/

namespace TaskSheet

namespace Heading

/-- The heading of a section: two number signs, blanks, and the name in any case of its ASCII
letters. -/
def IsNamed (name line : Text) : Prop :=
  ∃ gap title tail, line = '#' :: '#' :: (gap ++ title ++ tail) ∧
    (gap ≠ [] ∧ Text.isAllBlank gap = true) ∧ Text.isAllBlank tail = true ∧
    (title ≠ [] ∧ Text.StartsVisible title ∧ Text.EndsVisible title) ∧
    title.map Char.toLower = name.map Char.toLower

/-- The lines that open a section are its headings. -/
theorem opensSection_iff_isNamed {name line : Text} :
    opensSection name line = true ↔ IsNamed name line := by
  rw [opensSection_eq_true_iff]
  constructor
  · rintro ⟨heading, hparse, hlevel, hname⟩
    obtain ⟨rest, hline, -, hindent, htext, hne⟩ := parse?_eq_some_iff.mp hparse
    obtain ⟨gap, tail, hgap, htail, hrest⟩ := Text.exists_trim rest
    rw [hlevel] at hline
    rw [htext] at hrest
    refine ⟨gap, heading.text, tail, ?_, ⟨?_, hgap⟩, htail, ⟨hne, ?_, ?_⟩, hname⟩
    · rw [hline, hrest]
      rfl
    · -- Without blanks behind the number signs the line would not be indented there.
      rintro rfl
      apply hindent
      obtain ⟨c, text, hcons⟩ := List.exists_cons_of_ne_nil hne
      have hvisible := Text.startsVisible_trim rest
      rw [htext, hcons, Text.startsVisible_cons] at hvisible
      rw [hrest, hcons, Text.indent_eq_zero_iff]
      exact Text.startsVisible_cons.mpr hvisible
    · exact htext ▸ Text.startsVisible_trim rest
    · exact htext ▸ Text.endsVisible_trim rest
  · rintro ⟨gap, title, tail, rfl, ⟨hgapne, hgap⟩, htail, ⟨hne, hstart, hend⟩, hname⟩
    have htrim : Text.trim (gap ++ title ++ tail) = title := by
      rw [Text.trim_append_of_blank htail, Text.trim_blank_append hgap,
        Text.trim_eq_self hstart hend]
    have hindent : Text.indent (gap ++ title ++ tail) ≠ 0 := by
      obtain ⟨c, gap, rfl⟩ := List.exists_cons_of_ne_nil hgapne
      have hblank := Text.isAllBlank_iff.mp hgap c List.mem_cons_self
      rw [Ne, Text.indent_eq_zero_iff]
      simp [hblank]
    refine ⟨⟨2, title⟩, parse?_eq_some_iff.mpr ?_, rfl, hname⟩
    exact ⟨gap ++ title ++ tail, rfl, Nat.succ_ne_zero 1, hindent, htrim, hne⟩

/-- A heading has one name. -/
theorem IsNamed.toLower_eq {name other line : Text} (hname : IsNamed name line)
    (hother : IsNamed other line) : name.map Char.toLower = other.map Char.toLower := by
  obtain ⟨heading, hparse, -, hheading⟩ :=
    opensSection_eq_true_iff.mp (opensSection_iff_isNamed.mpr hname)
  obtain ⟨again, hagain, -, hsame⟩ :=
    opensSection_eq_true_iff.mp (opensSection_iff_isNamed.mpr hother)
  obtain rfl := Option.some.inj (hparse.symm.trans hagain)
  exact hheading.symm.trans hsame

/-- A line ends a section if it begins with two number signs. -/
theorem breaksSection_iff {line : Text} : breaksSection line = true ↔ ['#', '#'] <+: line :=
  List.isPrefixOf_iff_prefix

/-- The heading of a section ends the section before it. -/
theorem IsNamed.prefix {name line : Text} (h : IsNamed name line) : ['#', '#'] <+: line :=
  breaksSection_iff.mp (breaksSection_of_opensSection (opensSection_iff_isNamed.mpr h))

end Heading

namespace Outline

/-- Lines that are cut in four. -/
structure Cut where
  /-- The lines before the heading. -/
  before : List Text
  /-- The heading. -/
  heading : Text
  /-- The lines between the heading and the next line that ends a section. -/
  body : List Text
  /-- The lines from there on. -/
  rest : List Text

namespace Cut

/-- Lines are cut around the first section with a name. -/
structure Isolates (cut : Cut) (name : Text) (lines : List Text) : Prop where
  /-- The parts make up the lines. -/
  lines_eq : lines = cut.before ++ cut.heading :: (cut.body ++ cut.rest)
  /-- No heading of this name comes earlier. -/
  before_other : ∀ line ∈ cut.before, ¬Heading.IsNamed name line
  /-- The heading has the name. -/
  heading_named : Heading.IsNamed name cut.heading
  /-- No line of the section ends it. -/
  body_stays : ∀ line ∈ cut.body, ¬['#', '#'] <+: line
  /-- The line behind the section, if there is one, ends it. -/
  rest_breaks : ∀ line ∈ cut.rest.head?, ['#', '#'] <+: line

/-- Whether a line belongs to the section, given its place in the sheet. -/
def Holds (cut : Cut) (place : Nat) : Prop :=
  cut.before.length < place ∧ place ≤ cut.before.length + cut.body.length

namespace Isolates

variable {cut : Cut} {name : Text} {lines : List Text} (h : cut.Isolates name lines)

include h

/-- The search for a section finds the lines that are cut out. -/
theorem sectionLines?_eq : sectionLines? name lines = some cut.body := by
  rw [h.lines_eq]
  apply sectionLines?_eq_some
  · intro line hline
    rw [← Bool.not_eq_true, Heading.opensSection_iff_isNamed]
    exact h.before_other line hline
  · exact Heading.opensSection_iff_isNamed.mpr h.heading_named
  · intro line hline
    rw [← Bool.not_eq_true, Heading.breaksSection_iff]
    exact h.body_stays line hline
  · exact fun line hline => Heading.breaksSection_iff.mpr (h.rest_breaks line hline)

/-- The heading stands behind the lines before it. -/
theorem getElem?_heading : lines[cut.before.length]? = some cut.heading := by
  rw [h.lines_eq, List.getElem?_append_right (Nat.le_refl _), Nat.sub_self]
  rfl

/-- A line of the section does not end it. -/
theorem stays_of_holds {place : Nat} {line : Text} (hholds : cut.Holds place)
    (hline : lines[place]? = some line) : ¬['#', '#'] <+: line := by
  obtain ⟨hfirst, hlast⟩ := hholds
  apply h.body_stays
  obtain ⟨offset, rfl⟩ := Nat.exists_eq_add_of_lt hfirst
  rw [h.lines_eq, List.getElem?_append_right (by omega)] at hline
  have hoffset : cut.before.length + offset + 1 - cut.before.length = offset + 1 := by omega
  rw [hoffset, List.getElem?_cons_succ, List.getElem?_append_left (by omega)] at hline
  exact List.mem_of_getElem? hline

/-- No section holds the heading of another one. -/
theorem not_holds_heading {second : Cut} {other : Text} (hsecond : second.Isolates other lines) :
    ¬cut.Holds second.before.length := by
  intro hholds
  exact h.stays_of_holds hholds hsecond.getElem?_heading hsecond.heading_named.prefix

/-- Sections with different names share no line. -/
theorem not_holds_and_holds {second : Cut} {other : Text} (hsecond : second.Isolates other lines)
    (hother : name.map Char.toLower ≠ other.map Char.toLower) (place : Nat) :
    ¬(cut.Holds place ∧ second.Holds place) := by
  rintro ⟨⟨hafter, hbefore⟩, ⟨hafter', hbefore'⟩⟩
  rcases Nat.lt_trichotomy cut.before.length second.before.length with hlt | heq | hlt
  · apply h.not_holds_heading hsecond
    exact ⟨hlt, by omega⟩
  · apply hother
    have hsame : cut.heading = second.heading := by
      have hheading := h.getElem?_heading
      rw [heq, hsecond.getElem?_heading] at hheading
      exact (Option.some.inj hheading).symm
    exact h.heading_named.toLower_eq (hsame ▸ hsecond.heading_named)
  · apply hsecond.not_holds_heading h
    exact ⟨hlt, by omega⟩

end Isolates

/-- Lines can be cut around a section exactly if it has a heading. -/
theorem exists_isolates_iff {name : Text} {lines : List Text} :
    (∃ cut : Cut, cut.Isolates name lines) ↔ ∃ line ∈ lines, Heading.IsNamed name line := by
  constructor
  · rintro ⟨cut, h⟩
    exact ⟨cut.heading, List.mem_of_getElem? h.getElem?_heading, h.heading_named⟩
  · rintro ⟨line, hline, hnamed⟩
    cases hbody : sectionLines? name lines with
    | none =>
      have hnone := sectionLines?_eq_none_iff.mp hbody line hline
      rw [Heading.opensSection_iff_isNamed.mpr hnamed] at hnone
      contradiction
    | some body =>
      obtain ⟨before, heading, rest, hlines, hbefore, hheading, hstays, hbreaks⟩ :=
        sectionLines?_eq_some_iff.mp hbody
      refine ⟨⟨before, heading, body, rest⟩, hlines, ?_, ?_, ?_, ?_⟩
      · intro other hother
        rw [← Heading.opensSection_iff_isNamed, hbefore other hother]
        exact Bool.false_ne_true
      · exact Heading.opensSection_iff_isNamed.mp hheading
      · intro other hother
        rw [← Heading.breaksSection_iff, hstays other hother]
        exact Bool.false_ne_true
      · exact fun other hother => Heading.breaksSection_iff.mp (hbreaks other hother)

end Cut

/-- A part of an outline is read from the section with a name: it is there exactly if some line is
a heading of this name, it is what the lines of the section state, and sheets that agree in these
lines agree in the part, whatever else they hold. -/
structure IsReadFrom {α : Type} (part : Outline → Option α) (name : Text)
    (states : List Text → α → Prop) : Prop where
  /-- Without a heading there is no section. -/
  eq_none_iff : ∀ sheet, part (ofText sheet) = none ↔
    ∀ line ∈ Text.lines sheet, ¬Heading.IsNamed name line
  /-- With a heading the sheet can be cut around the section. -/
  exists_cut : ∀ sheet, part (ofText sheet) ≠ none →
    ∃ cut : Cut, cut.Isolates name (Text.lines sheet)
  /-- Then the part is what the lines of the section state. -/
  states_body : ∀ sheet (cut : Cut), cut.Isolates name (Text.lines sheet) →
    ∃ result, part (ofText sheet) = some result ∧ states cut.body result
  /-- Nothing else has an influence on it. -/
  congr_body : ∀ sheet other (cut changed : Cut), cut.Isolates name (Text.lines sheet) →
    changed.Isolates name (Text.lines other) → changed.body = cut.body →
    part (ofText other) = part (ofText sheet)

/-- What is read from the lines that a search for a section finds is read from the section. -/
theorem isReadFrom_of_sectionLines? {α : Type} {part : Outline → Option α} {name : Text}
    {read : List Text → α} {states : List Text → α → Prop}
    (hpart : ∀ sheet, part (ofText sheet) = (sectionLines? name (Text.lines sheet)).map read)
    (hstates : ∀ body, states body (read body)) : IsReadFrom part name states := by
  have hnone : ∀ sheet, part (ofText sheet) = none ↔
      ∀ line ∈ Text.lines sheet, ¬Heading.IsNamed name line := by
    intro sheet
    rw [hpart, Option.map_eq_none_iff, sectionLines?_eq_none_iff]
    simp only [← Heading.opensSection_iff_isNamed, Bool.not_eq_true]
  have hbody : ∀ sheet (cut : Cut), cut.Isolates name (Text.lines sheet) →
      part (ofText sheet) = some (read cut.body) := by
    intro sheet cut hcut
    rw [hpart, hcut.sectionLines?_eq, Option.map_some]
  refine ⟨hnone, ?_, ?_, ?_⟩
  · intro sheet hsome
    apply Cut.exists_isolates_iff.mpr
    rw [Ne, hnone] at hsome
    simpa using hsome
  · exact fun sheet cut hcut => ⟨_, hbody sheet cut hcut, hstates cut.body⟩
  · intro sheet other cut changed hcut hchanged hsame
    rw [hbody sheet cut hcut, hbody other changed hchanged, hsame]

/-- The requirement that a line states: the text of a numbered checkbox, ticked or not. -/
def requirement? (line : Text) : Option Text :=
  match Checkbox.parse? line with
  | some ⟨_, .numbered, _, text⟩ => some text
  | _ => none

/-- Requirements are those of the lines, in order, with a flag that is up if some line is a
checkbox of any kind. -/
def StatesRequirements (body : List Text) (requirements : Requirements) : Prop :=
  requirements.items = body.filterMap requirement? ∧
    (requirements.usesCheckboxes = true ↔
      ∃ line ∈ body, (Checkbox.parse? line).isSome = true)

/-- The items that are read from a section are the requirements of its lines. -/
theorem items_readRequirements (body : List Text) :
    (readRequirements body).items = body.filterMap requirement? := by
  induction body with
  | nil => rfl
  | cons line body ih =>
    simp only [readRequirements] at ih ⊢
    match hline : Checkbox.parse? line with
    | none => simp [requirement?, hline, ih]
    | some ⟨indent, .bullet, checked, text⟩ => simp [requirement?, hline, ih]
    | some ⟨indent, .numbered, checked, text⟩ => simp [requirement?, hline, ih]

/-- The requirements that are read from a section are those that its lines state. -/
theorem statesRequirements_readRequirements (body : List Text) :
    StatesRequirements body (readRequirements body) := by
  refine ⟨items_readRequirements body, ?_⟩
  simp [readRequirements, Option.isSome_iff_ne_none]

/-- **Sections in isolation.** The objective of a sheet is the text of the section with this name,
without blanks at either end, and the requirements are those that the lines of their section state.
Each of the two is read from its own section and from nothing else, later sections of the same name
included, and no line belongs to both. -/
theorem sections_read_in_isolation :
    IsReadFrom Outline.objective "Objective"
        (fun body objective => objective = Text.trim (Text.unlines body)) ∧
      IsReadFrom Outline.requirements "Requirements" StatesRequirements ∧
      ∀ sheet (first second : Cut), first.Isolates "Objective" (Text.lines sheet) →
        second.Isolates "Requirements" (Text.lines sheet) →
        ∀ place, ¬(first.Holds place ∧ second.Holds place) := by
  refine ⟨?_, ?_, ?_⟩
  · exact isReadFrom_of_sectionLines? (fun _ => rfl) fun _ => rfl
  · exact isReadFrom_of_sectionLines? (fun _ => rfl) statesRequirements_readRequirements
  · intro sheet first second hfirst hsecond
    exact hfirst.not_holds_and_holds hsecond (by decide)

/-- Neither the wrong level nor missing blanks open the section, and its name may be shouted. -/
example :
    findObjective? ["### Objective", "##Objective", "##\u2003OBJECTIVE ", "", "# A", "B", "##x",
      "## Objective", "C"] = some ("# A\nB" : Text) := by
  decide

end Outline

end TaskSheet
