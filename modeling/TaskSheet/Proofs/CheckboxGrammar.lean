import TaskSheet.Line.Checkbox
import TaskSheet.Proofs.Blanks

/-!
# The grammar of checkboxes

A checkbox is written as an indentation, a list marker, blanks, a box and a text. The reader goes
over its line once from the left: it settles for a kind of marker at the first character, trims,
settles for a kind of box, and trims again. Nothing is lost by that. Every part of the grammar
begins visibly, so that a run of blanks ends where the next part begins, and no two kinds of marker
or box can stand at one place. Hence the reader accepts exactly the lines of the grammar, and a line
never writes two checkboxes.
-/

namespace TaskSheet

/-- How a list marker is written. -/
inductive Marker.Spells : Marker → Text → Prop where
  /-- A dash and a space. -/
  | dash : Spells .bullet ['-', ' ']
  /-- A star and a space. -/
  | star : Spells .bullet ['*', ' ']
  /-- A run of digits of any length, a point and a blank. -/
  | number {digits : Text} {blank : Char} (hne : digits ≠ [])
      (hdigits : ∀ c ∈ digits, c.isDigit = true) (hblank : Text.isBlank blank = true) :
      Spells .numbered (digits ++ ['.', blank])

/-- How a box is written, open or ticked. -/
inductive Checkbox.SpellsBox : Bool → Text → Prop where
  /-- An open box with a space. -/
  | spaced : SpellsBox false ['[', ' ', ']']
  /-- An open box without one. -/
  | tight : SpellsBox false ['[', ']']
  /-- A tick with a small letter. -/
  | small : SpellsBox true ['[', 'x', ']']
  /-- A tick with a capital. -/
  | capital : SpellsBox true ['[', 'X', ']']

/-- The parts into which a checkbox divides its line. -/
structure Checkbox.Parts where
  /-- What stands before the marker. -/
  indentation : Text
  /-- The list marker. -/
  marker : Text
  /-- What stands between the marker and the box. -/
  gap : Text
  /-- The box. -/
  box : Text
  /-- What stands behind the box. -/
  rest : Text

/-- Parts make up a line, and each is written as the checkbox asks. -/
structure Checkbox.Parts.Spell (parts : Parts) (box : Checkbox) (line : Text) : Prop where
  /-- The parts make up the line. -/
  line_eq : line = parts.indentation ++ parts.marker ++ parts.gap ++ parts.box ++ parts.rest
  /-- The line is indented by blanks. -/
  indentation_blank : Text.isAllBlank parts.indentation = true
  /-- There are as many of them as the checkbox says. -/
  indentation_length : parts.indentation.length = box.indent
  /-- The marker is one of its kind. -/
  marker_spells : box.marker.Spells parts.marker
  /-- Before the box there are at most further blanks. -/
  gap_blank : Text.isAllBlank parts.gap = true
  /-- The box is open or ticked. -/
  box_spells : SpellsBox box.checked parts.box
  /-- The text is what trimming leaves behind the box. -/
  rest_trim : Text.trim parts.rest = box.text
  /-- There is a text. -/
  text_ne_nil : box.text ≠ []

/-- A line can be divided into the parts of a checkbox. -/
def Checkbox.IsWrittenOn (box : Checkbox) (line : Text) : Prop :=
  ∃ parts : Parts, parts.Spell box line

namespace Marker

/-- A run of digits with a point is a marker if a blank follows. -/
theorem parse?_digits {digits rest : Text} (hne : digits ≠ [])
    (hdigits : ∀ c ∈ digits, c.isDigit = true) :
    parse? (digits ++ '.' :: rest) =
      if Text.indent rest = 0 then none else some (numbered, rest) := by
  have hstop : ∀ c ∈ ('.' :: rest).head?, c.isDigit = false := by simp
  have htake := takeWhile_append_of_stop hdigits hstop
  have hdrop := dropWhile_append_of_stop hdigits hstop
  obtain ⟨d, more, rfl⟩ := List.exists_cons_of_ne_nil hne
  -- A digit is neither a dash nor a star.
  have hfirst : ∀ c tail, d :: more ++ '.' :: rest = c :: tail → c.isDigit = true := by
    intro c tail hcons
    obtain ⟨rfl, -⟩ := List.cons.inj hcons
    exact hdigits d List.mem_cons_self
  rw [parse?, htake, hdrop]
  · rfl
  · exact fun tail htail => absurd (hfirst _ _ htail) (by decide)
  · exact fun tail htail => absurd (hfirst _ _ htail) (by decide)

/-- What is read as a marker is written as one. Behind it stands what is left over, but for the
blank behind a number. -/
theorem exists_spells_of_parse? {marker : Marker} {body rest : Text}
    (h : parse? body = some (marker, rest)) :
    ∃ written behind, marker.Spells written ∧ body = written ++ behind ∧
      Text.trimStart rest = Text.trimStart behind := by
  unfold parse? at h
  split at h
  · obtain ⟨rfl, rfl⟩ := Prod.mk.inj (Option.some.inj h)
    exact ⟨_, _, .dash, rfl, rfl⟩
  · obtain ⟨rfl, rfl⟩ := Prod.mk.inj (Option.some.inj h)
    exact ⟨_, _, .star, rfl, rfl⟩
  · split at h
    · rename_i d digits tail htake hdrop
      split at h
      · contradiction
      · rename_i hindent
        obtain ⟨rfl, rfl⟩ := Prod.mk.inj (Option.some.inj h)
        obtain ⟨blank, behind, rfl, hblank⟩ := Text.indent_ne_zero_iff.mp hindent
        have hdigits : ∀ c ∈ d :: digits, c.isDigit = true := by
          rw [← htake]
          exact fun c hc => List.mem_takeWhile_imp hc
        refine ⟨_, behind, .number (List.cons_ne_nil d digits) hdigits hblank, ?_, ?_⟩
        · rw [← htake, List.append_assoc, List.cons_append, List.singleton_append, ← hdrop,
            List.takeWhile_append_dropWhile]
        · exact Text.trimStart_cons_of_isBlank hblank behind
    · contradiction

/-- What is written as a marker is read as one. -/
theorem Spells.exists_parse? {marker : Marker} {written : Text} (h : marker.Spells written)
    (behind : Text) :
    ∃ rest, parse? (written ++ behind) = some (marker, rest) ∧
      Text.trimStart rest = Text.trimStart behind := by
  cases h with
  | dash => exact ⟨behind, rfl, rfl⟩
  | star => exact ⟨behind, rfl, rfl⟩
  | @number digits blank hne hdigits hblank =>
    refine ⟨blank :: behind, ?_, ?_⟩
    · rw [List.append_assoc, List.cons_append, List.singleton_append, parse?_digits hne hdigits,
        if_neg (Text.indent_ne_zero_iff.mpr ⟨blank, behind, rfl, hblank⟩)]
    · exact Text.trimStart_cons_of_isBlank hblank behind

/-- A marker begins visibly. -/
theorem Spells.startsVisible_append {marker : Marker} {written : Text} (h : marker.Spells written)
    (behind : Text) : Text.StartsVisible (written ++ behind) := by
  cases h with
  | dash => exact Text.startsVisible_cons.mpr (by decide)
  | star => exact Text.startsVisible_cons.mpr (by decide)
  | @number digits blank hne hdigits hblank =>
    obtain ⟨d, more, rfl⟩ := List.exists_cons_of_ne_nil hne
    exact Text.startsVisible_cons.mpr (Text.isBlank_of_isDigit (hdigits d List.mem_cons_self))

end Marker

namespace Checkbox

/-- A box begins visibly. -/
theorem SpellsBox.startsVisible_append {checked : Bool} {written : Text}
    (h : SpellsBox checked written) (behind : Text) : Text.StartsVisible (written ++ behind) := by
  cases h <;> exact Text.startsVisible_cons.mpr (by decide)

/-- What is read as a box is written as one, and the other way round. -/
theorem parseBox?_eq_some_iff {checked : Bool} {body rest : Text} :
    parseBox? body = some (checked, rest) ↔
      ∃ written, SpellsBox checked written ∧ body = written ++ rest := by
  constructor
  · intro h
    unfold parseBox? at h
    split at h
    · obtain ⟨rfl, rfl⟩ := Prod.mk.inj (Option.some.inj h)
      exact ⟨_, .spaced, rfl⟩
    · obtain ⟨rfl, rfl⟩ := Prod.mk.inj (Option.some.inj h)
      exact ⟨_, .tight, rfl⟩
    · obtain ⟨rfl, rfl⟩ := Prod.mk.inj (Option.some.inj h)
      exact ⟨_, .small, rfl⟩
    · obtain ⟨rfl, rfl⟩ := Prod.mk.inj (Option.some.inj h)
      exact ⟨_, .capital, rfl⟩
    · contradiction
  · rintro ⟨written, hspells, rfl⟩
    cases hspells <;> rfl

/-- The line of a checkbox that is read can be divided into its parts. -/
theorem isWrittenOn_of_parse? {line : Text} {box : Checkbox} (h : parse? line = some box) :
    box.IsWrittenOn line := by
  unfold parse? at h
  split at h
  · contradiction
  · rename_i marker left hmarker
    split at h
    · contradiction
    · rename_i checked rest hbox
      dsimp only at h
      split at h
      · contradiction
      · rename_i htext
        obtain rfl := Option.some.inj h
        obtain ⟨mark, behind, hmark, hbody, hsame⟩ := Marker.exists_spells_of_parse? hmarker
        obtain ⟨frame, hframe, hrest⟩ := parseBox?_eq_some_iff.mp hbox
        obtain ⟨indentation, hblank, hlength, hline⟩ := Text.exists_indent line
        obtain ⟨gap, hgap, -, hbehind⟩ := Text.exists_indent behind
        have hparts : line = indentation ++ mark ++ gap ++ frame ++ rest := by
          rw [hline, hbody, hbehind, ← hsame, hrest]
          simp only [List.append_assoc]
        exact ⟨⟨indentation, mark, gap, frame, rest⟩,
          ⟨hparts, hblank, hlength, hmark, hgap, hframe, rfl, by simpa using htext⟩⟩

/-- A marker and a box that are written behind each other are read, whatever follows them, if it is
not blank. -/
theorem parse?_of_spells {indentation mark gap frame rest : Text} {marker : Marker} {checked : Bool}
    (hindentation : Text.isAllBlank indentation = true) (hmark : marker.Spells mark)
    (hgap : Text.isAllBlank gap = true) (hframe : SpellsBox checked frame) :
    parse? (indentation ++ mark ++ gap ++ frame ++ rest) =
      if Text.trim rest = [] then none
      else some ⟨indentation.length, marker, checked, Text.trim rest⟩ := by
  have hbody : Text.StartsVisible (mark ++ (gap ++ (frame ++ rest))) :=
    hmark.startsVisible_append _
  have hframed : Text.trimStart (gap ++ (frame ++ rest)) = frame ++ rest := by
    rw [Text.trimStart_append_of_blank hgap, (hframe.startsVisible_append rest).trimStart]
  obtain ⟨left, hmarker, hsame⟩ := hmark.exists_parse? (gap ++ (frame ++ rest))
  have hbox : parseBox? (Text.trimStart left) = some (checked, rest) := by
    rw [hsame, hframed]
    exact parseBox?_eq_some_iff.mpr ⟨frame, hframe, rfl⟩
  simp only [List.append_assoc]
  rw [parse?, Text.trimStart_append_of_blank hindentation, hbody.trimStart, hmarker]
  simp only [hbox, Text.indent_append hindentation hbody, List.isEmpty_iff]

/-- Where a line can be divided into the parts of a checkbox, the checkbox is read. -/
theorem Parts.Spell.parse?_eq {parts : Parts} {box : Checkbox} {line : Text}
    (h : parts.Spell box line) : parse? line = some box := by
  have hne : Text.trim parts.rest ≠ [] := h.rest_trim ▸ h.text_ne_nil
  rw [h.line_eq, parse?_of_spells h.indentation_blank h.marker_spells h.gap_blank h.box_spells,
    if_neg hne, h.indentation_length, h.rest_trim]

/-- Exactly the checkboxes that are written on a line are read from it. -/
theorem parse?_eq_some_iff {line : Text} {box : Checkbox} :
    parse? line = some box ↔ box.IsWrittenOn line :=
  ⟨isWrittenOn_of_parse?, fun ⟨_, hparts⟩ => hparts.parse?_eq⟩

/-- **The grammar of checkboxes.** A checkbox is read from a line exactly if it is written on it,
and no line writes two different checkboxes. -/
theorem reads_grammar (line : Text) :
    (∀ box, parse? line = some box ↔ box.IsWrittenOn line) ∧
      ∀ first second : Checkbox, first.IsWrittenOn line → second.IsWrittenOn line →
        first = second := by
  refine ⟨fun _ => parse?_eq_some_iff, fun first second hfirst hsecond => ?_⟩
  have hread : parse? line = some first := parse?_eq_some_iff.mpr hfirst
  rw [parse?_eq_some_iff.mpr hsecond] at hread
  exact (Option.some.inj hread).symm

/-- A line with unusual blanks, leading zeros, a tick, and a text that looks like a checkbox. -/
def wideLine : Text := "\u3000\t007.\u2003 [X]\u00a0 - [ ] done\r"

/-- The checkbox on that line. -/
def wideBox : Checkbox := ⟨2, .numbered, true, "- [ ] done"⟩

/-- Nothing but this checkbox is written on the wide line. -/
theorem reads_grammar_wideLine :
    wideBox.IsWrittenOn wideLine ∧
      ∀ other : Checkbox, other.IsWrittenOn wideLine → other = wideBox := by
  obtain ⟨hread, hunique⟩ := reads_grammar wideLine
  have hwritten : wideBox.IsWrittenOn wideLine := (hread wideBox).mp (by decide)
  exact ⟨hwritten, fun other hother => hunique other wideBox hother hwritten⟩

end Checkbox

end TaskSheet
