import TaskSheet.Failure
import TaskSheet.Proofs.Completeness
import TaskSheet.Proofs.Diagnoses
import TaskSheet.Proofs.Pieces
import TaskSheet.Proofs.WellFormedDocuments

/-!
# Messages that can be read back from a report

A report gives each message a line of its own behind a mark, and nothing in a message is escaped.
Two kinds of messages quote the sheet. What they quote was read from a single line of it, so a
message never leaves its line, whatever it begins with; and the mark stands on no other line of a
report, since the steps of the expected form are indented by one space more. So the messages of a
report are what stands behind its marks.
-/

namespace TaskSheet

namespace Text

/-- Texts that are put together hold nothing but what they and the separator hold. -/
theorem not_mem_intercalate {c : Char} {separator : Text} {parts : List Text}
    (hseparator : c ∉ separator) (h : ∀ part ∈ parts, c ∉ part) :
    c ∉ List.intercalate separator parts := by
  induction parts with
  | nil => simp
  | cons part parts ih =>
    rw [List.forall_mem_cons] at h
    cases parts with
    | nil => simpa using h.1
    | cons next parts =>
      rw [List.intercalate_cons_cons]
      exact List.not_mem_append (List.not_mem_append h.1 hseparator) (ih h.2)

/-- What was put behind a beginning is found behind it. -/
theorem filterMap_after?_map_append (start : Text) (texts : List Text) :
    (texts.map (start ++ ·)).filterMap (after? start) = texts := by
  have hfound : ∀ text ∈ texts, (after? start ∘ (start ++ ·)) text = some text :=
    fun text _ => after?_eq_some_iff.mpr rfl
  rw [List.filterMap_map, List.filterMap_congr hfound, List.filterMap_some]

end Text

/-! ## Reports -/

/-- What stands behind the marks of a report, line by line. -/
def reportedMessages (report : Text) : List Text :=
  (Text.pieces report).filterMap (Text.after? messageMark)

/-- A report ends with the expected form. -/
theorem expectedForm_suffix_reportText (messages : List Text) :
    Text.terminated expectedForm <:+ reportText messages := by
  have hlast : reportText messages =
      Text.terminated ("Markdown format validation failed:" ::
        (messages.map (messageMark ++ ·) ++ [[], "Required markdown format:"])) ++
          Text.terminated expectedForm := by
    rw [reportText, ← Text.terminated_append, List.cons_append, List.append_assoc]
    rfl
  rw [hlast]
  exact List.suffix_append _ _

/-- Messages that stay on their lines are read back from their report. -/
theorem reportedMessages_reportText {messages : List Text}
    (h : ∀ message ∈ messages, '\n' ∉ message) :
    reportedMessages (reportText messages) = messages := by
  -- The lines around the messages neither break nor carry the mark.
  have hfirst : '\n' ∉ ("Markdown format validation failed:" : Text) ∧
      Text.after? messageMark "Markdown format validation failed:" = none := by decide
  have hlast : (∀ line ∈ [] :: ("Required markdown format:" : Text) :: expectedForm, '\n' ∉ line) ∧
      ([] :: ("Required markdown format:" : Text) :: expectedForm ++ [[]]).filterMap
        (Text.after? messageMark) = [] := by decide
  have hmarked : ∀ line ∈ messages.map (messageMark ++ ·), '\n' ∉ line := by
    intro line hline
    obtain ⟨message, hmessage, rfl⟩ := List.mem_map.mp hline
    exact List.not_mem_append (by decide) (h message hmessage)
  have hlines : ∀ line ∈ ("Markdown format validation failed:" : Text) ::
      (messages.map (messageMark ++ ·) ++ [] :: "Required markdown format:" :: expectedForm),
      '\n' ∉ line :=
    List.forall_mem_cons.mpr ⟨hfirst.1, List.forall_mem_append.mpr ⟨hmarked, hlast.1⟩⟩
  rw [reportedMessages, reportText, Text.pieces_terminated hlines, List.cons_append,
    List.filterMap_cons_none hfirst.2, List.append_assoc, List.filterMap_append,
    Text.filterMap_after?_map_append, hlast.2, List.append_nil]

/-! ## Messages -/

/-- The texts of a sheet that the message of a violation quotes. -/
def Violation.quoted : Violation → List Text
  | invalidTitle title => [title]
  | stepless modules => modules
  | _ => []

/-- A message stays on its line if what it quotes does. -/
theorem Violation.feed_not_mem_message {violation : Violation}
    (h : ∀ part ∈ violation.quoted, '\n' ∉ part) : '\n' ∉ violation.message := by
  cases violation with
  | invalidTitle title =>
    have hstart : '\n' ∉ ("Invalid task title '" : Text) := Text.not_mem_literal (by decide)
    have htitle : '\n' ∉ title := h title List.mem_cons_self
    have hend : '\n' ∉ ("'. Format: '# Task NNN: Title'" : Text) :=
      Text.not_mem_literal (by decide)
    exact List.not_mem_append (List.not_mem_append hstart htitle) hend
  | stepless modules =>
    have hstart : '\n' ∉ ("Tasks without steps: " : Text) := Text.not_mem_literal (by decide)
    have hmodules : '\n' ∉ List.intercalate ", " modules :=
      Text.not_mem_intercalate (Text.not_mem_literal (by decide)) h
    have hend : '\n' ∉ (". Each task needs indented steps" : Text) :=
      Text.not_mem_literal (by decide)
    exact List.not_mem_append (List.not_mem_append hstart hmodules) hend
  | _ => exact Text.not_mem_literal (by decide)

namespace Outline

/-- A title stays on its line, be it read or the placeholder. -/
theorem feed_not_mem_title (sheet : Text) : '\n' ∉ (ofText sheet).title := by
  rcases title_ofLines_eq_iff.mp (rfl : (ofText sheet).title = (ofText sheet).title) with
    ⟨before, line, after, hlines, hparse, -⟩ | ⟨huntitled, -⟩
  · have hline : line ∈ Text.lines sheet := by simp [hlines]
    exact (Heading.isField_of_parse? hparse (Text.not_mem_of_mem_lines hline)).no_feed
  · rw [huntitled]
    decide

/-- What a violation of a sheet quotes stays on its line. -/
theorem feed_not_mem_quoted {sheet part : Text} {violation : Violation}
    (h : violation ∈ (ofText sheet).violations) (hpart : part ∈ violation.quoted) :
    '\n' ∉ part := by
  have hshows : (ofText sheet).Shows violation := mem_violations_iff.mp h
  cases violation with
  | invalidTitle title =>
    obtain rfl : part = title := List.mem_singleton.mp hpart
    obtain ⟨rfl, -⟩ := hshows
    exact feed_not_mem_title sheet
  | stepless modules =>
    obtain ⟨-, rfl⟩ := hshows
    obtain ⟨block, hblock, rfl⟩ := List.mem_map.mp hpart
    exact feed_not_mem_module (List.mem_of_mem_filter hblock)
  | _ => simp [Violation.quoted] at hpart

end Outline

namespace Failure

/-- The messages about a sheet are read back from the report of its violations. -/
theorem reportedMessages_malformed (sheet : Text) :
    reportedMessages (malformed (Outline.ofText sheet).violations).message =
      (Outline.ofText sheet).violations.map (·.message) := by
  apply reportedMessages_reportText
  intro message hmessage
  obtain ⟨violation, hviolation, rfl⟩ := List.mem_map.mp hmessage
  exact Violation.feed_not_mem_message fun part => Outline.feed_not_mem_quoted hviolation

/-- **A report keeps its messages.** What is read behind the marks of the report on a sheet are the
messages of all its violations, in order, whatever they quote, and the report ends with the expected
form. So sheets with the same report have the same messages. -/
theorem report_keeps_messages {sheet : Text} {violations : List Violation}
    (h : Document.ofOutline (Outline.ofText sheet) = .error violations) :
    violations = (Outline.ofText sheet).violations ∧
      reportedMessages (malformed violations).message = violations.map (·.message) ∧
      Text.terminated expectedForm <:+ (malformed violations).message ∧
      ∀ other others, Document.ofOutline (Outline.ofText other) = .error others →
        (malformed others).message = (malformed violations).message →
        others.map (·.message) = violations.map (·.message) := by
  obtain ⟨rfl, -⟩ := Outline.ofOutline_eq_error_iff.mp h
  refine ⟨rfl, reportedMessages_malformed sheet, expectedForm_suffix_reportText _, ?_⟩
  intro other others hother hreport
  obtain ⟨rfl, -⟩ := Outline.ofOutline_eq_error_iff.mp hother
  rw [← reportedMessages_malformed other, hreport, reportedMessages_malformed sheet]

/-- A sheet with nothing but entries, below a title that imitates a line ending and a mark. -/
def markedSheet (modules : List Text) : Text :=
  Text.terminated ("# Report:\r  - No validation" :: modules.map Prompt.openEntry)

/-- What is wrong with such a sheet. -/
def markedViolations (modules : List Text) : List Violation :=
  [.invalidTitle "Report:\r  - No validation", .missingObjective, .missingRequirements,
    .stepless modules]

/-- Sheets with different modules can have the same report, and then have the same messages. -/
theorem report_keeps_messages_markedSheet :
    Document.ofOutline (Outline.ofText (markedSheet ["  - a.py", "b.py, c.py"])) =
        .error (markedViolations ["  - a.py", "b.py, c.py"]) ∧
      Document.ofOutline (Outline.ofText (markedSheet ["  - a.py", "b.py", "c.py"])) =
        .error (markedViolations ["  - a.py", "b.py", "c.py"]) ∧
      reportedMessages (malformed (markedViolations ["  - a.py", "b.py, c.py"])).message =
        (markedViolations ["  - a.py", "b.py, c.py"]).map (·.message) ∧
      (markedViolations ["  - a.py", "b.py", "c.py"]).map (·.message) =
        (markedViolations ["  - a.py", "b.py, c.py"]).map (·.message) := by
  have hjoined : Document.ofOutline (Outline.ofText (markedSheet ["  - a.py", "b.py, c.py"])) =
      .error (markedViolations ["  - a.py", "b.py, c.py"]) := by decide +kernel
  have hseparate :
      Document.ofOutline (Outline.ofText (markedSheet ["  - a.py", "b.py", "c.py"])) =
        .error (markedViolations ["  - a.py", "b.py", "c.py"]) := by decide +kernel
  obtain ⟨-, hmessages, -, hsame⟩ := report_keeps_messages hjoined
  exact ⟨hjoined, hseparate, hmessages, hsame _ _ hseparate rfl⟩

end Failure

end TaskSheet
