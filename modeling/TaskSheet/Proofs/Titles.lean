import TaskSheet.Title
import TaskSheet.Proofs.Blanks

/-!
# The form of task titles

A task title is read from the left, and each part ends where the next one begins: a blank run
ends at a digit, and a number ends at the colon. So the parts that are read are determined by
the text, and every text of this form is read into its parts.
-/

namespace TaskSheet.Title

/-- The word with which a title begins. -/
def startWord : Text := "Task"

/-- A title is the word, a blank run, a number, a colon and the name. -/
theorem parse?_eq_some_iff {text : Text} {title : Title} :
    parse? text = some title ↔
      ∃ gap, gap ≠ [] ∧ Text.isAllBlank gap = true ∧ title.number ≠ [] ∧
        (∀ c ∈ title.number, c.isDigit = true) ∧
        text = startWord ++ gap ++ title.number ++ ':' :: title.name := by
  constructor
  · intro h
    unfold parse? at h
    split at h
    · contradiction
    · rename_i rest hafter
      dsimp only at h
      split at h
      · contradiction
      · rename_i hparts
        split at h
        · rename_i name hname
          obtain rfl := Option.some.inj h
          obtain ⟨hgap, hnumber⟩ : Text.indent rest ≠ 0 ∧
              (Text.trimStart rest).takeWhile Char.isDigit ≠ [] := by simpa using hparts
          refine ⟨rest.takeWhile Text.isBlank, ?_, List.all_takeWhile, hnumber,
            fun c hc => List.mem_takeWhile_imp hc, ?_⟩
          · exact fun hnil => hgap (by rw [Text.indent, hnil, List.length_nil])
          · rw [Text.after?_eq_some_iff.mp hafter, List.append_assoc, List.append_assoc, ← hname,
              List.takeWhile_append_dropWhile, Text.takeWhile_append_trimStart]
            rfl
        · contradiction
  · rintro ⟨gap, hgap, hblank, hnumber, hdigits, rfl⟩
    obtain ⟨d, digits, hcons⟩ := List.exists_cons_of_ne_nil hnumber
    have hvisible : Text.StartsVisible (title.number ++ ':' :: title.name) := by
      rw [hcons]
      exact Text.startsVisible_cons.mpr
        (Text.isBlank_of_isDigit (hdigits d (by rw [hcons]; exact List.mem_cons_self)))
    have hafter : Text.after? ("Task" : Text)
        (startWord ++ gap ++ title.number ++ ':' :: title.name) =
          some (gap ++ (title.number ++ ':' :: title.name)) :=
      Text.after?_eq_some_iff.mpr (by simp [startWord])
    have hstop : ∀ c ∈ (':' :: title.name).head?, c.isDigit = false := by simp
    rw [parse?, hafter]
    simp only [Text.trimStart_append_of_blank hblank, hvisible.trimStart,
      Text.indent_append hblank hvisible, takeWhile_append_of_stop hdigits hstop,
      dropWhile_append_of_stop hdigits hstop]
    simp [hgap, hnumber]

/-- A text is a task title exactly when it has this form, with a name that is not blank. -/
theorem isTitle_iff {text : Text} :
    isTitle text = true ↔
      ∃ title, parse? text = some title ∧ ∃ c ∈ title.name, Text.isBlank c = false := by
  cases hparse : parse? text with
  | none => simp [isTitle, hparse]
  | some title => simp [isTitle, hparse, Text.isAllBlank]

/-- A title with the word, a blank run, a number, a colon, and a text that is not blank. -/
def HasForm (text : Text) : Prop :=
  ∃ gap number name, text = "Task" ++ gap ++ number ++ ':' :: name ∧
    (gap ≠ [] ∧ ∀ c ∈ gap, Text.isBlank c = true) ∧
    (number ≠ [] ∧ ∀ c ∈ number, c.isDigit = true) ∧ ∃ c ∈ name, Text.isBlank c = false

/-- The task titles are the texts of this form. -/
theorem isTitle_iff_hasForm {text : Text} : isTitle text = true ↔ HasForm text := by
  rw [isTitle_iff]
  constructor
  · rintro ⟨title, hparse, hname⟩
    obtain ⟨gap, hgap, hblank, hnumber, hdigits, htext⟩ := parse?_eq_some_iff.mp hparse
    exact ⟨gap, title.number, title.name, htext, ⟨hgap, Text.isAllBlank_iff.mp hblank⟩,
      ⟨hnumber, hdigits⟩, hname⟩
  · rintro ⟨gap, number, name, htext, ⟨hgap, hblank⟩, ⟨hnumber, hdigits⟩, hname⟩
    exact ⟨⟨number, name⟩, parse?_eq_some_iff.mpr
      ⟨gap, hgap, Text.isAllBlank_iff.mpr hblank, hnumber, hdigits, htext⟩, hname⟩

/-- The number of a title is looked for from its start. -/
theorem findNumber?_of_parse? {text : Text} {title : Title} (h : parse? text = some title) :
    findNumber? text = some title.number := by
  cases text with
  | nil =>
    have hnone : parse? [] = none := by decide
    rw [hnone] at h
    contradiction
  | cons c text => rw [findNumber?, h]

/-- A task title has a number. -/
theorem exists_number_of_isTitle {text : Text} (h : isTitle text = true) :
    ∃ number, findNumber? text = some number := by
  obtain ⟨title, hparse, -⟩ := isTitle_iff.mp h
  exact ⟨title.number, findNumber?_of_parse? hparse⟩

/-- A number that is found is made of digits. -/
theorem isDigit_of_findNumber? {text number : Text} (h : findNumber? text = some number) :
    ∀ c ∈ number, c.isDigit = true := by
  fun_induction findNumber? text with
  | case1 => simp at h
  | case2 c text title hparse =>
    obtain rfl := Option.some.inj h
    obtain ⟨_, -, -, -, hdigits, -⟩ := parse?_eq_some_iff.mp hparse
    exact hdigits
  | case3 c text _ ih => exact ih h

end TaskSheet.Title
