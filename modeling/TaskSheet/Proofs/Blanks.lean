import TaskSheet.Text.Blank
import Mathlib.Data.List.DropRight
import Mathlib.Data.List.TakeWhile

/-!
# Blank ends of a text

Trimming takes a text apart into a blank start, a core without a blank character at
either end, and a blank end. This file proves that the three parts determine what
trimming and measuring the indentation give, so that rules about lines can be stated
with `++` instead of searches.
-/

namespace TaskSheet

/-- A run of elements with a property is taken as a whole, if the element behind it does
not have the property. -/
theorem takeWhile_append_of_stop {α : Type} {p : α → Bool} {run rest : List α}
    (hrun : ∀ a ∈ run, p a = true) (hstop : ∀ a ∈ rest.head?, p a = false) :
    (run ++ rest).takeWhile p = run := by
  rw [List.takeWhile_append_of_pos hrun]
  cases rest with
  | nil => simp
  | cons a rest => simp [hstop a (by simp)]

/-- Behind a run of elements with a property stands the rest, if the element behind the
run does not have the property. -/
theorem dropWhile_append_of_stop {α : Type} {p : α → Bool} {run rest : List α}
    (hrun : ∀ a ∈ run, p a = true) (hstop : ∀ a ∈ rest.head?, p a = false) :
    (run ++ rest).dropWhile p = rest := by
  rw [List.dropWhile_append_of_pos hrun]
  cases rest with
  | nil => rfl
  | cons a rest => simp [hstop a (by simp)]

namespace Text

/-- A text is blank exactly when each of its characters is. -/
theorem isAllBlank_iff {text : Text} : isAllBlank text = true ↔ ∀ c ∈ text, isBlank c = true :=
  List.all_eq_true

/-- A text does not begin with a blank character. -/
def StartsVisible (text : Text) : Prop := ∀ c ∈ text.head?, isBlank c = false

/-- A text does not end with a blank character. -/
def EndsVisible (text : Text) : Prop := ∀ c ∈ text.getLast?, isBlank c = false

/-- A visible character keeps its text from beginning with a blank one. -/
@[simp] theorem startsVisible_cons {c : Char} {text : Text} :
    StartsVisible (c :: text) ↔ isBlank c = false := by
  simp [StartsVisible]

/-- Trimming the start of a text does not depend on a blank run before it. -/
theorem trimStart_append_of_blank {blank : Text} (h : isAllBlank blank = true) (text : Text) :
    trimStart (blank ++ text) = trimStart text :=
  List.dropWhile_append_of_pos (isAllBlank_iff.mp h)

/-- Trimming the start of a text does not depend on a blank character before it. -/
theorem trimStart_cons_of_isBlank {c : Char} (h : isBlank c = true) (text : Text) :
    trimStart (c :: text) = trimStart text :=
  List.dropWhile_cons_of_pos h

/-- A text that begins visibly keeps its start. -/
theorem StartsVisible.trimStart {text : Text} (h : StartsVisible text) :
    trimStart text = text := by
  cases text with
  | nil => rfl
  | cons c text => simp [Text.trimStart, startsVisible_cons.mp h]

/-- What is left of a text without its blank start begins visibly. -/
theorem startsVisible_trimStart (text : Text) : StartsVisible (trimStart text) := by
  intro c hc
  have h := List.head?_dropWhile_not isBlank text
  rw [trimStart, Option.mem_def] at hc
  simpa [hc] using h

/-- A text is a blank run, as long as its indentation, before something that begins
visibly. -/
theorem exists_indent (text : Text) :
    ∃ blank, isAllBlank blank = true ∧ blank.length = indent text ∧
      text = blank ++ trimStart text :=
  ⟨text.takeWhile isBlank, List.all_takeWhile, rfl, (takeWhile_append_trimStart text).symm⟩

/-- The indentation of a text is the length of the blank run before its first visible
character. -/
theorem indent_append {blank text : Text} (h : isAllBlank blank = true)
    (htext : StartsVisible text) : indent (blank ++ text) = blank.length := by
  rw [indent, takeWhile_append_of_stop (isAllBlank_iff.mp h) htext]

/-- A text is indented exactly when it begins with a blank character. -/
theorem indent_eq_zero_iff {text : Text} : indent text = 0 ↔ StartsVisible text := by
  constructor
  · intro h
    obtain ⟨blank, _, hlength, htext⟩ := exists_indent text
    have hblank : blank = [] := List.length_eq_zero_iff.mp (by omega)
    rw [htext, hblank, List.nil_append]
    exact startsVisible_trimStart text
  · intro h
    have hempty : isAllBlank [] = true := rfl
    exact indent_append hempty h

/-- A text that is indented begins with a blank character. -/
theorem indent_ne_zero_iff {text : Text} :
    indent text ≠ 0 ↔ ∃ c rest, text = c :: rest ∧ isBlank c = true := by
  rw [Ne, indent_eq_zero_iff]
  cases text with
  | nil => simp [StartsVisible]
  | cons c text => simp

/-- Trimming the end of a text is dropping its last blank characters. -/
theorem trimEnd_eq_rdropWhile (text : Text) : trimEnd text = text.rdropWhile isBlank := rfl

/-- Trimming the end of a text does not depend on a blank run behind it. -/
theorem trimEnd_append_of_blank {blank : Text} (h : isAllBlank blank = true) (text : Text) :
    trimEnd (text ++ blank) = trimEnd text := by
  have hreverse : ∀ c ∈ blank.reverse, isBlank c = true := by
    simpa using isAllBlank_iff.mp h
  rw [trimEnd, List.reverse_append, List.dropWhile_append_of_pos hreverse, trimEnd]

/-- A text that ends visibly keeps its end. -/
theorem EndsVisible.trimEnd {text : Text} (h : EndsVisible text) : trimEnd text = text := by
  rw [trimEnd_eq_rdropWhile, List.rdropWhile_eq_self_iff]
  intro hne
  simp [h (text.getLast hne) (List.getLast_mem_getLast? hne)]

/-- What is left of a text without its blank end ends visibly. -/
theorem endsVisible_trimEnd (text : Text) : EndsVisible (trimEnd text) := by
  intro c hc
  rw [trimEnd_eq_rdropWhile] at hc
  obtain ⟨hne, rfl⟩ := List.mem_getLast?_eq_getLast hc
  simpa using List.rdropWhile_last_not isBlank text hne

/-- A text is what trimming leaves at its end, followed by a blank run. -/
theorem exists_trimEnd (text : Text) :
    ∃ blank, isAllBlank blank = true ∧ text = trimEnd text ++ blank := by
  refine ⟨text.rtakeWhile isBlank, ?_, ?_⟩
  · exact isAllBlank_iff.mpr fun c hc => List.mem_rtakeWhile_imp hc
  · rw [trimEnd_eq_rdropWhile, List.rdropWhile_append_rtakeWhile]

/-- Trimming does not depend on a blank run before the text. -/
theorem trim_blank_append {blank : Text} (h : isAllBlank blank = true) (text : Text) :
    trim (blank ++ text) = trim text := by
  rw [trim, trimStart_append_of_blank h, trim]

/-- Trimming does not depend on a space before the text. -/
@[simp] theorem trim_space_cons (text : Text) : trim (' ' :: text) = trim text :=
  trim_blank_append (show isAllBlank [' '] = true by decide) text

/-- A text that begins and ends visibly is trimmed already. -/
theorem trim_eq_self {text : Text} (hstart : StartsVisible text) (hend : EndsVisible text) :
    trim text = text := by
  rw [trim, hstart.trimStart, hend.trimEnd]

/-- A trimmed text ends visibly. -/
theorem endsVisible_trim (text : Text) : EndsVisible (trim text) := endsVisible_trimEnd _

/-- Trimming the end of a text that begins visibly leaves its beginning. -/
theorem StartsVisible.trimEnd {text : Text} (h : StartsVisible text) :
    StartsVisible (Text.trimEnd text) := by
  intro c hc
  obtain ⟨blank, -, htext⟩ := exists_trimEnd text
  refine h c ?_
  rw [htext, List.head?_append, Option.mem_def.mp hc]
  rfl

/-- A trimmed text begins visibly. -/
theorem startsVisible_trim (text : Text) : StartsVisible (trim text) :=
  (startsVisible_trimStart text).trimEnd

/-- Trimming a text a second time changes nothing. -/
theorem trim_trim (text : Text) : trim (trim text) = trim text :=
  trim_eq_self (startsVisible_trim text) (endsVisible_trim text)

/-- Trimming takes a blank run off either end. -/
theorem exists_trim (text : Text) :
    ∃ before after, isAllBlank before = true ∧ isAllBlank after = true ∧
      text = before ++ trim text ++ after := by
  obtain ⟨before, hbefore, _, hstart⟩ := exists_indent text
  obtain ⟨after, hafter, hend⟩ := exists_trimEnd (trimStart text)
  refine ⟨before, after, hbefore, hafter, ?_⟩
  rw [List.append_assoc, trim, ← hend, ← hstart]

/-- Trimming leaves nothing exactly of blank texts. -/
theorem trim_eq_nil_iff {text : Text} : trim text = [] ↔ isAllBlank text = true := by
  constructor
  · intro h
    obtain ⟨before, after, hbefore, hafter, htext⟩ := exists_trim text
    rw [htext, h, List.append_nil, isAllBlank, List.all_append, Bool.and_eq_true]
    exact ⟨hbefore, hafter⟩
  · intro h
    have htrim := trim_blank_append h []
    rwa [List.append_nil] at htrim

/-- Trimming does not depend on a blank run behind the text. -/
theorem trim_append_of_blank {blank : Text} (h : isAllBlank blank = true) (text : Text) :
    trim (text ++ blank) = trim text := by
  by_cases htext : isAllBlank text = true
  · have hboth : isAllBlank (text ++ blank) = true := by
      rw [isAllBlank, List.all_append, Bool.and_eq_true]
      exact ⟨htext, h⟩
    rw [trim_eq_nil_iff.mpr hboth, trim_eq_nil_iff.mpr htext]
  · have hstart : trimStart (text ++ blank) = trimStart text ++ blank := by
      have hvisible : ¬(text.dropWhile isBlank).isEmpty = true := by
        rw [List.isEmpty_iff, List.dropWhile_eq_nil_iff]
        exact fun hall => htext (isAllBlank_iff.mpr hall)
      rw [trimStart, List.dropWhile_append, if_neg hvisible, trimStart]
    rw [trim, hstart, trimEnd_append_of_blank h, trim]

/-! ## Digits are visible -/

/-- Decimal digits are not blank. -/
theorem isBlank_of_isDigit {c : Char} (h : c.isDigit = true) : isBlank c = false := by
  obtain ⟨hlow, hhigh⟩ : 48 ≤ c.toNat ∧ c.toNat ≤ 57 := by
    simpa [Char.isDigit, UInt32.le_iff_toNat_le] using h
  simp only [isBlank, Bool.or_eq_false_iff, Bool.and_eq_false_iff, decide_eq_false_iff_not,
    beq_eq_false_iff_ne]
  omega

/-- Numbers are written with digits. -/
theorem isDigit_of_mem_ofNat {c : Char} {n : Nat} (h : c ∈ ofNat n) : c.isDigit = true :=
  Nat.isDigit_of_mem_toDigits (by decide) (by decide) h

/-- Every number begins with a digit. -/
theorem exists_digit_ofNat (n : Nat) : ∃ d digits, ofNat n = d :: digits ∧ d.isDigit = true := by
  have hne : ofNat n ≠ [] := Nat.toDigits_ne_nil
  obtain ⟨d, digits, hdigits⟩ := List.exists_cons_of_ne_nil hne
  exact ⟨d, digits, hdigits, isDigit_of_mem_ofNat (by rw [hdigits]; exact List.mem_cons_self)⟩

end Text

end TaskSheet
