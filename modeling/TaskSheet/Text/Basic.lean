/-!
# Texts

A text is the list of its characters, so that every rule about texts is a rule
about lists. This file holds the two searches that the other modules share, taking
a known beginning off a text and finding a text inside another, together with the
description of each in terms of `++`, and the digits of numbers.
-/

namespace TaskSheet

/-- A text is the list of its characters. -/
abbrev Text := List Char

/-- A string literal stands for the list of its characters. -/
instance : Coe String Text := ⟨String.toList⟩

namespace Text

/-- What follows `start` in a text that begins with it. -/
def after? : (start text : Text) → Option Text
  | [], text => some text
  | _ :: _, [] => none
  | a :: start, b :: text => if a = b then after? start text else none

/-- A text has a rest after `start` exactly when it is `start` followed by that rest. -/
theorem after?_eq_some_iff {start text rest : Text} :
    after? start text = some rest ↔ text = start ++ rest := by
  induction start generalizing text with
  | nil => simp [after?]
  | cons a start ih =>
    cases text with
    | nil => simp [after?]
    | cons b text =>
      by_cases h : a = b
      · simp [after?, h, ih]
      · simp [after?, h, Ne.symm h]

/-- What follows a known beginning is no longer than the text. -/
theorem length_of_after? {start text rest : Text} (h : after? start text = some rest) :
    rest.length ≤ text.length := by
  rw [after?_eq_some_iff.mp h]
  simp

/-- Whether `part` stands somewhere in the text without interruption. -/
def contains (part : Text) : (text : Text) → Bool
  | [] => part.isEmpty
  | c :: text => part.isPrefixOf (c :: text) || contains part text

/-- The search succeeds exactly when the text is something, the part, and something more. -/
theorem contains_iff_infix {part text : Text} : contains part text = true ↔ part <:+: text := by
  induction text with
  | nil => simp [contains]
  | cons c text ih =>
    rw [contains, Bool.or_eq_true, List.isPrefixOf_iff_prefix, ih, List.infix_cons_iff]

/-- A literal holds no character but those that are written in it. -/
theorem not_mem_literal {c : Char} {written : List Char} (h : c ∉ written) :
    c ∉ (String.ofList written : Text) := by
  rwa [String.toList_ofList]

/-- The decimal digits of a number, without leading zeros. -/
def ofNat (n : Nat) : Text := Nat.toDigits 10 n

/-- A hexadecimal digit in lower case. -/
def hexDigit (n : Nat) : Char := Nat.digitChar (n % 16)

/-- Two hexadecimal digits. -/
def hexPair (n : Nat) : Text := [hexDigit (n / 16), hexDigit n]

end Text

end TaskSheet
