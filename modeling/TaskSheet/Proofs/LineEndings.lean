import TaskSheet.Proofs.Outcomes
import TaskSheet.Proofs.Lines

/-!
# The two kinds of line endings

A sheet can be written with a line feed behind each line, or with a carriage return and a line
feed. Everything that is read from a sheet is read from its lines, and these are the same in both
cases, as long as no line ends with a carriage return of its own.
-/

namespace TaskSheet

namespace Text

/-- The text with a carriage return put before every line feed. -/
def withReturns (text : Text) : Text :=
  text.flatMap fun c => if c = '\n' then ['\r', '\n'] else [c]

/-- A line feed gets a carriage return. -/
@[simp] theorem withReturns_feed_cons (text : Text) :
    withReturns ('\n' :: text) = '\r' :: '\n' :: withReturns text := rfl

/-- Every other character stays as it is. -/
theorem withReturns_cons_of_ne {c : Char} (h : c ≠ '\n') (text : Text) :
    withReturns (c :: text) = c :: withReturns text := by
  rw [withReturns, List.flatMap_cons, if_neg h, withReturns, List.singleton_append]

/-- No text begins with a line feed any more. -/
theorem head?_withReturns_ne (text : Text) : (withReturns text).head? ≠ some '\n' := by
  cases text with
  | nil => simp [withReturns]
  | cons c text =>
    by_cases hc : c = '\n'
    · subst hc
      simp
    · rw [withReturns_cons_of_ne hc]
      simpa using hc

/-- The carriage returns belong to the line endings, unless one was there already. -/
theorem lines_withReturns {text : Text} (h : ¬['\r', '\n'] <:+: text) :
    lines (withReturns text) = lines text := by
  induction text with
  | nil => rfl
  | cons c text ih =>
    have ih := ih fun hpair => h (hpair.trans (List.suffix_cons c text).isInfix)
    by_cases hc : c = '\n'
    · subst hc
      exact congrArg ([] :: ·) ih
    · -- Neither here nor there the character is the first half of an ending.
      have hwith : ¬(c = '\r' ∧ (withReturns text).head? = some '\n') :=
        fun hpair => head?_withReturns_ne text hpair.2
      have hwithout : ¬(c = '\r' ∧ text.head? = some '\n') := by
        rintro ⟨rfl, hfeed⟩
        obtain ⟨rest, rfl⟩ := List.head?_eq_some_iff.mp hfeed
        exact h ⟨[], rest, rfl⟩
      rw [withReturns_cons_of_ne hc, lines_cons_of_ne hc hwith, ih, lines_cons_of_ne hc hwithout]

end Text

namespace Compilation

/-- A compilation depends on the outline of the sheet alone. -/
theorem ofSheet_congr (environment : Environment) {sheet other : Text}
    (h : Outline.ofText sheet = Outline.ofText other) :
    ofSheet environment sheet = ofSheet environment other := by
  rw [ofSheet, ofSheet, h]

/-- **Line endings do not matter.** A sheet without carriage returns and the same sheet with a
carriage return before every line feed have the same outline. Hence they are compiled to the same
records or fail in the same way, and in both cases the same is announced. -/
theorem ofSheet_withReturns (environment : Environment) {sheet : Text} (h : '\r' ∉ sheet) :
    Outline.ofText (Text.withReturns sheet) = Outline.ofText sheet ∧
      ofSheet environment (Text.withReturns sheet) = ofSheet environment sheet := by
  have hpair : ¬['\r', '\n'] <:+: sheet := fun hpair => h (hpair.subset List.mem_cons_self)
  have houtline : Outline.ofText (Text.withReturns sheet) = Outline.ofText sheet :=
    congrArg Outline.ofLines (Text.lines_withReturns hpair)
  exact ⟨houtline, ofSheet_congr environment houtline⟩

/-- A sheet whose last line is not ended, with an objective of several lines and a blank line
between two steps. -/
def unevenSheet : Text :=
  Text.unlines
    ["# Task 9: Uneven",
      "## Objective",
      "First line",
      "",
      "second line",
      "## Requirements",
      "1. [ ] Real data",
      "- [ ] Validate `a.py`",
      "   - [ ] Connect",
      "",
      "   - [ ] Query"]

/-- The line endings of the uneven sheet do not matter. -/
theorem ofSheet_withReturns_unevenSheet :
    '\r' ∉ unevenSheet ∧
      Outline.ofText (Text.withReturns unevenSheet) = Outline.ofText unevenSheet ∧
        ofSheet looseEnvironment (Text.withReturns unevenSheet) =
          ofSheet looseEnvironment unevenSheet := by
  have hreturn : '\r' ∉ unevenSheet := by decide +kernel
  exact ⟨hreturn, ofSheet_withReturns looseEnvironment hreturn⟩

end Compilation

end TaskSheet
