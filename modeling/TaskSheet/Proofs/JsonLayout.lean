import TaskSheet.Json.Printer
import TaskSheet.Proofs.Lines
import Mathlib.Data.List.Chain

/-!
# The lines of a written value

A value that is laid out over several lines breaks them between its tokens only, since
neither a quoted string nor a number holds a line feed. Every line but the first one
begins with the space of an indentation or with a closing bracket. So a written value
looks like no text in which some line begins otherwise.
-/

namespace TaskSheet

namespace Decimal

/-- A point, zeros and a zero before them add no line feed to digits. -/
theorem feed_not_mem_positional {digits : Text} (h : '\n' ∉ digits) (exponent : Int) :
    '\n' ∉ positional digits exponent := by
  have hpadded : ∀ count, '\n' ∉ digits ++ List.replicate count '0' := by
    intro count
    simp [h, List.mem_replicate]
  intro hmem
  rw [positional] at hmem
  split at hmem
  · dsimp only at hmem
    rcases List.mem_append.mp hmem with htake | hrest
    · exact hpadded _ (List.mem_of_mem_take htake)
    · rcases List.mem_cons.mp hrest with hpoint | hfraction
      · exact absurd hpoint (by decide)
      · split at hfraction
        · exact absurd hfraction (by decide)
        · exact hpadded _ (List.mem_of_mem_drop hfraction)
  · simp [h, List.mem_replicate] at hmem

/-- A point and an exponent add no line feed to digits. -/
theorem feed_not_mem_scientific {digits : Text} (h : '\n' ∉ digits) (exponent : Int) :
    '\n' ∉ scientific digits exponent := by
  have hdigits : '\n' ∉ Text.ofNat exponent.natAbs :=
    fun hmem => absurd (Text.isDigit_of_mem_ofNat hmem) (by decide)
  intro hmem
  unfold scientific at hmem
  rcases List.mem_append.mp hmem with hmantissa | hrest
  · split at hmantissa
    · rename_i first second more
      simp only [List.mem_cons, not_or] at h hmantissa
      rcases hmantissa with hfirst | hpoint | hsecond
      · exact h.1 hfirst
      · exact absurd hpoint (by decide)
      · exact hsecond.elim h.2.1 h.2.2
    · exact h hmantissa
  · rcases List.mem_cons.mp hrest with hmark | hrest
    · exact absurd hmark (by decide)
    · rcases List.mem_cons.mp hrest with hsign | hexponent
      · split at hsign
        · exact absurd hsign (by decide)
        · exact absurd hsign (by decide)
      · exact hdigits hexponent

end Decimal

namespace Json

/-- A number is written without line feeds. -/
theorem feed_not_mem_render (value : Number) : '\n' ∉ value.render := by
  have hdigits : ∀ n, '\n' ∉ Text.ofNat n :=
    fun n hmem => absurd (Text.isDigit_of_mem_ofNat hmem) (by decide)
  have hscaled : ∀ s : Decimal.Scaled, '\n' ∉ s.render := by
    intro s
    rw [Decimal.Scaled.render]
    split
    · exact Decimal.feed_not_mem_positional (hdigits _) _
    · exact Decimal.feed_not_mem_scientific (hdigits _) _
  cases value with
  | int value =>
    cases value with
    | ofNat n => exact hdigits n
    | negSucc n => simp [Number.render, renderInt, hdigits]
  | double bits =>
    have hmagnitude : '\n' ∉ if (Decimal.Binary.ofBits bits).significand = 0
        then Decimal.positional ['0'] 0 else (Decimal.Binary.ofBits bits).shortest.render := by
      split
      · decide
      · exact hscaled _
    rw [Number.render, Decimal.render]
    split
    · exact hmagnitude
    · exact List.not_mem_cons_of_ne_of_not_mem (by decide) hmagnitude

/-- A quoted string holds no line feed, since this character is escaped. -/
theorem feed_not_mem_write (text : Text) : '\n' ∉ Quoted.write text := by
  have hfin : ∀ k : Fin 16, '\n' ≠ Nat.digitChar k := by decide
  have hdigit : ∀ n, '\n' ≠ Text.hexDigit n := fun n => hfin ⟨n % 16, Nat.mod_lt n (by decide)⟩
  have hescape : ∀ c, '\n' ∉ Quoted.escape c := by
    intro c
    fun_cases Quoted.escape c with
    | case8 => simp [Text.hexPair, hdigit]
    | case9 _ _ _ _ _ hfeed =>
      rw [List.mem_singleton]
      exact fun heq => hfeed heq.symm
    | _ => decide
  simp [Quoted.write, hescape]

/-- What stands at the start of every line of a written value but the first. -/
def opensLine (c : Char) : Bool := c == ' ' || c == ']' || c == '\x7d'

/-- A text in which such a character follows every line feed. -/
structure IsLaidOut (text : Text) : Prop where
  /-- Behind a line feed stands such a character, if anything does. -/
  chain : List.IsChain (fun a b => a = '\n' → opensLine b = true) text
  /-- Something stands behind the last line feed. -/
  getLast?_ne : text.getLast? ≠ some '\n'

/-- A text on one line is laid out. -/
theorem isLaidOut_of_not_mem {text : Text} (h : '\n' ∉ text) : IsLaidOut text := by
  refine ⟨?_, fun hlast => h (List.mem_of_mem_getLast? hlast)⟩
  induction text with
  | nil => exact List.IsChain.nil
  | cons c text ih =>
    obtain ⟨hc, htext⟩ : c ≠ '\n' ∧ '\n' ∉ text := by simpa [eq_comm] using h
    exact List.isChain_cons.mpr ⟨fun b _ hfeed => absurd hfeed hc, ih htext⟩

/-- Laid out texts can be put together. -/
theorem IsLaidOut.append {first second : Text} (hfirst : IsLaidOut first)
    (hsecond : IsLaidOut second) : IsLaidOut (first ++ second) := by
  refine ⟨hfirst.chain.append hsecond.chain fun a ha b _ hfeed => ?_, ?_⟩
  · exact absurd (hfeed ▸ ha) hfirst.getLast?_ne
  · rw [List.getLast?_append]
    cases hlast : second.getLast? with
    | none => exact hfirst.getLast?_ne
    | some c =>
      rw [Option.some_or, ← hlast]
      exact hsecond.getLast?_ne

/-- A line that begins with one of these characters may follow a line feed. -/
theorem isLaidOut_feed_cons {c : Char} {text : Text} (hc : opensLine c = true)
    (h : '\n' ∉ c :: text) : IsLaidOut ('\n' :: c :: text) := by
  refine ⟨List.isChain_cons.mpr ⟨fun b hb _ => ?_, (isLaidOut_of_not_mem h).chain⟩, ?_⟩
  · obtain rfl : c = b := by simpa using hb
    exact hc
  · rw [List.getLast?_cons_cons]
    exact (isLaidOut_of_not_mem h).getLast?_ne

/-- A new line below the outermost level begins with an indentation. -/
theorem isLaidOut_newline (depth : Nat) : IsLaidOut (newline (depth + 1)) := by
  have hspaces : 2 * (depth + 1) = 2 * depth + 1 + 1 := by omega
  rw [newline, hspaces, List.replicate_succ]
  exact isLaidOut_feed_cons (by decide) (by simp [List.mem_replicate])

/-- The bracket or comma before a new line ends the line before it. -/
theorem isLaidOut_cons_newline (depth : Nat) {c : Char} (hc : c ≠ '\n') :
    IsLaidOut (c :: newline (depth + 1)) := by
  have hline : IsLaidOut [c] := isLaidOut_of_not_mem (by simpa using hc.symm)
  exact hline.append (isLaidOut_newline depth)

/-- A new line for a closing bracket begins with that bracket or an indentation. -/
theorem IsLaidOut.append_close {text : Text} (h : IsLaidOut text) (depth : Nat) {close : Char}
    (hclose : opensLine close = true) : IsLaidOut (text ++ newline depth ++ [close]) := by
  have hfeed : '\n' ∉ [close] := by
    rw [List.mem_singleton]
    rintro rfl
    exact absurd hclose (by decide)
  cases depth with
  | zero =>
    rw [List.append_assoc]
    exact h.append (isLaidOut_feed_cons hclose hfeed)
  | succ depth => exact (h.append (isLaidOut_newline depth)).append (isLaidOut_of_not_mem hfeed)

mutual

/-- Every value is laid out, whatever its depth. -/
theorem isLaidOut_indented (depth : Nat) : (value : Json) → IsLaidOut (indented depth value)
  | .null => isLaidOut_of_not_mem (show '\n' ∉ ("null" : Text) by decide)
  | .bool true => isLaidOut_of_not_mem (show '\n' ∉ ("true" : Text) by decide)
  | .bool false => isLaidOut_of_not_mem (show '\n' ∉ ("false" : Text) by decide)
  | .number value => isLaidOut_of_not_mem (feed_not_mem_render value)
  | .string value => isLaidOut_of_not_mem (feed_not_mem_write value)
  | .array [] => isLaidOut_of_not_mem (show '\n' ∉ ("[]" : Text) by decide)
  | .array (item :: items) => by
    have hitem := isLaidOut_indented (depth + 1) item
    have hitems := isLaidOut_indentedItems depth items
    rw [indented]
    exact (((isLaidOut_cons_newline depth (by decide)).append hitem).append
      hitems).append_close depth (by decide)
  | .object [] => isLaidOut_of_not_mem (show '\n' ∉ ['\x7b', '\x7d'] by decide)
  | .object ((key, value) :: members) => by
    have hkey := isLaidOut_of_not_mem (feed_not_mem_write key)
    have hcolon : IsLaidOut (": " : Text) := isLaidOut_of_not_mem (by decide)
    have hvalue := isLaidOut_indented (depth + 1) value
    have hmembers := isLaidOut_indentedMembers depth members
    rw [indented]
    exact (((((isLaidOut_cons_newline depth (by decide)).append hkey).append
      hcolon).append hvalue).append hmembers).append_close depth (by decide)

/-- Further items are laid out. -/
theorem isLaidOut_indentedItems (depth : Nat) :
    (items : List Json) → IsLaidOut (indentedItems (depth + 1) items)
  | [] => isLaidOut_of_not_mem (by simp [indentedItems])
  | item :: items => by
    have hitem := isLaidOut_indented (depth + 1) item
    have hitems := isLaidOut_indentedItems depth items
    rw [indentedItems]
    exact ((isLaidOut_cons_newline depth (by decide)).append hitem).append hitems

/-- Further members are laid out. -/
theorem isLaidOut_indentedMembers (depth : Nat) :
    (members : List (Text × Json)) → IsLaidOut (indentedMembers (depth + 1) members)
  | [] => isLaidOut_of_not_mem (by simp [indentedMembers])
  | (key, value) :: members => by
    have hkey := isLaidOut_of_not_mem (feed_not_mem_write key)
    have hcolon : IsLaidOut (": " : Text) := isLaidOut_of_not_mem (by decide)
    have hvalue := isLaidOut_indented (depth + 1) value
    have hmembers := isLaidOut_indentedMembers depth members
    rw [indentedMembers]
    exact ((((isLaidOut_cons_newline depth (by decide)).append hkey).append
      hcolon).append hvalue).append hmembers

end

/-- A further line of a laid out text begins as it should, unless it is empty. -/
theorem IsLaidOut.opensLine_of_mem_tail {text line : Text} (h : IsLaidOut text)
    (hline : line ∈ (Text.lines text).tail) : ∀ c ∈ line.head?, opensLine c = true := by
  intro c hc
  have hchain := h.chain.infix (Text.infix_of_mem_tail_lines hline)
  exact (List.isChain_cons.mp hchain).1 c hc rfl

/-- The first character of a written list is its bracket. -/
theorem head?_pretty_array (items : List Json) : (pretty (.array items)).head? = some '[' := by
  cases items with
  | nil =>
    have hempty : ("[]" : Text).head? = some '[' := by decide
    exact hempty
  | cons item items =>
    rw [pretty, indented]
    rfl

/-- No line of a written list begins with a number sign. -/
theorem mark_not_mem_lines_pretty (items : List Json) (rest : Text) :
    '#' :: rest ∉ Text.lines (pretty (.array items)) := by
  intro hmem
  cases hlines : Text.lines (pretty (.array items)) with
  | nil => simp [hlines] at hmem
  | cons first more =>
    rw [hlines] at hmem
    rcases List.mem_cons.mp hmem with rfl | hmore
    · obtain ⟨tail, htail⟩ := Text.prefix_of_lines_eq_cons hlines
      have hhead := head?_pretty_array items
      rw [← htail, List.cons_append, List.head?_cons] at hhead
      exact absurd (Option.some.inj hhead) (by decide)
    · have htail : '#' :: rest ∈ (Text.lines (pretty (.array items))).tail := by rwa [hlines]
      have hopens := (isLaidOut_indented 0 (.array items)).opensLine_of_mem_tail htail '#' rfl
      exact absurd hopens (by decide)

end Json

end TaskSheet
