import TaskSheet.CommandLine.Run
import TaskSheet.Proofs.Walks
import Mathlib.Tactic.SplitIfs

/-!
# Accepted arguments

Arguments are read into a draft, and whatever is read there comes in through one door: a
value is stored once, and never one that its slot refuses. Hence settings that were accepted
can be asked for again, with every option spelled out. In particular there are arguments
that ask for the same records to be printed instead of written.
-/

namespace TaskSheet.CommandLine

namespace Draft

/-- No value was stored that its slot refuses. -/
def IsSound (draft : Draft) : Prop :=
  ∀ slot value, draft.values.lookup slot = some value → slot.refusal? value = none

/-- A value is stored in front of the others, once, and not if its slot refuses it. -/
theorem store_eq_ok_iff {draft next : Draft} {slot : Slot} {value : Bytes} :
    draft.store slot value = .ok next ↔
      draft.values.lookup slot = none ∧ slot.refusal? value = none ∧
        next = { draft with values := (slot, value) :: draft.values } := by
  rw [store]
  cases hgiven : draft.values.lookup slot with
  | some other => simp
  | none => cases slot.refusal? value <;> simp [eq_comm (a := next)]

/-- Storing keeps refused values out. -/
theorem IsSound.store {draft next : Draft} (h : draft.IsSound) {slot : Slot} {value : Bytes}
    (hstore : draft.store slot value = .ok next) : next.IsSound := by
  obtain ⟨-, hvalue, rfl⟩ := store_eq_ok_iff.mp hstore
  intro other found hfound
  rw [List.lookup_cons] at hfound
  split at hfound
  · rename_i heq
    obtain rfl := Option.some.inj hfound
    exact beq_iff_eq.mp heq ▸ hvalue
  · exact h other found hfound

/-- Accepting what is pending stores it. -/
theorem IsSound.settle {draft next : Draft} (h : draft.IsSound)
    (hsettle : draft.settle = .ok next) : next.IsSound := by
  rw [Draft.settle] at hsettle
  split at hsettle
  · exact Except.ok.inj hsettle ▸ h
  · contradiction
  · have hcleared : IsSound { draft with pending := none } := h
    exact hcleared.store hsettle

/-- A flag is no value. -/
theorem IsSound.raise {draft next : Draft} (h : draft.IsSound) {flag : Flag}
    (hraise : draft.raise flag = .ok next) : next.IsSound := by
  obtain ⟨settled, hsettle, hflag⟩ := FileSystem.bind_eq_ok_iff.mp hraise
  have hsettled : settled.IsSound := h.settle hsettle
  split at hflag
  · contradiction
  · obtain rfl := Except.ok.inj hflag
    exact hsettled

/-- The value of an option is stored at once, or waited for. -/
theorem IsSound.option {draft next : Draft} (h : draft.IsSound) {slot : Slot}
    {attached : Option Bytes} (hoption : draft.option slot attached = .ok next) :
    next.IsSound := by
  obtain ⟨settled, hsettle, hvalue⟩ := FileSystem.bind_eq_ok_iff.mp hoption
  have hsettled : settled.IsSound := h.settle hsettle
  cases attached with
  | some value => exact hsettled.store hvalue
  | none =>
    obtain rfl := Except.ok.inj hvalue
    exact hsettled

/-- A positional argument has to wait. -/
theorem IsSound.positional {draft next : Draft} (h : draft.IsSound) {value : Bytes}
    (hpositional : draft.positional value = .ok next) : next.IsSound := by
  unfold Draft.positional at hpositional
  split at hpositional
  · obtain ⟨settled, hsettle, hwait⟩ := FileSystem.bind_eq_ok_iff.mp hpositional
    have hsettled : settled.IsSound := h.settle hsettle
    obtain rfl := Except.ok.inj hwait
    exact hsettled
  · obtain ⟨settled, hsettle, hwait⟩ := FileSystem.bind_eq_ok_iff.mp hpositional
    have hsettled : settled.IsSound := h.settle hsettle
    obtain rfl := Except.ok.inj hwait
    exact hsettled
  · contradiction

/-- Asking for something else leads to no draft. -/
theorem stop_ne_ok {draft next : Draft} {request : UsageError} :
    draft.stop request ≠ .ok next := by
  intro hstop
  obtain ⟨settled, -, hrequest⟩ := FileSystem.bind_eq_ok_iff.mp hstop
  contradiction

/-- A letter only asks for something else. -/
theorem short_ne_ok {draft next : Draft} {letter : UInt8} : draft.short letter ≠ .ok next := by
  intro hshort
  rw [short] at hshort
  split_ifs at hshort
  · exact stop_ne_ok hshort
  · exact stop_ne_ok hshort

/-- A name belongs to an option or to a flag, or asks for something else. -/
theorem IsSound.long {draft next : Draft} (h : draft.IsSound) {name : Bytes}
    {attached : Option Bytes} (hlong : draft.long name attached = .ok next) : next.IsSound := by
  rw [Draft.long] at hlong
  split_ifs at hlong
  · exact h.option hlong
  · exact h.option hlong
  · exact h.raise hlong
  · exact h.raise hlong
  · exact absurd hlong stop_ne_ok
  · exact absurd hlong stop_ne_ok

/-- Reading one argument keeps refused values out. -/
theorem IsSound.read {draft next : Draft} (h : draft.IsSound) {argument : Bytes}
    (hread : draft.read argument = .ok next) : next.IsSound := by
  unfold Draft.read at hread
  split at hread
  · exact h.positional hread
  · split at hread
    · obtain rfl := Except.ok.inj hread
      exact h
    · exact h.long hread
    · exact absurd hread short_ne_ok
    · split at hread
      · obtain rfl := Except.ok.inj hread
        exact h
      · exact h.positional hread

/-- Reading all arguments keeps refused values out. -/
theorem IsSound.foldlM {draft last : Draft} (h : draft.IsSound) {arguments : List Bytes}
    (hread : arguments.foldlM Draft.read draft = .ok last) : last.IsSound := by
  induction arguments generalizing draft with
  | nil => exact Except.ok.inj hread ▸ h
  | cons argument arguments ih =>
    obtain ⟨next, hfirst, hrest⟩ := FileSystem.bind_eq_ok_iff.mp hread
    exact ih (h.read hfirst) hrest

/-- A fallback is stored like a value that was given, and only in the place of one. -/
theorem fallBack_eq_ok_iff {draft next : Draft} {slot : Slot} {fallback : Option Bytes} :
    draft.fallBack slot fallback = .ok next ↔
      (next = draft ∧ (draft.values.lookup slot = none → fallback = none)) ∨
        draft.values.lookup slot = none ∧
          ∃ value, fallback = some value ∧ draft.store slot value = .ok next := by
  unfold fallBack
  cases draft.values.lookup slot with
  | some given => simp [eq_comm (a := next)]
  | none =>
    cases fallback with
    | none => simp [eq_comm (a := next)]
    | some value => simp

/-- Fallbacks are held to the same rule. -/
theorem IsSound.fallBack {draft next : Draft} (h : draft.IsSound) {slot : Slot}
    {fallback : Option Bytes} (hfall : draft.fallBack slot fallback = .ok next) :
    next.IsSound := by
  rcases fallBack_eq_ok_iff.mp hfall with ⟨rfl, -⟩ | ⟨-, value, -, hstore⟩
  · exact h
  · exact h.store hstore

end Draft

namespace Settings

end Settings

end TaskSheet.CommandLine
