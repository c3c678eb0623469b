import TaskSheet.Text.Lines
import Mathlib.Data.List.Basic

/-!
# Pieces between line feeds

Where a text is cut at its line feeds and nowhere else, the pieces determine the text. Lines
that are put together come apart in this way as they were, and what stands directly behind a
line feed is the beginning of a piece.
-/

namespace TaskSheet.Text

/-- The pieces of a text between its line feeds. Nothing else belongs to a line ending here,
so that the pieces determine the text. -/
def pieces (text : Text) : List Text := text.splitOn '\n'

/-- A text without line feeds is one piece. -/
theorem pieces_of_not_mem {text : Text} (h : '\n' ∉ text) : pieces text = [text] :=
  List.splitOn_eq_singleton h

/-- A text is its pieces with line feeds between them. -/
theorem unlines_pieces (text : Text) : unlines (pieces text) = text :=
  List.intercalate_splitOn '\n'

/-- Texts with the same pieces are equal. -/
theorem pieces_injective : Function.Injective pieces := fun first second h => by
  rw [← unlines_pieces first, h, unlines_pieces]

/-- A line feed separates the pieces before it from those behind it. -/
theorem pieces_append_feed (first rest : Text) :
    pieces (first ++ '\n' :: rest) = pieces first ++ pieces rest := by
  simp only [pieces, List.splitOn_eq_splitOnP]
  exact List.splitOnP_append_cons first rest (beq_self_eq_true '\n')

/-- The pieces of lines that are put together are those of the lines, in order. -/
theorem pieces_unlines {parts : List Text} (hne : parts ≠ []) :
    pieces (unlines parts) = parts.flatMap pieces := by
  induction parts with
  | nil => contradiction
  | cons part parts ih =>
    cases parts with
    | nil => rw [unlines_singleton, List.flatMap_singleton]
    | cons next parts =>
      rw [unlines_cons_cons, pieces_append_feed, ih (List.cons_ne_nil _ _), ← List.flatMap_cons]

/-- Lines without line feeds are their own pieces. -/
theorem flatMap_pieces {parts : List Text} (h : ∀ part ∈ parts, '\n' ∉ part) :
    parts.flatMap pieces = parts := by
  induction parts with
  | nil => rfl
  | cons part parts ih =>
    rw [List.flatMap_cons, pieces_of_not_mem (h part List.mem_cons_self),
      ih fun p hp => h p (List.mem_cons_of_mem _ hp)]
    rfl

/-- Terminated lines are their own pieces, and behind the last line feed stands an empty one. -/
theorem pieces_terminated {parts : List Text} (h : ∀ part ∈ parts, '\n' ∉ part) :
    pieces (terminated parts) = parts ++ [[]] := by
  induction parts with
  | nil => rfl
  | cons part parts ih =>
    rw [List.forall_mem_cons] at h
    have hshape : terminated (part :: parts) = part ++ '\n' :: terminated parts := by
      simp [terminated]
    rw [hshape, pieces_append_feed, pieces_of_not_mem h.1, ih h.2, List.singleton_append,
      List.cons_append]

/-- A line feed begins a new piece. -/
theorem pieces_feed_cons (text : Text) : pieces ('\n' :: text) = [] :: pieces text := by
  rw [pieces, List.splitOn_cons_eq_if_modifyHead, if_pos (beq_self_eq_true '\n'), pieces]

/-- Any other character belongs to the first piece. -/
theorem pieces_cons_of_ne {c : Char} (h : c ≠ '\n') (text : Text) :
    pieces (c :: text) = (pieces text).modifyHead (c :: ·) := by
  rw [pieces, List.splitOn_cons_eq_if_modifyHead, if_neg (by simpa using h), pieces]

/-- Every text has a first piece. -/
theorem exists_pieces_cons (text : Text) : ∃ first rest, pieces text = first :: rest :=
  List.exists_cons_of_ne_nil (List.splitOn_ne_nil '\n' text)

/-- A mark on one line stands at the start of a text exactly when it stands at the start of
the first piece. -/
theorem prefix_first_piece_iff {mark text first : Text} {rest : List Text} (hmark : '\n' ∉ mark)
    (h : pieces text = first :: rest) : mark <+: first ↔ mark <+: text := by
  induction text generalizing mark first with
  | nil =>
    obtain ⟨rfl, -⟩ := List.cons.inj h
    rfl
  | cons c text ih =>
    cases mark with
    | nil => simp
    | cons d mark =>
      obtain ⟨hd, hmark⟩ : d ≠ '\n' ∧ '\n' ∉ mark := by simpa [eq_comm] using hmark
      by_cases hc : c = '\n'
      · subst hc
        obtain ⟨rfl, -⟩ := List.cons.inj ((pieces_feed_cons text).symm.trans h)
        simp [hd]
      · obtain ⟨next, more, hpieces⟩ := exists_pieces_cons text
        rw [pieces_cons_of_ne hc, hpieces] at h
        obtain ⟨rfl, rfl⟩ := List.cons.inj h
        rw [List.cons_prefix_cons, List.cons_prefix_cons, ih hmark hpieces]

/-- A piece behind the first begins with a mark exactly when the mark stands somewhere behind
a line feed. -/
theorem exists_prefix_tail_pieces_iff {mark text : Text} (hmark : '\n' ∉ mark) :
    (∃ piece ∈ (pieces text).tail, mark <+: piece) ↔ '\n' :: mark <:+: text := by
  induction text with
  | nil => simp [pieces]
  | cons c text ih =>
    obtain ⟨first, rest, hpieces⟩ := exists_pieces_cons text
    rw [hpieces, List.tail_cons] at ih
    rw [List.infix_cons_iff, ← ih, List.cons_prefix_cons, ← prefix_first_piece_iff hmark hpieces]
    by_cases hc : c = '\n'
    · subst hc
      simp [pieces_feed_cons, hpieces]
    · simp [pieces_cons_of_ne hc, hpieces, Ne.symm hc]

end TaskSheet.Text
