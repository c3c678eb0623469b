import TaskSheet.Proofs.Lines

/-!
# Changes on one line

A character of a line has its place in the text. Putting another character there changes that
line and no other, as long as neither belongs to a line ending.
-/

namespace TaskSheet.Text

/-- The number of characters before a line. -/
def lineStart : (number : Nat) → Text → Nat
  | 0, _ => 0
  | _ + 1, [] => 0
  | number + 1, c :: text => lineStart (if c = '\n' then number else number + 1) text + 1

/-- A character before the place of a change is put on the first line as before: what was no
line ending is none after the change. -/
theorem lines_cons_append_cons {c b d : Char} {text before after : Text} (hfeed : c ≠ '\n')
    (hpair : ∀ rest, c = '\r' → text = '\n' :: rest → False) (htext : text = before ++ b :: after)
    (hd : d ≠ '\n') :
    lines (c :: (before ++ d :: after)) =
      (c :: (lines (before ++ d :: after)).headD []) :: (lines (before ++ d :: after)).tail := by
  refine lines_cons_of_ne hfeed ?_
  rintro ⟨hc, hhead⟩
  cases before with
  | nil => exact hd (by simpa using hhead)
  | cons a before =>
    obtain rfl : a = '\n' := by simpa using hhead
    exact hpair _ hc htext

/-- A place on a line is a place in the text. Another character that is put there changes
that line only, unless it belongs to a line ending. -/
theorem exists_split_at_place {text row : Text} {number place : Nat}
    (hrow : (lines text)[number]? = some row) (hplace : place < row.length) :
    ∃ before after, before.length = lineStart number text + place ∧
      text = before ++ row[place] :: after ∧
      ∀ c, c ≠ '\n' → c ≠ '\r' →
        lines (before ++ c :: after) = (lines text).set number (row.set place c) := by
  fun_induction lines text generalizing number place row with
  | case1 => simp at hrow
  | case2 text ih => cases number with
    | zero => simp [← Option.some.inj hrow] at hplace
    | succ number =>
      obtain ⟨before, after, hlength, htext, hrows⟩ := ih hrow hplace
      refine ⟨'\n' :: before, after, ?_, by rw [List.cons_append, ← htext], fun c hn hr => ?_⟩
      · rw [List.length_cons, hlength, lineStart, if_pos rfl]
        omega
      · exact congrArg ([] :: ·) (hrows c hn hr)
  | case3 text ih => cases number with
    | zero => simp [← Option.some.inj hrow] at hplace
    | succ number =>
      obtain ⟨before, after, hlength, htext, hrows⟩ := ih hrow hplace
      refine ⟨'\r' :: '\n' :: before, after, ?_,
        by rw [List.cons_append, List.cons_append, ← htext], fun c hn hr => ?_⟩
      · rw [List.length_cons, List.length_cons, hlength, lineStart, if_neg (by decide), lineStart,
          if_pos rfl]
        omega
      · exact congrArg ([] :: ·) (hrows c hn hr)
  | case4 c text hfeed _ hrows _ => cases number with
    | zero =>
      obtain rfl := Option.some.inj hrow
      obtain rfl : place = 0 := by simpa using hplace
      obtain rfl := lines_eq_nil_iff.mp hrows
      refine ⟨[], [], rfl, rfl, fun d hn hr => ?_⟩
      rw [List.nil_append, lines_cons_of_ne hn (by simp)]
      rfl
    | succ number => simp at hrow
  | case5 c text hfeed hpair first rest hrows ih =>
    cases number with
    | zero =>
      obtain rfl := Option.some.inj hrow
      cases place with
      | zero =>
        refine ⟨[], text, rfl, rfl, fun d hn hr => ?_⟩
        rw [List.nil_append, lines_cons_of_ne hn fun hd => hr hd.1, hrows]
        rfl
      | succ place =>
        have hfirst : (lines text)[0]? = some first := by
          rw [hrows]
          rfl
        obtain ⟨before, after, hlength, htext, hreplace⟩ :=
          ih hfirst (Nat.lt_of_succ_lt_succ hplace)
        refine ⟨c :: before, after, ?_, ?_, fun d hn hr => ?_⟩
        · rw [List.length_cons, hlength, lineStart, lineStart]
          omega
        · exact congrArg (c :: ·) htext
        · rw [List.cons_append, lines_cons_append_cons hfeed hpair htext hn, hreplace d hn hr,
            hrows]
          rfl
    | succ number =>
      have hrest : (lines text)[number + 1]? = some row := by rwa [hrows]
      obtain ⟨before, after, hlength, htext, hreplace⟩ := ih hrest hplace
      refine ⟨c :: before, after, ?_, ?_, fun d hn hr => ?_⟩
      · rw [List.length_cons, hlength, lineStart, if_neg hfeed]
        omega
      · exact congrArg (c :: ·) htext
      · rw [List.cons_append, lines_cons_append_cons hfeed hpair htext hn, hreplace d hn hr,
          hrows]
        rfl

/-- A character of a line stands in the text at the same distance from the start of the line. -/
theorem getElem?_lineStart_add {text row : Text} {number place : Nat}
    (hrow : (lines text)[number]? = some row) (hplace : place < row.length) :
    text[lineStart number text + place]? = row[place]? := by
  obtain ⟨before, after, hlength, htext, -⟩ := exists_split_at_place hrow hplace
  rw [← hlength, htext, List.getElem?_append_right (Nat.le_refl _), Nat.sub_self,
    List.getElem?_cons_zero, List.getElem?_eq_getElem hplace]

/-- A character that is put in the place of one on a line changes that line only, unless it
belongs to a line ending. -/
theorem lines_set {text row : Text} {number place : Nat} {c : Char}
    (hrow : (lines text)[number]? = some row) (hplace : place < row.length)
    (hfeed : c ≠ '\n') (hreturn : c ≠ '\r') :
    lines (text.set (lineStart number text + place) c) =
      (lines text).set number (row.set place c) := by
  obtain ⟨before, after, hlength, htext, hrows⟩ := exists_split_at_place hrow hplace
  rw [← hrows c hfeed hreturn, ← hlength]
  nth_rewrite 1 [htext]
  rw [List.set_append_right _ _ (Nat.le_refl _), Nat.sub_self, List.set_cons_zero]

end TaskSheet.Text
