import TaskSheet.Proofs.Blanks
import TaskSheet.Text.Lines

/-!
# Taking lines apart and putting them together

A text that is cut at its line feeds falls into lines that hold no line feed and stand
somewhere in the text. Cutting is local: what stands behind a line feed is cut as if
nothing stood before it. Hence lines that were put together come out again, as long as
none of them ends with a carriage return, which would be taken for a part of the ending.
-/

namespace TaskSheet.Text

/-- A text that fills the rest of a line visibly: it is not empty, has no blank character
at either end, and stays on the line. -/
structure IsField (text : Text) : Prop where
  /-- There is a text. -/
  ne_nil : text ≠ []
  /-- It is trimmed. -/
  trim_eq : trim text = text
  /-- It stays on its line. -/
  no_feed : '\n' ∉ text

/-- Whether a text is a field is decided by its three conditions. -/
instance (text : Text) : Decidable (IsField text) :=
  decidable_of_iff (text ≠ [] ∧ trim text = text ∧ '\n' ∉ text)
    ⟨fun ⟨hne, htrim, hfeed⟩ => ⟨hne, htrim, hfeed⟩, fun h => ⟨h.ne_nil, h.trim_eq, h.no_feed⟩⟩

/-- A text that comes out as one line when a line feed is put behind it. -/
def IsLine (line : Text) : Prop := '\n' ∉ line ∧ line.getLast? ≠ some '\r'

/-- A text that ends visibly does not end with a part of a line ending. -/
theorem EndsVisible.getLast?_ne {text : Text} (h : EndsVisible text) :
    text.getLast? ≠ some '\n' ∧ text.getLast? ≠ some '\r' :=
  ⟨fun hlast => absurd (h '\n' hlast) (by decide), fun hlast => absurd (h '\r' hlast) (by decide)⟩

/-- A field ends visibly. -/
theorem IsField.endsVisible {text : Text} (h : IsField text) : EndsVisible text :=
  h.trim_eq ▸ endsVisible_trim text

/-- A field behind other characters of a line completes that line. -/
theorem IsField.isLine_append {text start : Text} (h : IsField text) (hstart : '\n' ∉ start) :
    IsLine (start ++ text) := by
  refine ⟨by simp [hstart, h.no_feed], ?_⟩
  rw [List.getLast?_append_of_ne_nil _ h.ne_nil]
  exact h.endsVisible.getLast?_ne.2

/-- A character that ends no line is added to the first line of what follows it. -/
theorem lines_cons_of_ne {c : Char} {text : Text} (hfeed : c ≠ '\n')
    (hpair : ¬(c = '\r' ∧ text.head? = some '\n')) :
    lines (c :: text) =
      (c :: (lines text).headD []) :: (lines text).tail := by
  rw [lines.eq_4 c text hfeed (fun rest hc htext => hpair ⟨hc, by simp [htext]⟩)]
  cases lines text <;> rfl

/-- No line holds a line feed. -/
theorem not_mem_of_mem_lines {line text : Text} (h : line ∈ lines text) : '\n' ∉ line := by
  fun_induction lines text generalizing line with
  | case1 => simp at h
  | case2 text ih =>
    rcases List.mem_cons.mp h with rfl | h
    · simp
    · exact ih h
  | case3 text ih =>
    rcases List.mem_cons.mp h with rfl | h
    · simp
    · exact ih h
  | case4 c text hfeed _ _ _ =>
    rw [List.mem_singleton.mp h, List.mem_singleton]
    exact fun hc => hfeed hc.symm
  | case5 c text hfeed _ first rest hlines ih =>
    rcases List.mem_cons.mp h with rfl | h
    · have hfirst : '\n' ∉ first := ih (by rw [hlines]; exact List.mem_cons_self)
      simpa [Ne.symm hfeed] using hfirst
    · exact ih (by rw [hlines]; exact List.mem_cons_of_mem _ h)

/-- The first line of a text stands at its start. -/
theorem prefix_of_lines_eq_cons {text first : Text} {rest : List Text}
    (h : lines text = first :: rest) : first <+: text := by
  fun_induction lines text generalizing first rest with
  | case1 => simp at h
  | case2 text => simp [(List.cons.inj h).1.symm]
  | case3 text => simp [(List.cons.inj h).1.symm]
  | case4 c text => simp [(List.cons.inj h).1.symm]
  | case5 c text _ _ line more hlines ih =>
    rw [← (List.cons.inj h).1, List.cons_prefix_cons]
    exact ⟨rfl, ih hlines⟩

/-- Every further line stands behind a line feed. -/
theorem infix_of_mem_tail_lines {line text : Text} (h : line ∈ (lines text).tail) :
    '\n' :: line <:+: text := by
  -- A line feed in front of a text makes a further line of each of its lines.
  have hfeed : ∀ rest : Text, (∀ l ∈ (lines rest).tail, '\n' :: l <:+: rest) →
      ∀ l ∈ lines rest, '\n' :: l <:+: '\n' :: rest := by
    intro rest hrest l hl
    cases hlines : lines rest with
    | nil => simp [hlines] at hl
    | cons first more =>
      rw [hlines] at hl hrest
      rcases List.mem_cons.mp hl with rfl | hl
      · exact (List.cons_prefix_cons.mpr ⟨rfl, prefix_of_lines_eq_cons hlines⟩).isInfix
      · exact (hrest l hl).trans (List.suffix_cons _ _).isInfix
  fun_induction lines text generalizing line with
  | case1 => simp at h
  | case2 text ih => exact hfeed text (fun l hl => ih hl) line h
  | case3 text ih =>
    exact (hfeed text (fun l hl => ih hl) line h).trans (List.suffix_cons _ _).isInfix
  | case4 c text => simp at h
  | case5 c text _ _ first rest hlines ih =>
    rw [hlines] at ih
    exact (ih h).trans (List.suffix_cons _ _).isInfix

/-- Every line stands in the text without interruption. -/
theorem infix_of_mem_lines {line text : Text} (h : line ∈ lines text) : line <:+: text := by
  cases hlines : lines text with
  | nil => simp [hlines] at h
  | cons first rest =>
    rw [hlines] at h
    rcases List.mem_cons.mp h with rfl | hrest
    · exact (prefix_of_lines_eq_cons hlines).isInfix
    · have hline : line ∈ (lines text).tail := by rwa [hlines]
      exact (List.suffix_cons _ _).isInfix.trans (infix_of_mem_tail_lines hline)

/-- What stands behind a line feed is cut as if nothing stood before it. -/
theorem lines_append_line_feed (text rest : Text) :
    lines (text ++ '\n' :: rest) = lines (text ++ ['\n']) ++ lines rest := by
  induction text using lines.induct with
  | case1 => simp [lines]
  | case2 text ih => simpa [lines] using ih
  | case3 text ih => simpa [lines] using ih
  | case4 c text hfeed hpair hlines ih =>
    rw [lines_eq_nil_iff.mp hlines]
    by_cases hreturn : c = '\r'
    · subst hreturn
      simp [lines]
    · simp [lines_cons_of_ne hfeed, hreturn, lines]
  | case5 c text hfeed hpair first more hlines ih =>
    have hne : text ≠ [] := fun htext => by simp [htext, lines] at hlines
    obtain ⟨d, text, rfl⟩ := List.exists_cons_of_ne_nil hne
    have hsplit : ∀ tail : Text, lines (c :: d :: text ++ '\n' :: tail) =
        (c :: (lines (d :: text ++ '\n' :: tail)).headD []) ::
          (lines (d :: text ++ '\n' :: tail)).tail := by
      intro tail
      refine lines_cons_of_ne hfeed ?_
      rintro ⟨hc, hd⟩
      exact hpair text hc (by simpa using hd)
    have hfirst : lines (d :: text ++ ['\n']) ≠ [] := by
      rw [Ne, lines_eq_nil_iff]
      simp
    obtain ⟨line, others, hcons⟩ := List.exists_cons_of_ne_nil hfirst
    rw [hsplit, hsplit, ih, hcons]
    rfl

/-- Without its ending cut off, the last line of a text would be the same. -/
theorem lines_append_singleton {text : Text} (hne : text ≠ [])
    (hfeed : text.getLast? ≠ some '\n') (hreturn : text.getLast? ≠ some '\r') :
    lines (text ++ ['\n']) = lines text := by
  induction text with
  | nil => contradiction
  | cons c text ih =>
    by_cases htext : text = []
    · subst htext
      have hc : c ≠ '\n' := by simpa using hfeed
      have hc' : c ≠ '\r' := by simpa using hreturn
      simp [lines_cons_of_ne hc, hc', lines]
    · obtain ⟨d, tail, rfl⟩ := List.exists_cons_of_ne_nil htext
      have ih := ih htext (by simpa using hfeed) (by simpa using hreturn)
      by_cases hc : c = '\n'
      · subst hc
        exact congrArg ([] :: ·) ih
      · by_cases hpair : c = '\r' ∧ (d :: tail).head? = some '\n'
        · obtain ⟨rfl, hd⟩ := hpair
          obtain rfl : d = '\n' := by simpa using hd
          exact ih
        · rw [List.cons_append, lines_cons_of_ne hc hpair,
            lines_cons_of_ne hc (by simpa using hpair), ih]

/-- A line comes out as it went in. -/
theorem IsLine.lines {line : Text} (h : IsLine line) : lines (line ++ ['\n']) = [line] := by
  induction line with
  | nil => rfl
  | cons c line ih =>
    obtain ⟨hmem, hlast⟩ := h
    have hc : c ≠ '\n' := fun hc => hmem (by simp [hc])
    have hpair : ¬(c = '\r' ∧ (line ++ ['\n']).head? = some '\n') := by
      rintro ⟨hreturn, hhead⟩
      cases line with
      | nil => simp [hreturn] at hlast
      | cons d line => simp [show d = '\n' by simpa using hhead] at hmem
    have hline : IsLine line := by
      refine ⟨fun hmem' => hmem (List.mem_cons_of_mem _ hmem'), fun hlast' => hlast ?_⟩
      rw [List.getLast?_cons, hlast']
      rfl
    rw [List.cons_append, lines_cons_of_ne hc hpair, ih hline]
    rfl

/-- The first line is cut off, whatever follows it. -/
theorem IsLine.lines_append {line : Text} (h : IsLine line) (rest : Text) :
    Text.lines (line ++ '\n' :: rest) = line :: Text.lines rest := by
  rw [lines_append_line_feed, h.lines, List.singleton_append]

/-- Terminated lines are cut off one by one. -/
theorem lines_terminated_append {parts : List Text} (h : ∀ part ∈ parts, IsLine part)
    (rest : Text) : lines (terminated parts ++ rest) = parts ++ lines rest := by
  induction parts with
  | nil => rfl
  | cons part parts ih =>
    have hpart : IsLine part := h part List.mem_cons_self
    have hshape : terminated (part :: parts) ++ rest =
        part ++ '\n' :: (terminated parts ++ rest) := by
      simp [terminated]
    rw [hshape, hpart.lines_append, ih fun p hp => h p (List.mem_cons_of_mem _ hp)]
    rfl

/-- Lines that are terminated come out as they went in. -/
theorem lines_terminated {parts : List Text} (h : ∀ part ∈ parts, IsLine part) :
    lines (terminated parts) = parts := by
  simpa [lines] using lines_terminated_append h []

/-- A text without a line feed is its own only line. -/
theorem lines_of_not_mem {text : Text} (hne : text ≠ []) (h : '\n' ∉ text) :
    lines text = [text] := by
  induction text with
  | nil => contradiction
  | cons c text ih =>
    obtain ⟨hc, htext⟩ : c ≠ '\n' ∧ '\n' ∉ text := by simpa [eq_comm] using h
    have hpair : ¬(c = '\r' ∧ text.head? = some '\n') :=
      fun hpair => htext (List.mem_of_mem_head? hpair.2)
    rw [lines_cons_of_ne hc hpair]
    by_cases hempty : text = []
    · simp [hempty, lines]
    · simp [ih hempty htext]

/-- Lines with line feeds between them come out as they went in, if the last one is
visible as a line. -/
theorem lines_unlines {parts : List Text} (h : ∀ part ∈ parts, IsLine part)
    (hlast : parts.getLast? ≠ some []) : lines (unlines parts) = parts := by
  induction parts with
  | nil => rfl
  | cons part parts ih =>
    have hpart : IsLine part := h part List.mem_cons_self
    cases parts with
    | nil =>
      have hne : part ≠ [] := by simpa using hlast
      rw [unlines_singleton, lines_of_not_mem hne hpart.1]
    | cons next parts =>
      have ih := ih (fun p hp => h p (List.mem_cons_of_mem _ hp)) (by simpa using hlast)
      rw [unlines_cons_cons, hpart.lines_append, ih]

/-- Lines are put together to the text from which they were cut, if it has no carriage
return before a line feed and no ending behind its last line. -/
theorem unlines_lines {text : Text} (hpair : ¬['\r', '\n'] <:+: text)
    (hfeed : text.getLast? ≠ some '\n') : unlines (lines text) = text := by
  fun_induction lines text with
  | case1 => rfl
  | case2 text ih =>
    have hne : text ≠ [] := fun htext => by simp [htext] at hfeed
    have ih := ih (fun h => hpair (h.trans (List.suffix_cons _ _).isInfix))
      (by rwa [List.getLast?_cons_of_ne_nil hne] at hfeed)
    obtain ⟨line, rest, hlines⟩ := List.exists_cons_of_ne_nil (mt lines_eq_nil_iff.mp hne)
    rw [hlines] at ih ⊢
    rw [unlines_cons_cons, List.nil_append, ih]
  | case3 text => exact absurd ⟨[], text, rfl⟩ hpair
  | case4 c text _ _ hlines =>
    rw [lines_eq_nil_iff.mp hlines, unlines_singleton]
  | case5 c text _ _ line rest hlines ih =>
    have hne : text ≠ [] := fun htext => by simp [htext, lines] at hlines
    have ih := ih (fun h => hpair (h.trans (List.suffix_cons _ _).isInfix))
      (by rwa [List.getLast?_cons_of_ne_nil hne] at hfeed)
    rw [hlines, unlines] at ih
    rw [unlines, List.intercalate_cons_cons_left, ih]

/-- Parts are put together to nothing exactly if there is none, or a single one that is empty. -/
theorem unlines_eq_nil_iff {parts : List Text} :
    unlines parts = [] ↔ parts = [] ∨ parts = [[]] := by
  match parts with
  | [] => simp [unlines]
  | [part] => simp [unlines_singleton]
  | part :: next :: parts => simp [unlines_cons_cons]

/-- Parts the last of which is visible are put together to something visible. -/
theorem unlines_eq_nil_iff_of_visible {parts : List Text}
    (h : ∀ part, parts.getLast? = some part → isAllBlank part = false) :
    unlines parts = [] ↔ parts = [] := by
  rw [unlines_eq_nil_iff, or_iff_left_iff_imp]
  rintro rfl
  exact absurd (h [] rfl) (by decide)

/-- A text that is put together of parts is blank exactly if each part is. -/
theorem isAllBlank_unlines {parts : List Text} :
    isAllBlank (unlines parts) = true ↔ ∀ part ∈ parts, isAllBlank part = true := by
  induction parts with
  | nil => simp [unlines, isAllBlank]
  | cons part parts ih =>
    cases parts with
    | nil => simp [unlines_singleton]
    | cons next parts =>
      have hfeed : isBlank '\n' = true := by decide
      have hsplit : isAllBlank (part ++ '\n' :: unlines (next :: parts)) =
          (isAllBlank part && isAllBlank (unlines (next :: parts))) := by
        simp [isAllBlank, hfeed]
      rw [unlines_cons_cons, hsplit, Bool.and_eq_true, ih, List.forall_mem_cons (a := part)]

end TaskSheet.Text
