import TaskSheet.Proofs.PromptLines
import Mathlib.Data.List.Infix

/-!
# What stands in a prompt

A prompt is put together of fixed texts and of fields. Many things that are looked for in a
prompt are paths: they end with a slash, hold no line feed, and begin in none of the fixed texts.
Such a part can stand in the fields alone. Two fields meet only where the path of a module is put
together, where the commands of the setup follow each other, and where the two entries of a
module stand side by side.
-/

namespace TaskSheet

namespace Text

/-! ## Parts of texts -/

/-- The part begins nowhere in the text, however the text goes on. -/
def Misses (part text : Text) : Prop :=
  ∀ rest, rest <:+ text → rest ≠ [] → ¬rest <+: part ∧ ¬part <+: rest

/-- Whether a part begins nowhere in a text is decided by looking at every place. -/
instance (part text : Text) : Decidable (Misses part text) :=
  decidable_of_iff (∀ rest ∈ text.tails, rest ≠ [] → ¬rest <+: part ∧ ¬part <+: rest)
    (by simp only [List.mem_tails, Misses])

/-- A part begins nowhere in a text that does not hold its first character. -/
theorem misses_of_not_mem {c : Char} {part text : Text} (h : c ∉ text) :
    Misses (c :: part) text := by
  intro rest hrest hne
  obtain ⟨d, rest, rfl⟩ := List.exists_cons_of_ne_nil hne
  have hd : d ≠ c := fun hd => h (hd ▸ hrest.subset List.mem_cons_self)
  exact ⟨fun hstarts => hd (List.cons_prefix_cons.mp hstarts).1,
    fun hstarts => hd (List.cons_prefix_cons.mp hstarts).1.symm⟩

/-- Where a part does not begin, none that goes on from it begins. -/
theorem Misses.append {part text : Text} (h : Misses part text) (more : Text) :
    Misses (part ++ more) text := by
  intro rest hrest hne
  obtain ⟨hbefore, hbehind⟩ := h rest hrest hne
  constructor
  · intro hstarts
    rcases List.prefix_or_prefix_of_prefix hstarts (List.prefix_append part more) with h | h
    · exact hbefore h
    · exact hbehind h
  · exact fun hstarts => hbehind ((List.prefix_append part more).trans hstarts)

/-- A text in which a part does not begin adds no occurrence before another text. -/
theorem infix_append_iff_of_misses {part fixed text : Text} (h : Misses part fixed) :
    part <:+: fixed ++ text ↔ part <:+: text := by
  induction fixed with
  | nil => rfl
  | cons c fixed ih =>
    -- At this place the part would have to agree with what is left of the fixed text.
    have hstarts : ¬part <+: c :: (fixed ++ text) := fun hstarts => by
      have hwhole : c :: fixed <+: c :: (fixed ++ text) := List.prefix_append (c :: fixed) text
      obtain ⟨hbefore, hbehind⟩ := h _ List.suffix_rfl (List.cons_ne_nil c fixed)
      exact (List.prefix_or_prefix_of_prefix hwhole hstarts).elim hbefore hbehind
    rw [List.cons_append, List.infix_cons_iff, or_iff_right hstarts]
    exact ih fun rest hrest => h rest (hrest.trans (List.suffix_cons c fixed))

/-- A part does not stand in a text in which it does not begin. -/
theorem not_infix_of_misses {part fixed : Text} (hne : part ≠ []) (h : Misses part fixed) :
    ¬part <:+: fixed := by
  rw [← List.append_nil fixed, infix_append_iff_of_misses h, List.infix_nil]
  exact hne

/-- A text without the last character of a part adds no occurrence behind another text. -/
theorem infix_append_iff_of_getLast? {part text fixed : Text} {c : Char}
    (hlast : part.getLast? = some c) (h : c ∉ fixed) :
    part <:+: text ++ fixed ↔ part <:+: text := by
  constructor
  · rw [List.infix_append_iff_ne_nil]
    rintro (htext | hfixed | ⟨start, rest, -, hne, rfl, -, hstarts⟩)
    · exact htext
    · exact absurd (hfixed.subset (List.mem_of_getLast? hlast)) h
    · rw [List.getLast?_append_of_ne_nil start hne] at hlast
      exact absurd (hstarts.subset (List.mem_of_getLast? hlast)) h
  · exact fun htext => htext.trans (List.prefix_append _ _).isInfix

/-- A character that a part does not hold keeps two texts apart. -/
theorem infix_append_cons_iff {part : Text} {c : Char} (hne : part ≠ []) (hc : c ∉ part)
    (first second : Text) :
    part <:+: first ++ c :: second ↔ part <:+: first ∨ part <:+: second := by
  have hstart : ∀ rest : Text, rest ≠ [] → rest <+: c :: second → c ∈ rest := by
    intro rest hrest hstarts
    obtain ⟨d, rest, rfl⟩ := List.exists_cons_of_ne_nil hrest
    rw [(List.cons_prefix_cons.mp hstarts).1]
    exact List.mem_cons_self
  constructor
  · rw [List.infix_append_iff_ne_nil, List.infix_cons_iff]
    rintro (hfirst | (hstarts | hsecond) | ⟨start, rest, -, hrest, rfl, -, hstarts⟩)
    · exact .inl hfirst
    · exact absurd (hstart part hne hstarts) hc
    · exact .inr hsecond
    · -- An occurrence across the character would hold it.
      exact absurd (List.mem_append_right start (hstart rest hrest hstarts)) hc
  · rintro (hfirst | hsecond)
    · exact hfirst.trans (List.prefix_append _ _).isInfix
    · exact hsecond.trans ((List.suffix_cons c second).trans (List.suffix_append _ _)).isInfix

/-- A text that is mentioned twice, with all that stands between the mentions put together. -/
theorem append_around_eq {close middle opening gap : Text} (hgap : close ++ middle ++ opening = gap)
    (before first text behind : Text) :
    before ++ (first ++ text ++ close) ++ middle ++ (opening ++ text ++ close) ++ behind =
      before ++ (first ++ (text ++ gap ++ text ++ (close ++ behind))) := by
  subst hgap
  simp only [List.append_assoc]

/-- Whether a part stands on one of some lines. -/
def StandsOn (part : Text) (lines : List Text) : Prop := ∃ line ∈ lines, part <:+: line

/-- Whether a part stands on one of some lines is decided by searching each of them. -/
instance (part : Text) (lines : List Text) : Decidable (StandsOn part lines) :=
  decidable_of_iff (lines.any (contains part) = true)
    (by simp only [List.any_eq_true, contains_iff_infix, StandsOn])

/-- On the first line or on one of the others. -/
theorem standsOn_cons {part line : Text} {lines : List Text} :
    StandsOn part (line :: lines) ↔ part <:+: line ∨ StandsOn part lines := by
  simp [StandsOn]

/-- On one of the first lines or on one of the others. -/
theorem standsOn_append {part : Text} {lines others : List Text} :
    StandsOn part (lines ++ others) ↔ StandsOn part lines ∨ StandsOn part others := by
  simp only [StandsOn, List.mem_append, or_and_right, exists_or]

/-- A part without line feeds stands in lines that are put together where it stands on one of
them. -/
theorem infix_unlines_iff {part : Text} (hne : part ≠ []) (hfeed : '\n' ∉ part)
    (lines : List Text) : part <:+: unlines lines ↔ StandsOn part lines := by
  induction lines with
  | nil =>
    have hnil : unlines [] = [] := rfl
    simp [hnil, StandsOn, hne]
  | cons line lines ih =>
    cases lines with
    | nil => simp [unlines_singleton, StandsOn]
    | cons next lines =>
      rw [unlines_cons_cons, infix_append_cons_iff hne hfeed, ih, ← standsOn_cons]

end Text

namespace Prompt

/-! ## Parts of prompts -/

/-- The fixed texts in front of the fields of a prompt, and those that hold slashes themselves. -/
def fixedTexts : List Text :=
  ["CURRENT SUBTASK: Validate ", "- ", "- File is located at ", "VALIDATION STEPS for ",
    "   - Update the task list by editing ", "   - Change \"", "- [ ] Validate `",
    "Begin validation of ", "- Requirements met: [Yes/No with details]",
    "- Used real database: [Confirmed/Not confirmed]"]

/-- A part in which the fixed texts of a prompt have no share. -/
structure IsForeign (part : Text) : Prop where
  /-- It ends with a slash. -/
  getLast?_eq : part.getLast? = some '/'
  /-- It holds no line feed. -/
  feed_not_mem : '\n' ∉ part
  /-- It begins in none of the fixed texts. -/
  misses_fixed : ∀ fixed ∈ fixedTexts, Text.Misses part fixed
  /-- It begins in none of the numbers of an enumeration. -/
  misses_number : ∀ n, Text.Misses part (Text.ofNat n ++ ". ")

/-- From one mention of the module to the next in the order to change its entry. -/
def entrySpan (module : Text) : Text := module ++ "`\" to \"- [x] Validate `" ++ module

namespace IsForeign

variable {part : Text} (h : IsForeign part)

include h

/-- There is a slash in it. -/
theorem slash_mem : '/' ∈ part := List.mem_of_getLast? h.getLast?_eq

/-- There is something in it. -/
theorem ne_nil : part ≠ [] := List.ne_nil_of_mem h.slash_mem

/-- It does not stand in a text without slashes. -/
theorem not_infix_plain {plain : Text} (hplain : '/' ∉ plain) : ¬part <:+: plain :=
  fun hfound => hplain (hfound.subset h.slash_mem)

/-- It does not stand on lines without slashes. -/
theorem not_standsOn_plain {lines : List Text} (hplain : ∀ line ∈ lines, '/' ∉ line) :
    ¬Text.StandsOn part lines :=
  fun ⟨line, hline, hfound⟩ => h.not_infix_plain (hplain line hline) hfound

/-- Among the headers it stands in the module. -/
theorem standsOn_headerSection {id : Text} (hid : '/' ∉ id) (module : Text) :
    Text.StandsOn part (headerSection id module) ↔ part <:+: module := by
  have htype : '/' ∉ typeLine := by decide
  have hstart : '/' ∉ idHeader ++ (" db-validation-" : Text) := by decide
  have hline : '/' ∉ idLine id := List.not_mem_append hstart hid
  have hrest : ¬Text.StandsOn part [[]] := h.not_standsOn_plain (by simp)
  have hmiss : Text.Misses part (subtaskHeader ++ " Validate ") :=
    h.misses_fixed _ (by decide)
  have hsubtask : part <:+: subtaskLine module ↔ part <:+: module :=
    Text.infix_append_iff_of_misses hmiss
  rw [headerSection, Text.standsOn_cons, Text.standsOn_cons, Text.standsOn_cons,
    or_iff_right (h.not_infix_plain htype), or_iff_right (h.not_infix_plain hline), hsubtask,
    or_iff_left hrest]

/-- In the context it stands in the objective or in the path of the module. -/
theorem standsOn_contextSection (context : PromptContext) (module : Text) :
    Text.StandsOn part (contextSection context module) ↔
      part <:+: context.objective ∨ part <:+: context.environment.modulePath module := by
  have htitle : '/' ∉ ("CONTEXT:" : Text) := Text.not_mem_literal (by decide)
  have hreal : '/' ∉ ("- Validation must use real database connections, not mocks" : Text) :=
    Text.not_mem_literal (by decide)
  have houtput :
      '/' ∉ ("- Results must be verified with both JSON and rich table outputs" : Text) :=
    Text.not_mem_literal (by decide)
  have hrest : ¬Text.StandsOn part [[]] := h.not_standsOn_plain (by simp)
  have hdash : Text.Misses part "- " := h.misses_fixed _ (by decide)
  have hplace : Text.Misses part "- File is located at " := h.misses_fixed _ (by decide)
  rw [contextSection, policyLines, Text.standsOn_cons, Text.standsOn_cons, Text.standsOn_cons,
    Text.standsOn_cons, Text.standsOn_cons, or_iff_right (h.not_infix_plain htitle),
    Text.infix_append_iff_of_misses hdash, or_iff_right (h.not_infix_plain hreal),
    or_iff_right (h.not_infix_plain houtput), Text.infix_append_iff_of_misses hplace,
    or_iff_left hrest]

/-- On numbered lines it stands in the items. -/
theorem standsOn_numberedFrom (first : Nat) (items : List Text) :
    Text.StandsOn part (numberedFrom first items) ↔ Text.StandsOn part items := by
  induction items generalizing first with
  | nil => rfl
  | cons item items ih =>
    rw [numberedFrom, Text.standsOn_cons, Text.standsOn_cons, ih,
      Text.infix_append_iff_of_misses (h.misses_number first)]

/-- Among the requirements it stands in one of them. -/
theorem standsOn_requirementsSection (requirements : List Text) :
    Text.StandsOn part (requirementsSection requirements) ↔ Text.StandsOn part requirements := by
  have htitle : '/' ∉ requirementsTitle := Text.not_mem_literal (by decide)
  rw [requirementsSection, Text.standsOn_cons, or_iff_right (h.not_infix_plain htitle), numbered,
    h.standsOn_numberedFrom]

/-- Among the steps it stands in one of them, or above them in the module. -/
theorem standsOn_stepsSection (task : Task) :
    Text.StandsOn part (stepsSection task) ↔
      part <:+: task.module ∨ Text.StandsOn part task.steps := by
  have hcolon : '/' ∉ (":" : Text) := by decide
  have hrest : ¬Text.StandsOn part [[]] := h.not_standsOn_plain (by simp)
  have hmiss : Text.Misses part "VALIDATION STEPS for " := h.misses_fixed _ (by decide)
  have htitle : part <:+: stepsTitle task.module ↔ part <:+: task.module :=
    (Text.infix_append_iff_of_getLast? h.getLast?_eq hcolon).trans
      (Text.infix_append_iff_of_misses hmiss)
  rw [stepsSection, Text.standsOn_cons, Text.standsOn_cons, Text.standsOn_append, numbered,
    h.standsOn_numberedFrom, or_iff_left hrest,
    or_iff_right (h.not_infix_plain List.not_mem_nil), htitle]

/-- In the line that names the sheet it stands in the path of the sheet. -/
theorem infix_taskFileLine_iff (taskFile : Text) :
    part <:+: taskFileLine taskFile ↔ part <:+: taskFile := by
  have hmiss : Text.Misses part "   - Update the task list by editing " :=
    h.misses_fixed _ (by decide)
  exact Text.infix_append_iff_of_misses hmiss

/-- In the order to change the entry it stands between the first and the last mention of the
module. -/
theorem infix_editLine_iff (module : Text) :
    part <:+: editLine module ↔ part <:+: entrySpan module := by
  have hchange : Text.Misses part "   - Change \"" := h.misses_fixed _ (by decide)
  have hopen : Text.Misses part "- [ ] Validate `" := h.misses_fixed _ (by decide)
  have hquotes : '/' ∉ ("`" : Text) ++ ("\"" : Text) := by decide
  have hgap : ("`" : Text) ++ "\" to \"" ++ "- [x] Validate `" = "`\" to \"- [x] Validate `" := by
    decide
  have hshape := Text.append_around_eq hgap "   - Change \"" "- [ ] Validate `" module "\""
  exact (iff_of_eq (congrArg (part <:+: ·) hshape)).trans
    ((Text.infix_append_iff_of_misses hchange).trans
      ((Text.infix_append_iff_of_misses hopen).trans
        (Text.infix_append_iff_of_getLast? h.getLast?_eq hquotes)))

/-- Among the instructions it stands in the path of the sheet or between the mentions of the
module. -/
theorem standsOn_instructionsSection (module taskFile : Text) :
    Text.StandsOn part (instructionsSection module taskFile) ↔
      part <:+: taskFile ∨ part <:+: entrySpan module := by
  have hbefore : ¬Text.StandsOn part ((instructionsSection [] []).take 8) :=
    h.not_standsOn_plain (by decide +kernel)
  have hafter : ¬Text.StandsOn part ((instructionsSection [] []).drop 10) :=
    h.not_standsOn_plain (by decide +kernel)
  rw [instructionsSection_eq, Text.standsOn_append, or_iff_right hbefore, Text.standsOn_cons,
    Text.standsOn_cons, or_iff_left hafter]
  exact or_congr (h.infix_taskFileLine_iff taskFile) (h.infix_editLine_iff module)

/-- In the summary it stands in the module. -/
theorem standsOn_summarySection (module : Text) :
    Text.StandsOn part (summarySection module) ↔ part <:+: module := by
  -- Two lines of the form hold slashes, but it begins on neither of them.
  have hshape : summarySection module = (summarySection []).take 8 ++
      ("- Requirements met: [Yes/No with details]" : Text) ::
        ("- Used real database: [Confirmed/Not confirmed]" : Text) :: [] ::
          [beginLine module] := rfl
  have hform : ¬Text.StandsOn part ((summarySection []).take 8) :=
    h.not_standsOn_plain (by decide +kernel)
  have hmet : ¬part <:+: "- Requirements met: [Yes/No with details]" :=
    Text.not_infix_of_misses h.ne_nil (h.misses_fixed _ (by decide))
  have hreal : ¬part <:+: "- Used real database: [Confirmed/Not confirmed]" :=
    Text.not_infix_of_misses h.ne_nil (h.misses_fixed _ (by decide))
  have hnone : ¬Text.StandsOn part [] := h.not_standsOn_plain (by simp)
  have hbegin : Text.Misses part "Begin validation of " := h.misses_fixed _ (by decide)
  have hnow : '/' ∉ (" now." : Text) := by decide
  have hline : part <:+: beginLine module ↔ part <:+: module :=
    (Text.infix_append_iff_of_getLast? h.getLast?_eq hnow).trans
      (Text.infix_append_iff_of_misses hbegin)
  rw [hshape, Text.standsOn_append, or_iff_right hform, Text.standsOn_cons, or_iff_right hmet,
    Text.standsOn_cons, or_iff_right hreal, Text.standsOn_cons,
    or_iff_right (h.not_infix_plain List.not_mem_nil), Text.standsOn_cons, or_iff_left hnone,
    hline]

/-- **Where a foreign part stands in a prompt.** It stands in the commands of the setup or in one
of the fields. -/
theorem infix_render_iff (context : PromptContext) (task : Task) :
    part <:+: render context task ↔
      part <:+: setupLine context.environment ∨
        part <:+: context.objective ∨
        part <:+: context.environment.modulePath task.module ∨
        Text.StandsOn part context.requirements ∨
        Text.StandsOn part task.steps ∨
        part <:+: context.environment.taskFile ∨
        part <:+: entrySpan task.module := by
  have hid : '/' ∉ taskId context.title := not_mem_taskId (by decide) (by decide) _
  have hrest : ¬Text.StandsOn part [[]] := h.not_standsOn_plain (by simp)
  -- Wherever else the module is mentioned, it is mentioned in the order to change its entry too.
  have hspan : part <:+: task.module → part <:+: entrySpan task.module := fun hfound =>
    hfound.trans (List.suffix_append _ _).isInfix
  rw [render_eq_unlines, Text.infix_unlines_iff h.ne_nil h.feed_not_mem, promptLines,
    Text.standsOn_append, Text.standsOn_append, Text.standsOn_append, Text.standsOn_append,
    Text.standsOn_append, Text.standsOn_append, setupSection, Text.standsOn_cons,
    or_iff_left hrest, h.standsOn_headerSection hid, h.standsOn_contextSection,
    h.standsOn_requirementsSection, h.standsOn_stepsSection, h.standsOn_instructionsSection,
    h.standsOn_summarySection]
  grind

end IsForeign

end Prompt

end TaskSheet
