import TaskSheet.Outline.Sections
import TaskSheet.Proofs.Blanks

/-!
# Sections in isolation

The heading of a section also ends the section before it. A section is therefore the
lines between its heading and the next line that begins with two number signs, and no
line before the one or behind the other has a part in it.
-/

namespace TaskSheet

namespace Heading

/-- A run of number signs before a blank and a text is a heading. -/
theorem parse?_append {marks rest : Text} (hmarks : ∀ c ∈ marks, c = '#') (hne : marks ≠ [])
    (hindent : Text.indent rest ≠ 0) (htext : Text.trim rest ≠ []) :
    parse? (marks ++ rest) = some ⟨marks.length, Text.trim rest⟩ := by
  have hall : ∀ c ∈ marks, (c == '#') = true := fun c hc => beq_iff_eq.mpr (hmarks c hc)
  have hstop : ∀ c ∈ rest.head?, (c == '#') = false := by
    obtain ⟨d, more, rfl, hblank⟩ := Text.indent_ne_zero_iff.mp hindent
    intro c hc
    obtain rfl : d = c := by simpa using hc
    exact beq_eq_false_iff_ne.mpr fun heq => by simp [heq, Text.isBlank] at hblank
  rw [parse?, takeWhile_append_of_stop hall hstop, dropWhile_append_of_stop hall hstop]
  simp [hne, hindent, htext]

/-- A heading is as many number signs as its level says, blanks, and a text, which is trimmed. -/
theorem parse?_eq_some_iff {line : Text} {heading : Heading} :
    parse? line = some heading ↔
      ∃ rest, line = List.replicate heading.level '#' ++ rest ∧ heading.level ≠ 0 ∧
        Text.indent rest ≠ 0 ∧ Text.trim rest = heading.text ∧ heading.text ≠ [] := by
  constructor
  · intro h
    have hmarks : line.takeWhile (· == '#') =
        List.replicate (line.takeWhile (· == '#')).length '#' :=
      List.eq_replicate_iff.mpr ⟨rfl, fun c hc => by simpa using List.mem_takeWhile_imp hc⟩
    rw [parse?] at h
    split at h
    · contradiction
    · rename_i hparts
      obtain rfl := Option.some.inj h
      simp only [Bool.or_eq_true, List.isEmpty_iff, decide_eq_true_eq, not_or] at hparts
      obtain ⟨⟨hne, hindent⟩, htext⟩ := hparts
      refine ⟨line.dropWhile (· == '#'), ?_, ?_, hindent, rfl, htext⟩
      · rw [← hmarks, List.takeWhile_append_dropWhile]
      · exact fun hlength => hne (List.length_eq_zero_iff.mp hlength)
  · rintro ⟨rest, rfl, hlevel, hindent, htext, hne⟩
    have hmarks : ∀ c ∈ List.replicate heading.level '#', c = '#' :=
      fun c hc => List.eq_of_mem_replicate hc
    have hparse := parse?_append hmarks (by simpa using hlevel) hindent (htext ▸ hne)
    rw [hparse, List.length_replicate, htext]

/-- A heading begins with as many number signs as its level says. -/
theorem exists_marks_of_parse? {line : Text} {heading : Heading}
    (h : parse? line = some heading) :
    ∃ rest, line = List.replicate heading.level '#' ++ rest := by
  obtain ⟨rest, hline, -⟩ := parse?_eq_some_iff.mp h
  exact ⟨rest, hline⟩

/-- A line opens a section if it is a heading of level two whose text is the name. -/
theorem opensSection_eq_true_iff {name line : Text} :
    opensSection name line = true ↔
      ∃ heading, parse? line = some heading ∧ heading.level = 2 ∧
        heading.text.map Char.toLower = name.map Char.toLower := by
  rw [opensSection]
  cases parse? line with
  | none => simp
  | some heading => simp [sameName]

/-- The heading of a section ends the section before it. -/
theorem breaksSection_of_opensSection {name line : Text} (h : opensSection name line = true) :
    breaksSection line = true := by
  obtain ⟨heading, hparse, hlevel, -⟩ := opensSection_eq_true_iff.mp h
  obtain ⟨rest, hline⟩ := exists_marks_of_parse? hparse
  rw [hlevel] at hline
  rw [breaksSection, List.isPrefixOf_iff_prefix]
  exact ⟨rest, hline.symm⟩

/-- A line that ends no section opens none. -/
theorem opensSection_eq_false {line : Text} (h : breaksSection line = false) (name : Text) :
    opensSection name line = false := by
  cases hopens : opensSection name line with
  | false => rfl
  | true =>
    rw [breaksSection_of_opensSection hopens] at h
    contradiction

/-- A line that ends a section begins with two number signs. -/
theorem exists_of_breaksSection {line : Text} (h : breaksSection line = true) :
    ∃ rest, line = '#' :: '#' :: rest := by
  obtain ⟨rest, hrest⟩ := List.isPrefixOf_iff_prefix.mp h
  exact ⟨rest, hrest.symm⟩

end Heading

namespace Outline

/-- The first heading of level one gives the title. -/
theorem findTitle?_cons {line : Text} {heading : Heading} (h : Heading.parse? line = some heading)
    (hlevel : heading.level = 1) (lines : List Text) :
    findTitle? (line :: lines) = some heading.text := by
  simp [findTitle?, h, hlevel]

/-- A line that is no heading of level one has no part in the title. -/
theorem findTitle?_cons_of_ne {line : Text}
    (h : ∀ title, Heading.parse? line ≠ some ⟨1, title⟩) (lines : List Text) :
    findTitle? (line :: lines) = findTitle? lines := by
  rw [findTitle?, findTitle?]
  cases hparse : Heading.parse? line with
  | none => rw [List.filterMap_cons_none hparse]
  | some heading =>
    have hlevel : heading.level ≠ 1 := fun hlevel =>
      h heading.text (hparse.trans (by rw [← hlevel]))
    simp [List.filterMap_cons_some hparse, hlevel]

/-- There is no title exactly if no line is a heading of level one. -/
theorem findTitle?_eq_none_iff {lines : List Text} :
    findTitle? lines = none ↔ ∀ line ∈ lines, ∀ title, Heading.parse? line ≠ some ⟨1, title⟩ := by
  induction lines with
  | nil => simp [findTitle?]
  | cons line lines ih =>
    rw [List.forall_mem_cons]
    by_cases htitle : ∃ title, Heading.parse? line = some ⟨1, title⟩
    · obtain ⟨title, hparse⟩ := htitle
      rw [findTitle?_cons hparse rfl]
      exact ⟨fun h => (nomatch h), fun h => absurd hparse (h.1 title)⟩
    · have hother := not_exists.mp htitle
      rw [findTitle?_cons_of_ne hother, ih]
      exact ⟨fun h => ⟨hother, h⟩, fun h => h.2⟩

/-- The text of the first heading of level one. -/
def IsFirstTitle (lines : List Text) (title : Text) : Prop :=
  ∃ before line after, lines = before ++ line :: after ∧
    Heading.parse? line = some ⟨1, title⟩ ∧
    ∀ other ∈ before, ∀ text, Heading.parse? other ≠ some ⟨1, text⟩

/-- The search for a title finds just this text. -/
theorem findTitle?_eq_some_iff {lines : List Text} {title : Text} :
    findTitle? lines = some title ↔ IsFirstTitle lines title := by
  constructor
  · intro h
    induction lines with
    | nil => simp [findTitle?] at h
    | cons line lines ih =>
      by_cases htitle : ∃ text, Heading.parse? line = some ⟨1, text⟩
      · obtain ⟨text, hparse⟩ := htitle
        rw [findTitle?_cons hparse rfl] at h
        obtain rfl : text = title := Option.some.inj h
        exact ⟨[], line, lines, rfl, hparse, by simp⟩
      · have hother := not_exists.mp htitle
        rw [findTitle?_cons_of_ne hother] at h
        obtain ⟨before, first, after, rfl, hparse, hbefore⟩ := ih h
        exact ⟨line :: before, first, after, rfl, hparse,
          List.forall_mem_cons.mpr ⟨hother, hbefore⟩⟩
  · rintro ⟨before, line, after, rfl, hparse, hbefore⟩
    induction before with
    | nil => exact findTitle?_cons hparse rfl after
    | cons first before ih =>
      rw [List.forall_mem_cons] at hbefore
      rw [List.cons_append, findTitle?_cons_of_ne hbefore.1, ih hbefore.2]

/-- The title is the text of a heading of level one on one of the lines. -/
theorem exists_heading_of_findTitle? {lines : List Text} {title : Text}
    (h : findTitle? lines = some title) :
    ∃ line ∈ lines, ∃ heading, Heading.parse? line = some heading ∧ heading.level = 1 ∧
      heading.text = title := by
  obtain ⟨heading, hfind, htext⟩ := Option.map_eq_some_iff.mp h
  obtain ⟨line, hline, hparse⟩ := List.mem_filterMap.mp (List.mem_of_find?_eq_some hfind)
  exact ⟨line, hline, heading, hparse, by simpa using List.find?_some hfind, htext⟩

/-- Lines before the heading have no part in a section. -/
theorem sectionLines?_append {name : Text} {before : List Text}
    (h : ∀ line ∈ before, Heading.opensSection name line = false) (lines : List Text) :
    sectionLines? name (before ++ lines) = sectionLines? name lines := by
  induction before with
  | nil => rfl
  | cons line before ih =>
    rw [List.cons_append, sectionLines?, h line List.mem_cons_self]
    exact ih fun l hl => h l (List.mem_cons_of_mem _ hl)

/-- Up to the next break, a section is what stands behind its heading, and any other one has
no part in it. -/
theorem sectionLines?_cons_append {first : Text} {body rest : List Text}
    (hbody : ∀ line ∈ body, Heading.breaksSection line = false)
    (hrest : ∀ line ∈ rest.head?, Heading.breaksSection line = true) (name : Text) :
    sectionLines? name (first :: (body ++ rest)) =
      if Heading.opensSection name first then some body else sectionLines? name rest := by
  have hkeep : ∀ line ∈ body, (!Heading.breaksSection line) = true := by simpa using hbody
  have hstop : ∀ line ∈ rest.head?, (!Heading.breaksSection line) = false := by simpa using hrest
  have hopens : ∀ line ∈ body, Heading.opensSection name line = false :=
    fun line hline => Heading.opensSection_eq_false (hbody line hline) name
  rw [sectionLines?, takeWhile_append_of_stop hkeep hstop, sectionLines?_append hopens]

/-- A section is what stands between its heading and the next break. -/
theorem sectionLines?_eq_some {name heading : Text} {before body rest : List Text}
    (hbefore : ∀ line ∈ before, Heading.opensSection name line = false)
    (hheading : Heading.opensSection name heading = true)
    (hbody : ∀ line ∈ body, Heading.breaksSection line = false)
    (hrest : ∀ line ∈ rest.head?, Heading.breaksSection line = true) :
    sectionLines? name (before ++ heading :: (body ++ rest)) = some body := by
  rw [sectionLines?_append hbefore, sectionLines?_cons_append hbody hrest, if_pos hheading]

/-- There is no section with a name exactly if no line is its heading. -/
theorem sectionLines?_eq_none_iff {name : Text} {lines : List Text} :
    sectionLines? name lines = none ↔ ∀ line ∈ lines, Heading.opensSection name line = false := by
  induction lines with
  | nil => simp [sectionLines?]
  | cons line lines ih =>
    rw [sectionLines?, List.forall_mem_cons, ← ih]
    cases Heading.opensSection name line <;> simp

/-- The lines that follow the first heading of a name, up to the next break. -/
def IsSection (name : Text) (lines body : List Text) : Prop :=
  ∃ before heading rest, lines = before ++ heading :: (body ++ rest) ∧
    (∀ line ∈ before, Heading.opensSection name line = false) ∧
    Heading.opensSection name heading = true ∧
    (∀ line ∈ body, Heading.breaksSection line = false) ∧
    ∀ line ∈ rest.head?, Heading.breaksSection line = true

/-- The search for a section finds just these lines. -/
theorem sectionLines?_eq_some_iff {name : Text} {lines body : List Text} :
    sectionLines? name lines = some body ↔ IsSection name lines body := by
  constructor
  · intro h
    induction lines with
    | nil => simp [sectionLines?] at h
    | cons line lines ih =>
      rw [sectionLines?] at h
      split at h
      · rename_i hopens
        obtain rfl := Option.some.inj h
        refine ⟨[], line, lines.dropWhile fun l => !Heading.breaksSection l, ?_, by simp, hopens,
          fun l hl => by simpa using List.mem_takeWhile_imp hl, fun l hl => ?_⟩
        · rw [List.nil_append, List.takeWhile_append_dropWhile]
        · have hstop := List.head?_dropWhile_not (fun l => !Heading.breaksSection l) lines
          rw [Option.mem_def.mp hl] at hstop
          simpa using hstop
      · rename_i hopens
        obtain ⟨before, heading, rest, rfl, hbefore, hfound⟩ := ih h
        refine ⟨line :: before, heading, rest, rfl, ?_, hfound⟩
        exact List.forall_mem_cons.mpr ⟨by simpa using hopens, hbefore⟩
  · rintro ⟨before, heading, rest, rfl, hbefore, hheading, hbody, hrest⟩
    exact sectionLines?_eq_some hbefore hheading hbody hrest

end Outline

end TaskSheet
