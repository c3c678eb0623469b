import TaskSheet.Outline.Reading
import TaskSheet.Proofs.Seams
import TaskSheet.Proofs.Sections

/-!
# Sections in any order

A sheet falls into a preamble and chunks, each of which begins with a line that ends the section
before it and holds no other such line. No section and no run of steps reaches from one chunk into
the next one. So what a sheet states does not depend on the order of its chunks, as long as no two
of them open the same section, and its blocks are those of the chunks in their order.
-/

namespace TaskSheet

/-- A search finds the same in any order of the places, if there is at most one place to find
something. -/
theorem findSome?_eq_of_perm {α β : Type} {find : α → Option β} {places others : List α}
    (hperm : others.Perm places) (hone : places.countP (fun place => (find place).isSome) ≤ 1) :
    others.findSome? find = places.findSome? find := by
  have hfound := hperm.filterMap find
  rw [← List.length_filterMap_eq_countP] at hone
  rw [← List.head?_filterMap, ← List.head?_filterMap]
  match hplaces : places.filterMap find with
  | [] =>
    rw [hplaces, List.perm_nil] at hfound
    rw [hfound]
  | [result] =>
    rw [hplaces, List.perm_singleton] at hfound
    rw [hfound]
  | _ :: _ :: _ => simp [hplaces] at hone

namespace Outline

/-! ## Preamble and chunks -/

/-- The part of a sheet before its first section, with a heading of level one in it. -/
structure IsPreamble (text : Text) : Prop where
  /-- Its lines are ended. -/
  isEnded : Text.IsEnded text
  /-- Some line is a heading of level one. -/
  titled : ∃ heading ∈ (Text.lines text).filterMap Heading.parse?, heading.level = 1
  /-- No line ends a section. -/
  stays : ∀ line ∈ Text.lines text, Heading.breaksSection line = false

/-- A part of a sheet from a line that ends a section up to the next such line. -/
structure IsChunk (text : Text) : Prop where
  /-- Its lines are ended. -/
  isEnded : Text.IsEnded text
  /-- The first line ends a section. -/
  breaks : ∃ line ∈ (Text.lines text).head?, Heading.breaksSection line = true
  /-- No other line ends a section. -/
  stays : ∀ line ∈ (Text.lines text).tail, Heading.breaksSection line = false

/-- Whether a text is a preamble is decided by its lines. -/
instance (text : Text) : Decidable (IsPreamble text) :=
  decidable_of_iff (Text.IsEnded text ∧
      (∃ heading ∈ (Text.lines text).filterMap Heading.parse?, heading.level = 1) ∧
      ∀ line ∈ Text.lines text, Heading.breaksSection line = false)
    ⟨fun ⟨hended, htitled, hstays⟩ => ⟨hended, htitled, hstays⟩,
      fun h => ⟨h.isEnded, h.titled, h.stays⟩⟩

/-- Whether a text is a chunk is decided by its lines. -/
instance (text : Text) : Decidable (IsChunk text) :=
  decidable_of_iff (Text.IsEnded text ∧
      (∃ line ∈ (Text.lines text).head?, Heading.breaksSection line = true) ∧
      ∀ line ∈ (Text.lines text).tail, Heading.breaksSection line = false)
    ⟨fun ⟨hended, hbreaks, hstays⟩ => ⟨hended, hbreaks, hstays⟩,
      fun h => ⟨h.isEnded, h.breaks, h.stays⟩⟩

/-- Whether a chunk opens with the heading of the section with the given name. -/
def opensWith (name chunk : Text) : Bool :=
  (Text.lines chunk).head?.any (Heading.opensSection name)

/-- The lines of a chunk are its first line and a body in which no section ends. -/
theorem IsChunk.exists_lines {chunk : Text} (h : IsChunk chunk) :
    ∃ first body, Text.lines chunk = first :: body ∧ Heading.breaksSection first = true ∧
      ∀ line ∈ body, Heading.breaksSection line = false := by
  obtain ⟨first, hfirst, hbreaks⟩ := h.breaks
  obtain ⟨body, hlines⟩ := List.head?_eq_some_iff.mp hfirst
  have hbody := h.stays
  rw [hlines, List.tail_cons] at hbody
  exact ⟨first, body, hlines, hbreaks, hbody⟩

/-! ## One chunk after the other -/

/-- Chunks put together begin with a line that ends a section, if there are any. -/
theorem breaksSection_head?_flatten {chunks : List Text} (h : ∀ chunk ∈ chunks, IsChunk chunk) :
    ∀ line ∈ (chunks.map Text.lines).flatten.head?, Heading.breaksSection line = true := by
  cases chunks with
  | nil => simp
  | cons chunk chunks =>
    obtain ⟨first, body, hlines, hbreaks, -⟩ := (h chunk List.mem_cons_self).exists_lines
    simpa [hlines] using hbreaks

/-- A chunk holds the section that its first line opens, and no other. -/
theorem IsChunk.sectionLines?_eq {chunk : Text} (h : IsChunk chunk) (name : Text)
    {rest : List Text} (hrest : ∀ line ∈ rest.head?, Heading.breaksSection line = true) :
    sectionLines? name (Text.lines chunk ++ rest) =
      if opensWith name chunk then some (Text.lines chunk).tail else sectionLines? name rest := by
  obtain ⟨first, body, hlines, -, hbody⟩ := h.exists_lines
  rw [opensWith, hlines, List.cons_append, sectionLines?_cons_append hbody hrest]
  rfl

/-- The section that a chunk holds. -/
def chunkSection? (name chunk : Text) : Option (List Text) :=
  if opensWith name chunk then some (Text.lines chunk).tail else none

/-- In chunks put together a section is looked for chunk by chunk. -/
theorem sectionLines?_flatten {chunks : List Text} (h : ∀ chunk ∈ chunks, IsChunk chunk)
    (name : Text) :
    sectionLines? name (chunks.map Text.lines).flatten =
      chunks.findSome? (chunkSection? name) := by
  induction chunks with
  | nil => rfl
  | cons chunk chunks ih =>
    have hothers : ∀ c ∈ chunks, IsChunk c := fun c hc => h c (List.mem_cons_of_mem _ hc)
    rw [List.map_cons, List.flatten_cons, (h chunk List.mem_cons_self).sectionLines?_eq name
      (breaksSection_head?_flatten hothers), ih hothers, List.findSome?_cons, chunkSection?]
    split <;> rfl

/-- No run of steps starts in a chunk. -/
theorem IsChunk.stepRun_eq_nil {chunk : Text} (h : IsChunk chunk) (least : Nat) :
    stepRun least (Text.lines chunk) = [] := by
  obtain ⟨first, body, hlines, hbreaks, -⟩ := h.exists_lines
  obtain ⟨rest, rfl⟩ := Heading.exists_of_breaksSection hbreaks
  rw [hlines]
  exact stepRun_other (stepText?_cons (by decide) (by decide) least _) rfl body

/-! ## The whole sheet -/

/-- The lines of a sheet are those of its preamble and those of its chunks. -/
theorem lines_preamble_append {preamble : Text} {chunks : List Text}
    (hpreamble : IsPreamble preamble) (hchunks : ∀ chunk ∈ chunks, IsChunk chunk) :
    Text.lines (preamble ++ chunks.flatten) =
      Text.lines preamble ++ (chunks.map Text.lines).flatten := by
  rw [hpreamble.isEnded.lines_append,
    Text.lines_flatten fun chunk hchunk => (hchunks chunk hchunk).isEnded]

/-- The title is looked for in the preamble. -/
theorem IsPreamble.findTitle?_append {preamble : Text} (h : IsPreamble preamble)
    (rest : List Text) :
    findTitle? (Text.lines preamble ++ rest) = findTitle? (Text.lines preamble) := by
  obtain ⟨heading, hheading, hlevel⟩ := h.titled
  have hfound : (((Text.lines preamble).filterMap Heading.parse?).find? (·.level == 1)).isSome :=
    List.find?_isSome.mpr ⟨heading, hheading, beq_iff_eq.mpr hlevel⟩
  rw [findTitle?, findTitle?, List.filterMap_append, List.find?_append,
    Option.or_of_isSome hfound]

/-- A section of a sheet is looked for in its chunks. -/
theorem sectionLines?_preamble_append {preamble : Text} {chunks : List Text}
    (hpreamble : IsPreamble preamble) (hchunks : ∀ chunk ∈ chunks, IsChunk chunk) (name : Text) :
    sectionLines? name (Text.lines preamble ++ (chunks.map Text.lines).flatten) =
      chunks.findSome? (chunkSection? name) := by
  have hopens : ∀ line ∈ Text.lines preamble, Heading.opensSection name line = false :=
    fun line hline => Heading.opensSection_eq_false (hpreamble.stays line hline) name
  rw [sectionLines?_append hopens, sectionLines?_flatten hchunks]

/-- A section that at most one chunk opens is found in any order of the chunks. -/
theorem sectionLines?_eq_of_perm {preamble : Text} {chunks others : List Text} {name : Text}
    (hpreamble : IsPreamble preamble) (hchunks : ∀ chunk ∈ chunks, IsChunk chunk)
    (hone : chunks.countP (opensWith name) ≤ 1) (hperm : others.Perm chunks) :
    sectionLines? name (Text.lines preamble ++ (others.map Text.lines).flatten) =
      sectionLines? name (Text.lines preamble ++ (chunks.map Text.lines).flatten) := by
  have hothers : ∀ chunk ∈ others, IsChunk chunk :=
    fun chunk hchunk => hchunks chunk (hperm.mem_iff.mp hchunk)
  have hsome : ∀ chunk, (chunkSection? name chunk).isSome = opensWith name chunk := by
    intro chunk
    rw [chunkSection?]
    cases opensWith name chunk <;> rfl
  rw [sectionLines?_preamble_append hpreamble hchunks,
    sectionLines?_preamble_append hpreamble hothers]
  exact findSome?_eq_of_perm hperm (by simpa only [hsome] using hone)

/-- The blocks of a sheet are those of its preamble and those of each chunk. -/
theorem findBlocks_preamble_append {preamble : List Text} {chunks : List Text}
    (hchunks : ∀ chunk ∈ chunks, IsChunk chunk) :
    findBlocks (preamble ++ (chunks.map Text.lines).flatten) =
      findBlocks preamble ++ chunks.flatMap fun chunk => findBlocks (Text.lines chunk) := by
  have hruns : ∀ sheet ∈ chunks.map Text.lines, stepRun leastStepIndent sheet = [] := by
    intro sheet hsheet
    obtain ⟨chunk, hchunk, rfl⟩ := List.mem_map.mp hsheet
    exact (hchunks chunk hchunk).stepRun_eq_nil _
  rw [findBlocks_append_of_eq_nil (stepRun_flatten_eq_nil hruns), findBlocks_flatten hruns,
    List.flatMap_map]

/-- **The order of the sections does not matter.** Let a sheet be a preamble with a title and
chunks, of which at most one opens with the heading of the objective and at most one with that of
the requirements. In any order of the chunks it has the same title, the same objective and the same
requirements. Its blocks are those of the preamble, followed by those that each chunk has alone. -/
theorem sections_in_any_order {preamble : Text} {chunks others : List Text}
    (hpreamble : IsPreamble preamble) (hchunks : ∀ chunk ∈ chunks, IsChunk chunk)
    (hobjective : chunks.countP (opensWith "Objective") ≤ 1)
    (hrequirements : chunks.countP (opensWith "Requirements") ≤ 1) (hperm : others.Perm chunks) :
    (ofText (preamble ++ others.flatten)).title = (ofText (preamble ++ chunks.flatten)).title ∧
      (ofText (preamble ++ others.flatten)).objective =
        (ofText (preamble ++ chunks.flatten)).objective ∧
      (ofText (preamble ++ others.flatten)).requirements =
        (ofText (preamble ++ chunks.flatten)).requirements ∧
      (ofText (preamble ++ others.flatten)).blocks =
        (ofText preamble).blocks ++ others.flatMap fun chunk => (ofText chunk).blocks := by
  have hothers : ∀ chunk ∈ others, IsChunk chunk :=
    fun chunk hchunk => hchunks chunk (hperm.mem_iff.mp hchunk)
  simp only [ofText, ofLines, lines_preamble_append hpreamble hchunks,
    lines_preamble_append hpreamble hothers, hpreamble.findTitle?_append]
  refine ⟨trivial, ?_, ?_, findBlocks_preamble_append hothers⟩
  · rw [findObjective?, findObjective?, sectionLines?_eq_of_perm hpreamble hchunks hobjective hperm]
  · rw [findRequirements?, findRequirements?,
      sectionLines?_eq_of_perm hpreamble hchunks hrequirements hperm]

/-- The preamble of a sheet in which an entry comes before every section. -/
def loosePreamble : Text := "# Task 1: t\r\n- [ ] Validate `a`\n   - [ ] s\n\n"

/-- Chunks for that preamble. One begins with number signs alone, and the step below them belongs
to no entry. -/
def looseChunks : List Text :=
  ["## objective\nDo it.\n\n",
    "## Tasks\n- [ ] Validate `b`\n   - [ ] s\n \n",
    "##\n   - [ ] t\n- [ ] Validate `b`\n",
    "## Requirements\r\n1. [ ] r\r\n"]

/-- The chunks in the opposite order make the same sheet, but for the order of the blocks. -/
theorem sections_in_any_order_loose :
    IsPreamble loosePreamble ∧ (∀ chunk ∈ looseChunks, IsChunk chunk) ∧
      looseChunks.countP (opensWith "Objective") ≤ 1 ∧
      looseChunks.countP (opensWith "Requirements") ≤ 1 ∧
      looseChunks.reverse.Perm looseChunks ∧
      (ofText (loosePreamble ++ looseChunks.reverse.flatten)).objective =
        (ofText (loosePreamble ++ looseChunks.flatten)).objective ∧
      (ofText (loosePreamble ++ looseChunks.reverse.flatten)).blocks =
        (ofText loosePreamble).blocks ++
          looseChunks.reverse.flatMap fun chunk => (ofText chunk).blocks := by
  have hpreamble : IsPreamble loosePreamble := by decide +kernel
  have hchunks : ∀ chunk ∈ looseChunks, IsChunk chunk := by decide +kernel
  have hobjective : looseChunks.countP (opensWith "Objective") ≤ 1 := by decide +kernel
  have hrequirements : looseChunks.countP (opensWith "Requirements") ≤ 1 := by decide +kernel
  have hperm := List.reverse_perm looseChunks
  have hsame := sections_in_any_order hpreamble hchunks hobjective hrequirements hperm
  exact ⟨hpreamble, hchunks, hobjective, hrequirements, hperm, hsame.2.1, hsame.2.2.2⟩

end Outline

end TaskSheet
