import TaskSheet.Proofs.AbsolutePaths
import Mathlib.Tactic.SplitIfs

/-!
# The directories around a path

The directories around a file are written in its path. Each of them is the path up to one of its
slashes, namely up to one that stands behind a step and before another one; slashes side by side and
single dots name no directory of their own. The innermost one is the parent, behind which the path
goes on with one step only.
-/

namespace TaskSheet.Path

/-! ## Pieces of a path -/

/-- A path is its pieces with slashes between them. -/
theorem intercalate_pieces (path : Bytes) : List.intercalate [slash] (pieces path) = path :=
  List.intercalate_splitOn slash

/-- Paths with the same pieces are equal. -/
theorem pieces_injective : Function.Injective pieces := fun first second h => by
  rw [← intercalate_pieces first, h, intercalate_pieces]

/-- Pieces with slashes between them come apart as they were put together. -/
theorem pieces_intercalate (parts : List Bytes) (hne : parts ≠ [])
    (h : ∀ part ∈ parts, slash ∉ part) :
    pieces (List.intercalate [slash] parts) = parts :=
  List.splitOn_intercalate slash h hne

/-- A slash at the start is an empty piece. -/
theorem pieces_slash_cons (path : Bytes) : pieces (slash :: path) = [] :: pieces path :=
  pieces_append_slash [] path

/-- A slash stands between a piece and the further ones. -/
theorem intercalate_cons (piece : Bytes) {more : List Bytes} (hne : more ≠ []) :
    List.intercalate [slash] (piece :: more) = piece ++ slash :: List.intercalate [slash] more := by
  obtain ⟨next, more, rfl⟩ := List.exists_cons_of_ne_nil hne
  simp [List.intercalate_cons_cons]

/-- Whether a piece of a path names a directory of its own. -/
def counts (piece : Bytes) : Bool := !(piece.isEmpty || piece == here)

/-- The pieces that count are the steps. -/
theorem counts_iff {piece : Bytes} (h : slash ∉ piece) : counts piece = true ↔ IsStep piece := by
  constructor
  · intro hcounts
    obtain ⟨hne, hhere⟩ : piece ≠ [] ∧ piece ≠ here := by simpa [counts] using hcounts
    exact ⟨hne, h, hhere⟩
  · intro hstep
    simp [counts, hstep.ne_nil, hstep.ne_here]

/-- The steps of a path are its pieces that count. -/
theorem steps_eq (path : Bytes) : steps path = (pieces path).filter counts := by
  rw [steps, components, List.filter_filter]
  apply List.filter_congr
  intro piece _
  rw [counts, Bool.not_or, Bool.and_comm]
  rfl

/-! ## Where the directories are named -/

/-- The place where a path starts can be taken for a piece of it, if it is no directory of its
own. -/
theorem prefixes_append_congr (start : Bytes) (first second : List Bytes)
    (hends : prefixes start first = prefixes [] second)
    (hjoin : ∀ names, names ≠ [] → start ++ List.intercalate [slash] (first.reverse ++ names) =
      List.intercalate [slash] (second.reverse ++ names)) (reversed : List Bytes) :
    prefixes start (reversed ++ first) = prefixes [] (reversed ++ second) := by
  induction reversed with
  | nil => exact hends
  | cons piece reversed ih =>
    have hpath := hjoin (piece :: reversed).reverse (by simp)
    rw [← List.reverse_append, ← List.reverse_append] at hpath
    simp only [List.cons_append] at hpath ⊢
    rw [prefixes, prefixes, ih, hpath, List.nil_append]

/-- The directories around a path are found in its pieces, wherever it starts. -/
theorem enclosing_eq (path : Bytes) :
    enclosing path = (prefixes [] (pieces path).reverse).tail := by
  rw [enclosing]
  apply congrArg List.tail
  rw [anchor]
  split_ifs with habsolute hhere
  · obtain ⟨rest, rfl⟩ := List.head?_eq_some_iff.mp (beq_iff_eq.mp habsolute)
    have hslash := prefixes_append_congr [slash] [] [[]] rfl
      (fun names hne => (intercalate_cons [] hne).symm) (pieces rest).reverse
    rw [List.append_nil] at hslash
    rw [pieces_slash_cons, List.reverse_cons, ← hslash]
    rfl
  · simp only [Bool.or_eq_true, decide_eq_true_eq, List.isPrefixOf_iff_prefix] at hhere
    rcases hhere with rfl | ⟨rest, rfl⟩
    · rfl
    have hdot : pieces (here ++ slash :: rest) = here :: pieces rest :=
      pieces_append_slash here rest
    have hjoin : ∀ names, names ≠ [] →
        here ++ List.intercalate [slash] (([[]] : List Bytes).reverse ++ names) =
          List.intercalate [slash] ([here].reverse ++ names) := by
      intro names hne
      exact (congrArg (here ++ ·) (intercalate_cons [] hne)).trans (intercalate_cons here hne).symm
    have hhere := prefixes_append_congr here [[]] [here] rfl hjoin (pieces rest).reverse
    have hpieces : pieces ([dot, slash] ++ rest) = here :: pieces rest := hdot
    rw [hpieces, List.reverse_cons, ← hhere, ← List.reverse_cons, ← pieces_slash_cons]
    rfl
  · rfl

/-- The paths that are listed for some pieces end behind those that count. -/
theorem getElem?_prefixes_iff {reversed : List Bytes} {number : Nat} {outer : Bytes} :
    (prefixes [] reversed)[number]? = some outer ↔
      ∃ skipped piece more, reversed = skipped ++ piece :: more ∧
        (skipped.filter counts).length = number ∧ counts piece = true ∧
        List.intercalate [slash] (piece :: more).reverse = outer := by
  induction reversed generalizing number with
  | nil => simp [prefixes]
  | cons first reversed ih =>
    rw [prefixes]
    split
    · rename_i hskip
      have hcounts : counts first = false := by rw [counts, hskip, Bool.not_true]
      rw [ih]
      constructor
      · rintro ⟨skipped, piece, more, rfl, hnumber, hpiece, houter⟩
        exact ⟨first :: skipped, piece, more, rfl, by simp [hcounts, hnumber], hpiece, houter⟩
      · rintro ⟨skipped, piece, more, hlist, hnumber, hpiece, houter⟩
        cases skipped with
        | nil =>
          obtain ⟨rfl, -⟩ := List.cons.inj hlist
          simp [hcounts] at hpiece
        | cons other skipped =>
          obtain ⟨rfl, rfl⟩ := List.cons.inj hlist
          exact ⟨skipped, piece, more, rfl, by simpa [hcounts] using hnumber, hpiece, houter⟩
    · rename_i hkeep
      have hcounts : counts first = true := by simpa [counts] using hkeep
      constructor
      · intro h
        cases number with
        | zero => exact ⟨[], first, reversed, rfl, rfl, hcounts, by simpa using h⟩
        | succ number =>
          obtain ⟨skipped, piece, more, rfl, hnumber, hpiece, houter⟩ := ih.mp (by simpa using h)
          exact ⟨first :: skipped, piece, more, rfl, by simp [hcounts, hnumber], hpiece, houter⟩
      · rintro ⟨skipped, piece, more, hlist, rfl, hpiece, rfl⟩
        cases skipped with
        | nil =>
          obtain ⟨rfl, rfl⟩ := List.cons.inj hlist
          simp
        | cons other skipped =>
          obtain ⟨rfl, rfl⟩ := List.cons.inj hlist
          have hrest := ih.mpr ⟨skipped, piece, more, rfl, rfl, hpiece, rfl⟩
          simpa [hcounts] using hrest

/-- A path leads to a directory around another one: it ends with a step, and the other path goes on
behind it with a slash and the given number of steps. -/
def IsAround (outer path : Bytes) (distance : Nat) : Prop :=
  (∃ piece, (pieces outer).getLast? = some piece ∧ IsStep piece) ∧
    ∃ rest, path = outer ++ slash :: rest ∧ (steps rest).length = distance

/-- The directories around a path are listed by their distance. -/
theorem getElem?_enclosing_iff {path outer : Bytes} {number : Nat} :
    (enclosing path)[number]? = some outer ↔ IsAround outer path (number + 1) := by
  have hslash : ∀ {other piece : Bytes}, piece ∈ pieces other → slash ∉ piece :=
    fun h => (not_mem_and_subset_of_mem_pieces h).1
  rw [enclosing_eq, List.getElem?_tail, getElem?_prefixes_iff]
  constructor
  · rintro ⟨skipped, piece, more, hreversed, hnumber, hpiece, rfl⟩
    have hpieces : pieces path = (piece :: more).reverse ++ skipped.reverse := by
      rw [← List.reverse_append, ← hreversed, List.reverse_reverse]
    have hno : ∀ part ∈ (piece :: more).reverse ++ skipped.reverse, slash ∉ part :=
      fun part hpart => hslash (hpieces ▸ hpart)
    have houter := pieces_intercalate (piece :: more).reverse (by simp)
      fun part hpart => hno part (List.mem_append_left _ hpart)
    have hskipped : skipped.reverse ≠ [] := by
      intro hnil
      rw [List.reverse_eq_nil_iff] at hnil
      simp [hnil] at hnumber
    have hrest := pieces_intercalate skipped.reverse hskipped
      fun part hpart => hno part (List.mem_append_right _ hpart)
    refine ⟨⟨piece, ?_, ?_⟩, List.intercalate [slash] skipped.reverse, ?_, ?_⟩
    · rw [houter, List.reverse_cons, List.getLast?_concat]
    · exact (counts_iff (hno piece (by simp))).mp hpiece
    · apply pieces_injective
      rw [pieces_append_slash, houter, hrest, hpieces]
    · rw [steps_eq, hrest, List.filter_reverse, List.length_reverse, hnumber]
  · rintro ⟨⟨piece, hlast, hstep⟩, rest, rfl, hdistance⟩
    obtain ⟨front, hfront⟩ := List.getLast?_eq_some_iff.mp hlast
    refine ⟨(pieces rest).reverse, piece, front.reverse, ?_, ?_, ?_, ?_⟩
    · rw [pieces_append_slash, List.reverse_append, hfront, List.reverse_append]
      rfl
    · rw [List.filter_reverse, List.length_reverse, ← steps_eq, hdistance]
    · exact (counts_iff hstep.slash_not_mem).mpr hstep
    · rw [List.reverse_cons, List.reverse_reverse, ← hfront, intercalate_pieces]

/-- Slashes side by side and single dots name no directory. -/
example : enclosing "data//tasks/./records/" = ["data//tasks", "data"] := by
  decide

/-- The directories around a path are at some distance. -/
theorem mem_enclosing_iff {path outer : Bytes} :
    outer ∈ enclosing path ↔ ∃ number, IsAround outer path (number + 1) := by
  simp only [List.mem_iff_getElem?, getElem?_enclosing_iff]

/-- The innermost directory around a path is its parent. -/
theorem head?_enclosing_iff {path outer : Bytes} :
    (enclosing path).head? = some outer ↔ IsAround outer path 1 := by
  rw [List.head?_eq_getElem?, getElem?_enclosing_iff]

end TaskSheet.Path
