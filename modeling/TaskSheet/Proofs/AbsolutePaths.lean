import TaskSheet.FileSystem.Basic
import Mathlib.Data.List.Basic

/-!
# Absolute paths

Only three things of a path matter for where it leads: where it starts, its pieces other than
single dots, and whether it ends with a slash. An absolute path is a root, one slash or two,
followed by such pieces with single slashes between them. Making a path absolute brings it into
this form, in which nothing is left to do.
-/

namespace TaskSheet

namespace Path

/-! ## Pieces -/

/-- A piece of a path that is kept when the path is made absolute. -/
structure IsStep (piece : Bytes) : Prop where
  /-- There is a piece. -/
  ne_nil : piece ≠ []
  /-- It is a single piece. -/
  slash_not_mem : slash ∉ piece
  /-- It leads somewhere else. -/
  ne_here : piece ≠ here

/-- Whether a piece is a step is decided by the three conditions. -/
instance : DecidablePred IsStep := fun piece =>
  decidable_of_iff (piece ≠ [] ∧ slash ∉ piece ∧ piece ≠ here)
    ⟨fun ⟨hne, hslash, hhere⟩ => ⟨hne, hslash, hhere⟩,
      fun h => ⟨h.ne_nil, h.slash_not_mem, h.ne_here⟩⟩

/-- The pieces of a path that are kept when the path is made absolute. -/
def steps (path : Bytes) : List Bytes := (components path).filter (· != here)

/-- A path that goes on through further pieces. -/
def extend (start : Bytes) (more : List Bytes) : Bytes := more.foldl push start

/-- A piece holds no slash, and otherwise only what the path holds. -/
theorem not_mem_and_subset_of_mem_pieces {path piece : Bytes} (h : piece ∈ pieces path) :
    slash ∉ piece ∧ piece ⊆ path := by
  induction path generalizing piece with
  | nil =>
    obtain rfl := List.mem_singleton.mp h
    exact ⟨List.not_mem_nil, List.Subset.refl _⟩
  | cons c path ih =>
    obtain ⟨first, rest, hpieces⟩ := List.exists_cons_of_ne_nil (List.splitOn_ne_nil slash path)
    rw [pieces, List.splitOn_cons_eq_if_modifyHead, hpieces, List.modifyHead_cons] at h
    have ih : ∀ other ∈ first :: rest, slash ∉ other ∧ other ⊆ path := fun other hother =>
      ih (by rwa [pieces, hpieces])
    have hlater : ∀ other ∈ first :: rest, slash ∉ other ∧ other ⊆ c :: path := fun other hother =>
      ⟨(ih other hother).1, List.subset_cons_of_subset c (ih other hother).2⟩
    split at h
    · rcases List.mem_cons.mp h with rfl | h
      · exact ⟨List.not_mem_nil, List.nil_subset _⟩
      · exact hlater piece h
    · rename_i hc
      rcases List.mem_cons.mp h with rfl | h
      · obtain ⟨hfirst, hsubset⟩ := ih first List.mem_cons_self
        refine ⟨?_, List.cons_subset_cons c hsubset⟩
        rw [List.mem_cons, not_or]
        exact ⟨fun heq => hc (beq_iff_eq.mpr heq.symm), hfirst⟩
      · exact hlater piece (List.mem_cons_of_mem _ h)

/-- A slash separates the pieces before it from those behind it. -/
theorem pieces_append_slash (first rest : Bytes) :
    pieces (first ++ slash :: rest) = pieces first ++ pieces rest := by
  simp only [pieces, List.splitOn_eq_splitOnP]
  exact List.splitOnP_append_cons first rest (beq_self_eq_true slash)

/-- A slash separates the pieces before it from those behind it, if empty ones are left out. -/
theorem components_append_slash (first rest : Bytes) :
    components (first ++ slash :: rest) = components first ++ components rest := by
  rw [components, pieces_append_slash, List.filter_append, components, components]

/-- A path without slashes is its only piece. -/
theorem components_of_not_mem {path : Bytes} (hne : path ≠ []) (h : slash ∉ path) :
    components path = [path] := by
  have hpieces : pieces path = [path] := List.splitOn_eq_singleton h
  rw [components, hpieces, List.filter_cons_of_pos (by simpa using hne), List.filter_nil]

/-- The steps of a path are steps. -/
theorem isStep_of_mem_steps {path piece : Bytes} (h : piece ∈ steps path) : IsStep piece := by
  simp only [steps, components, List.mem_filter] at h
  obtain ⟨⟨hpiece, hne⟩, hhere⟩ := h
  exact ⟨by simpa using hne, (not_mem_and_subset_of_mem_pieces hpiece).1, by simpa using hhere⟩

/-- The steps of a path hold only what the path holds. -/
theorem subset_of_mem_steps {path piece : Bytes} (h : piece ∈ steps path) : piece ⊆ path :=
  (not_mem_and_subset_of_mem_pieces (List.mem_of_mem_filter (List.mem_of_mem_filter h))).2

/-! ## Going on -/

/-- A path ends with a slash if that is its last character. -/
theorem endsWithSlash_iff {path : Bytes} :
    endsWithSlash path = true ↔ ∃ start, path = start ++ [slash] := by
  rw [endsWithSlash, beq_iff_eq, List.getLast?_eq_some_iff]

/-- Going on adds to a path. -/
theorem prefix_push (path piece : Bytes) : path <+: push path piece := by
  rw [push]
  split
  · exact List.prefix_append _ _
  · exact List.prefix_append _ _

/-- Going on through several pieces adds to a path. -/
theorem prefix_extend (start : Bytes) (more : List Bytes) : start <+: extend start more := by
  induction more generalizing start with
  | nil => exact List.prefix_rfl
  | cons piece more ih => exact (prefix_push start piece).trans (ih _)

/-- Going on adds one piece. -/
theorem components_push (path : Bytes) {piece : Bytes} (h : IsStep piece) :
    components (push path piece) = components path ++ [piece] := by
  have hpiece := components_of_not_mem h.ne_nil h.slash_not_mem
  rw [push]
  split
  · rename_i hslash
    obtain ⟨start, rfl⟩ := endsWithSlash_iff.mp hslash
    have hstart : components (start ++ [slash]) = components start :=
      (components_append_slash start []).trans (List.append_nil _)
    rw [hstart, List.append_assoc, List.singleton_append, components_append_slash, hpiece]
  · rw [components_append_slash, hpiece]

/-- Going on adds the further pieces. -/
theorem components_extend (start : Bytes) {more : List Bytes} (h : ∀ piece ∈ more, IsStep piece) :
    components (extend start more) = components start ++ more := by
  induction more generalizing start with
  | nil => exact (List.append_nil _).symm
  | cons piece more ih =>
    obtain ⟨hpiece, hmore⟩ := List.forall_mem_cons.mp h
    exact (ih _ hmore).trans (by rw [components_push start hpiece, List.append_assoc]; rfl)

/-- Behind a step there is no slash. -/
theorem endsWithSlash_push (path : Bytes) {piece : Bytes} (h : IsStep piece) :
    endsWithSlash (push path piece) = false := by
  have hlast : piece.getLast? ≠ some slash := fun hlast =>
    h.slash_not_mem (List.mem_of_getLast? hlast)
  rw [push]
  split
  · rw [endsWithSlash, List.getLast?_append_of_ne_nil _ h.ne_nil]
    simpa using hlast
  · rw [endsWithSlash, List.getLast?_append_of_ne_nil _ (List.cons_ne_nil _ _),
      List.getLast?_cons_of_ne_nil h.ne_nil]
    simpa using hlast

/-- Behind some steps there is no slash. -/
theorem endsWithSlash_extend (start : Bytes) {more : List Bytes} (hne : more ≠ [])
    (h : ∀ piece ∈ more, IsStep piece) : endsWithSlash (extend start more) = false := by
  induction more generalizing start with
  | nil => contradiction
  | cons piece more ih =>
    obtain ⟨hpiece, hmore⟩ := List.forall_mem_cons.mp h
    by_cases hempty : more = []
    · rw [hempty]
      exact endsWithSlash_push start hpiece
    · exact ih _ hempty hmore

/-- A path that goes on holds only slashes besides the start and the further pieces. -/
theorem mem_extend {c : UInt8} {start : Bytes} {more : List Bytes} (h : c ∈ extend start more) :
    c ∈ start ∨ c = slash ∨ ∃ piece ∈ more, c ∈ piece := by
  induction more generalizing start with
  | nil => exact .inl h
  | cons piece more ih =>
    rcases ih h with hpush | hslash | ⟨other, hother, hmem⟩
    · rw [push] at hpush
      split at hpush
      · rcases List.mem_append.mp hpush with hstart | hpiece
        · exact .inl hstart
        · exact .inr (.inr ⟨piece, List.mem_cons_self, hpiece⟩)
      · rcases List.mem_append.mp hpush with hstart | hpiece
        · exact .inl hstart
        · rcases List.mem_cons.mp hpiece with hslash | hpiece
          · exact .inr (.inl hslash)
          · exact .inr (.inr ⟨piece, List.mem_cons_self, hpiece⟩)
    · exact .inr (.inl hslash)
    · exact .inr (.inr ⟨other, List.mem_cons_of_mem _ hother, hmem⟩)

/-! ## Roots -/

/-- What an absolute path can start with. -/
def IsRoot (start : Bytes) : Prop := start = [slash] ∨ start = [slash, slash]

/-- Every path has a root. -/
theorem isRoot_root (path : Bytes) : IsRoot (root path) := by
  rw [root]
  split
  · exact .inr rfl
  · exact .inl rfl

namespace IsRoot

variable {start : Bytes} (h : IsRoot start)

include h

/-- A root has no pieces. -/
theorem components_eq : components start = [] := by
  rcases h with rfl | rfl
  · rfl
  · rfl

/-- A root holds slashes only. -/
theorem eq_slash_of_mem {c : UInt8} (hc : c ∈ start) : c = slash := by
  rcases h with rfl | rfl
  · simpa using hc
  · simpa using hc

/-- A path that goes on from a root is absolute. -/
theorem isAbsolute_extend (more : List Bytes) : isAbsolute (extend start more) = true := by
  obtain ⟨rest, hrest⟩ := prefix_extend start more
  rw [← hrest]
  rcases h with rfl | rfl
  · rfl
  · rfl

/-- A path that goes on from a root by a step has this root. -/
theorem root_extend {more : List Bytes} (hmore : ∀ piece ∈ more, IsStep piece) :
    root (extend start more) = start := by
  cases more with
  | nil =>
    rcases h with rfl | rfl
    · rfl
    · rfl
  | cons piece more =>
    have hpiece := hmore piece List.mem_cons_self
    obtain ⟨c, piece, rfl⟩ := List.exists_cons_of_ne_nil hpiece.ne_nil
    have hc : c ≠ slash := fun heq => hpiece.slash_not_mem (heq ▸ List.mem_cons_self)
    obtain ⟨rest, hrest⟩ := prefix_extend (push start (c :: piece)) more
    have hextend : extend start ((c :: piece) :: more) = push start (c :: piece) ++ rest :=
      hrest.symm
    rw [hextend]
    rcases h with rfl | rfl
    · simp [push, endsWithSlash, root, hc]
    · simp [push, endsWithSlash, root, hc]

/-- Nothing is left to do for a path that goes on from a root by some steps. -/
theorem absolute_extend (directory : Bytes) {more : List Bytes} (hne : more ≠ [])
    (hmore : ∀ piece ∈ more, IsStep piece) :
    absolute directory (extend start more) = extend start more := by
  have hsteps : (components (extend start more)).filter (· != here) = more := by
    rw [components_extend start hmore, h.components_eq, List.nil_append, List.filter_eq_self]
    exact fun piece hpiece => bne_iff_ne.mpr (hmore piece hpiece).ne_here
  have hslash := endsWithSlash_extend start hne hmore
  rw [absolute, h.isAbsolute_extend, h.root_extend hmore, hsteps, hslash]
  rfl

end IsRoot

/-- Behind a text that does not end with a slash, every step comes with one. -/
theorem extend_eq_append {start : Bytes} {names : List Bytes} (hstart : endsWithSlash start = false)
    (hnames : ∀ name ∈ names, IsStep name) :
    extend start names = start ++ names.flatMap (slash :: ·) := by
  induction names generalizing start with
  | nil => exact (List.append_nil start).symm
  | cons name names ih =>
    obtain ⟨hname, hnames⟩ := List.forall_mem_cons.mp hnames
    have hpush : push start name = start ++ slash :: name := by rw [push, hstart]; rfl
    have hrest := ih (endsWithSlash_push start hname) hnames
    rw [hpush] at hrest
    rw [List.flatMap_cons, ← List.append_assoc, ← hrest, ← hpush]
    rfl

end Path

/-- The path of a location goes on from the root by the names of the location. -/
theorem Location.path_eq_extend {location : Location}
    (h : ∀ name ∈ location, Path.IsStep name) :
    location.path = Path.extend [Path.slash] location := by
  cases location with
  | nil => rfl
  | cons name names =>
    obtain ⟨hname, hnames⟩ := List.forall_mem_cons.mp h
    exact (Path.extend_eq_append (Path.endsWithSlash_push [Path.slash] hname) hnames).symm

namespace Path

/-- The root from which the absolute form of a path goes on. -/
def absoluteRoot (path : Bytes) : Bytes := if isAbsolute path then root path else [slash]

/-- The pieces of the absolute form of a path that is used in a directory. -/
def absoluteSteps (directory : Location) (path : Bytes) : List Bytes :=
  (if isAbsolute path then [] else directory) ++ steps path

/-- The root of an absolute form is a root. -/
theorem isRoot_absoluteRoot (path : Bytes) : IsRoot (absoluteRoot path) := by
  rw [absoluteRoot]
  split
  · exact isRoot_root path
  · exact .inl rfl

/-- The pieces of an absolute form are steps, if the names of the directory are. -/
theorem isStep_of_mem_absoluteSteps {directory : Location} {path piece : Bytes}
    (hdirectory : ∀ name ∈ directory, IsStep name) (h : piece ∈ absoluteSteps directory path) :
    IsStep piece := by
  rcases List.mem_append.mp h with h | h
  · split at h
    · exact absurd h List.not_mem_nil
    · exact hdirectory piece h
  · exact isStep_of_mem_steps h

/-- A path without a slash at its end is made absolute by going on from its root. -/
theorem absolute_eq_extend {directory : Location} {path : Bytes}
    (hdirectory : ∀ name ∈ directory, IsStep name) (hslash : endsWithSlash path = false) :
    absolute directory.path path = extend (absoluteRoot path) (absoluteSteps directory path) := by
  rw [absolute, absoluteRoot, absoluteSteps, hslash]
  by_cases habsolute : isAbsolute path = true
  · rw [if_pos habsolute, if_pos habsolute, if_pos habsolute]
    rfl
  · rw [if_neg habsolute, if_neg habsolute, if_neg habsolute,
      Location.path_eq_extend hdirectory, extend, extend, List.foldl_append]
    rfl

end Path

end TaskSheet
