import TaskSheet.FileSystem.Operations
import Mathlib.Data.List.Basic

/-!
# Walks through a file system

A walk asks at every step whether there is a directory, or whether there is anything at
all, and never what a file holds. Hence a path that leads somewhere still leads there
after any change that takes nothing away. Changes of this kind are the making of
directories and the writing of files.
-/

namespace TaskSheet.FileSystem

/-- A computation with two parts succeeds exactly when both do. -/
theorem bind_eq_ok_iff {ε α β : Type} {first : Except ε α} {next : α → Except ε β} {result : β} :
    (first >>= next) = .ok result ↔ ∃ value, first = .ok value ∧ next value = .ok result := by
  cases first with
  | error fault => simp [bind, Except.bind]
  | ok value => simp [bind, Except.bind]

/-- A step along a name succeeds in a directory that is there, if the name is short
enough. -/
theorem child_eq_ok_iff {files : FileSystem} {directory location : Location} {name : Bytes} :
    files.child directory name = .ok location ↔
      files.isDirectoryAt directory = true ∧ name.length ≤ greatestName ∧
        location = directory ++ [name] := by
  by_cases hdirectory : files.isDirectoryAt directory = true
  · by_cases hname : name.length ≤ greatestName
    · simp [child, hdirectory, hname, Nat.not_lt.mpr hname, eq_comm (a := location)]
    · simp [child, hdirectory, Nat.lt_of_not_le hname, hname]
  · simp [child, hdirectory]

/-- A step along a name succeeds if there is something under that name. -/
theorem enter_name_eq_ok_iff {files : FileSystem} {directory location : Location} {name : Bytes}
    (hhere : name ≠ Path.here) (hup : name ≠ Path.up) :
    files.enter directory name = .ok location ↔
      files.isDirectoryAt directory = true ∧ name.length ≤ greatestName ∧
        location = directory ++ [name] ∧ (files.node? location).isSome = true := by
  rw [enter, if_neg (by simp [hhere, hup]), bind_eq_ok_iff]
  simp only [child_eq_ok_iff]
  constructor
  · rintro ⟨place, ⟨hdirectory, hlength, rfl⟩, hplace⟩
    by_cases hnode : (files.node? (directory ++ [name])).isSome = true
    · rw [if_neg (by simpa [Option.isSome_iff_ne_none] using hnode)] at hplace
      obtain rfl := Except.ok.inj hplace
      exact ⟨hdirectory, hlength, rfl, hnode⟩
    · rw [if_pos (by simpa using hnode)] at hplace
      contradiction
  · rintro ⟨hdirectory, hlength, rfl, hnode⟩
    refine ⟨_, ⟨hdirectory, hlength, rfl⟩, ?_⟩
    rw [if_neg (by simpa [Option.isSome_iff_ne_none] using hnode)]
    rfl

/-- A step along a piece of a path starts from a directory, and ends there, above it, or at
something in it. -/
theorem enter_eq_ok_iff {files : FileSystem} {directory location : Location} {piece : Bytes} :
    files.enter directory piece = .ok location ↔
      files.isDirectoryAt directory = true ∧
        ((piece = Path.here ∧ location = directory) ∨
          (piece = Path.up ∧ location = directory.dropLast) ∨
          isName piece = true ∧ piece.length ≤ greatestName ∧
            location = directory ++ [piece] ∧ (files.node? location).isSome = true) := by
  have hne : Path.here ≠ Path.up := by decide
  by_cases hhere : piece = Path.here
  · subst hhere
    by_cases hdirectory : files.isDirectoryAt directory = true
    · simp [enter, hdirectory, hne, isName, eq_comm (a := location)]
    · simp [enter, hdirectory]
  · by_cases hup : piece = Path.up
    · subst hup
      by_cases hdirectory : files.isDirectoryAt directory = true
      · simp [enter, hdirectory, hne.symm, isName, eq_comm (a := location)]
      · simp [enter, hdirectory]
    · rw [enter_name_eq_ok_iff hhere hup]
      simp [hhere, hup, isName]

/-- A path leads to a location if it is acceptable, the walk along it ends there, and there
is a directory where the path demands one. -/
theorem locate_eq_ok_iff {files : FileSystem} {path : Bytes} {location : Location} :
    files.locate path = .ok location ↔
      checkPath path = .ok () ∧
        files.walk (files.origin path) (Path.components path) = .ok location ∧
        (Path.endsWithSlash path = true → files.isDirectoryAt location = true) := by
  simp only [locate, bind_eq_ok_iff]
  constructor
  · rintro ⟨_, hcheck, place, hwalk, hplace⟩
    split at hplace
    · contradiction
    · rename_i hslash
      obtain rfl := Except.ok.inj hplace
      refine ⟨hcheck, hwalk, ?_⟩
      simpa using hslash
  · rintro ⟨hcheck, hwalk, hslash⟩
    refine ⟨_, hcheck, location, hwalk, ?_⟩
    rw [if_neg (by simpa using hslash)]
    rfl

/-- A file is read if the path leads to it. -/
theorem readFile_eq_ok_iff {files : FileSystem} {path : Bytes} {content : ByteArray} :
    files.readFile path = .ok content ↔
      ∃ location, files.locate path = .ok location ∧
        files.node? location = some (.file content) := by
  simp only [readFile, bind_eq_ok_iff]
  refine exists_congr fun location => and_congr_right fun _ => ?_
  cases files.node? location with
  | none => simp
  | some node =>
    cases node with
    | file other => simp [pure, Except.pure]
    | directory => simp

/-- The last piece of a path is looked up in the directory to which the others lead. -/
theorem lastPiece_eq_ok_iff {files : FileSystem} {path : Bytes} {directory : Location}
    {last : Option Bytes} :
    files.lastPiece path = .ok (directory, last) ↔
      checkPath path = .ok () ∧
        files.walk (files.origin path) (Path.components path).dropLast = .ok directory ∧
        files.isDirectoryAt directory = true ∧ last = (Path.components path).getLast? := by
  simp only [lastPiece, bind_eq_ok_iff]
  constructor
  · rintro ⟨_, hcheck, place, hwalk, hplace⟩
    split at hplace
    · contradiction
    · rename_i hdirectory
      obtain ⟨rfl, rfl⟩ := Prod.mk.inj (Except.ok.inj hplace)
      exact ⟨hcheck, hwalk, by simpa using hdirectory, rfl⟩
  · rintro ⟨hcheck, hwalk, hdirectory, rfl⟩
    refine ⟨_, hcheck, directory, hwalk, ?_⟩
    rw [if_neg (by simp [hdirectory])]
    rfl

/-- After a change that takes nothing away, directories are still directories, and where
something was there still is something. -/
structure Keeps (before after : FileSystem) : Prop where
  /-- Relative paths start where they did. -/
  workingDirectory_eq : after.workingDirectory = before.workingDirectory
  /-- Directories stay. -/
  isDirectoryAt : ∀ location, before.isDirectoryAt location = true →
    after.isDirectoryAt location = true
  /-- Places that were taken stay so. -/
  isSome : ∀ location, (before.node? location).isSome = true →
    (after.node? location).isSome = true

namespace Keeps

variable {before after : FileSystem} (h : Keeps before after)

include h

/-- A step that was possible is still possible. -/
theorem enter {directory location : Location} {piece : Bytes}
    (hstep : before.enter directory piece = .ok location) :
    after.enter directory piece = .ok location := by
  obtain ⟨hdirectory, hcases⟩ := enter_eq_ok_iff.mp hstep
  refine enter_eq_ok_iff.mpr ⟨h.isDirectoryAt directory hdirectory, ?_⟩
  rcases hcases with hhere | hup | ⟨hname, hlength, hlocation, hsome⟩
  · exact Or.inl hhere
  · exact Or.inr (Or.inl hup)
  · exact Or.inr (Or.inr ⟨hname, hlength, hlocation, h.isSome location hsome⟩)

/-- A walk that was possible still ends in the same place. -/
theorem walk {start location : Location} {pieces : List Bytes}
    (hwalk : before.walk start pieces = .ok location) :
    after.walk start pieces = .ok location := by
  induction pieces generalizing start with
  | nil => exact hwalk
  | cons piece pieces ih =>
    obtain ⟨next, hstep, hrest⟩ := bind_eq_ok_iff.mp hwalk
    exact bind_eq_ok_iff.mpr ⟨next, h.enter hstep, ih hrest⟩

/-- Walks along a path start where they did. -/
theorem origin_eq (path : Bytes) : after.origin path = before.origin path := by
  rw [origin, origin, h.workingDirectory_eq]

/-- A path that led to a location still leads to it. -/
theorem locate {path : Bytes} {location : Location}
    (hlocate : before.locate path = .ok location) : after.locate path = .ok location := by
  obtain ⟨hcheck, hwalk, hslash⟩ := locate_eq_ok_iff.mp hlocate
  refine locate_eq_ok_iff.mpr ⟨hcheck, ?_, fun hend => h.isDirectoryAt location (hslash hend)⟩
  rw [h.origin_eq]
  exact h.walk hwalk

/-- A path whose last piece is a name leads to that name in the directory to which the
others led, if there is something now, and a directory if the path demands one. -/
theorem locate_of_lastPiece {path name : Bytes} {directory : Location}
    (hlast : before.lastPiece path = .ok (directory, some name)) (hname : isName name = true)
    (hlength : name.length ≤ greatestName)
    (hsome : (after.node? (directory ++ [name])).isSome = true)
    (hslash : Path.endsWithSlash path = true →
      after.isDirectoryAt (directory ++ [name]) = true) :
    after.locate path = .ok (directory ++ [name]) := by
  obtain ⟨hcheck, hwalk, hdirectory, hpiece⟩ := lastPiece_eq_ok_iff.mp hlast
  have hpieces : Path.components path = (Path.components path).dropLast ++ [name] :=
    (List.dropLast_append_getLast? name hpiece.symm).symm
  have hstep : after.enter directory name = .ok (directory ++ [name]) :=
    enter_eq_ok_iff.mpr ⟨h.isDirectoryAt directory hdirectory,
      Or.inr (Or.inr ⟨hname, hlength, rfl, hsome⟩)⟩
  refine locate_eq_ok_iff.mpr ⟨hcheck, ?_, hslash⟩
  rw [h.origin_eq, hpieces, FileSystem.walk, List.foldlM_append]
  refine bind_eq_ok_iff.mpr ⟨directory, h.walk hwalk, ?_⟩
  rw [List.foldlM_cons, hstep]
  rfl

end Keeps

end TaskSheet.FileSystem
