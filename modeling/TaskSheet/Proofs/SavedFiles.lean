import TaskSheet.Proofs.EnclosingPaths
import TaskSheet.Proofs.FileGrowth

/-!
# What saving leaves alone

Saving records touches one file and nothing else. The only other things that can be new afterwards
are directories around the path, and these are all that is left of an attempt that fails, even of
one that fails after the directories were made.
-/

namespace TaskSheet

namespace FileSystem

/-- Everything is as it was, apart from what is at a place, if one is given, and from new
directories to which paths around the given one lead. -/
structure ChangesAround (path : Bytes) (place : Option Location) (before after : FileSystem) :
    Prop where
  /-- Relative paths start where they did. -/
  workingDirectory_eq : after.workingDirectory = before.workingDirectory
  /-- What was at another location is there. -/
  node?_eq : ∀ location node, place ≠ some location → before.node? location = some node →
    after.node? location = some node
  /-- What is new at another location is a directory around the path. -/
  eq_directory : ∀ location node, place ≠ some location → before.node? location = none →
    after.node? location = some node → node = .directory ∧
      ∃ outer number, Path.IsAround outer path (number + 1) ∧ after.locate outer = .ok location

namespace ChangesAround

variable {path : Bytes} {place : Option Location} {before after : FileSystem}

/-- The files at other locations are those that were there, with the content they had. -/
theorem file_iff (h : ChangesAround path place before after) {location : Location}
    (hplace : place ≠ some location) (content : ByteArray) :
    after.node? location = some (.file content) ↔ before.node? location = some (.file content) := by
  constructor
  · intro hafter
    cases hbefore : before.node? location with
    | none =>
      obtain ⟨hnode, -⟩ := h.eq_directory location _ hplace hbefore hafter
      contradiction
    | some node =>
      have hkept := h.node?_eq location node hplace hbefore
      rw [hafter] at hkept
      exact hkept.symm
  · exact h.node?_eq location _ hplace

/-- New directories along the paths around a path change nothing else. -/
theorem of_growsAlong (h : GrowsAlong (Path.enclosing path) before after) :
    ChangesAround path none before after := by
  refine ⟨h.workingDirectory_eq, fun location node _ => h.node?_eq location node, ?_⟩
  intro location node _ hbefore hafter
  obtain ⟨outer, houter, hlocate⟩ := h.exists_locate location hbefore (by rw [hafter]; rfl)
  obtain ⟨number, haround⟩ := Path.mem_enclosing_iff.mp houter
  exact ⟨h.eq_directory location node hbefore hafter, outer, number, haround, hlocate⟩

/-- A file that is then put at a place changes this place only. -/
theorem set_file {location : Location} (h : ChangesAround path none before after)
    (hne : location ≠ []) (hfree : after.isDirectoryAt location = false) (content : ByteArray) :
    ChangesAround path (some location) before (after.set location (.file content)) := by
  have helsewhere : ∀ other, some location ≠ some other →
      (after.set location (.file content)).node? other = after.node? other := by
    intro other hother
    apply node?_set_of_ne
    rintro rfl
    contradiction
  refine ⟨h.workingDirectory_eq, ?_, ?_⟩
  · intro other node hother hbefore
    rw [helsewhere other hother]
    exact h.node?_eq other node (by simp) hbefore
  · intro other node hother hbefore hafter
    rw [helsewhere other hother] at hafter
    obtain ⟨hnode, outer, number, haround, hlocate⟩ :=
      h.eq_directory other node (by simp) hbefore hafter
    exact ⟨hnode, outer, number, haround, (keeps_set_file hne hfree content).locate hlocate⟩

end ChangesAround

end FileSystem

namespace Workspace

open FileSystem

/-- An attempt to write fails with a fault of the path or of its parent. -/
theorem exists_io_of_write_error {files left : FileSystem} {path : Bytes} {content : ByteArray}
    {failure : Failure} (h : write files path content = (left, .error failure)) :
    ∃ named fault, failure = .io named fault ∧ (named = path ∨ Path.IsAround named path 1) := by
  rw [write] at h
  split at h
  · obtain ⟨-, hfailure⟩ := Prod.mk.inj h
    refine ⟨_, _, (Except.error.inj hfailure).symm, ?_⟩
    cases houter : Path.enclosing path with
    | nil => exact .inl rfl
    | cons parent outer =>
      right
      apply Path.head?_enclosing_iff.mp
      rw [houter]
      rfl
  · split at h
    · obtain ⟨-, hfailure⟩ := Prod.mk.inj h
      exact ⟨path, _, (Except.error.inj hfailure).symm, .inl rfl⟩
    · obtain ⟨-, hok⟩ := Prod.mk.inj h
      contradiction

/-- **Saving touches nothing else.** Once records are saved, the path means a file with their text.
This file is at one place, where no directory was; at every other location there are the files that
were there with the content they had, nothing is gone, and what is new is a directory around the
path. If the records cannot be saved, the fault is one of the path or of its parent, and at every
location there are the same files as before; again nothing is gone, and what is new is a directory
around the path. -/
theorem save_touches_nothing_else (files : FileSystem) (path : Bytes) (records : List Record) :
    match save files path records with
    | (left, .ok ()) =>
      left.readFile path = .ok (Text.encode (Record.renderList records)) ∧
        ∃ place, left.locate path = .ok place ∧ files.isDirectoryAt place = false ∧
          (∀ location content, location ≠ place → (left.node? location = some (.file content) ↔
            files.node? location = some (.file content))) ∧
          ChangesAround path (some place) files left
    | (left, .error failure) =>
      (∃ named fault, failure = .io named fault ∧ (named = path ∨ Path.IsAround named path 1)) ∧
        (∀ location content, left.node? location = some (.file content) ↔
          files.node? location = some (.file content)) ∧
        ChangesAround path none files left := by
  split
  · rename_i left hsave
    obtain ⟨made, place, hgrows, hne, hfree, rfl, hlocate⟩ := exists_of_write hsave
    have hchanges := (ChangesAround.of_growsAlong hgrows).set_file hne hfree
      (Text.encode (Record.renderList records))
    have hbefore : files.isDirectoryAt place = false := by
      by_contra hdirectory
      have hmade := hgrows.keeps.isDirectoryAt place (by simpa using hdirectory)
      rw [hfree] at hmade
      contradiction
    refine ⟨readFile_self_of_write hsave, place, hlocate, hbefore, ?_, hchanges⟩
    intro location content hlocation
    exact hchanges.file_iff (fun heq => hlocation (Option.some.inj heq).symm) content
  · rename_i left failure hsave
    have hchanges := ChangesAround.of_growsAlong (growsAlong_of_write_error hsave)
    refine ⟨exists_io_of_write_error hsave, fun location content => ?_, hchanges⟩
    exact hchanges.file_iff (by simp) content

/-- A directory that was made on the way stays, although the path goes on through a file. -/
example :
    let files : FileSystem := ⟨[(["sheet"], .file .empty)], [], []⟩
    let left := (save files "new/../sheet/records" []).1
    left.node? ["new"] = some .directory ∧ left.node? ["sheet"] = some (.file .empty) ∧
      left.entries.length = 2 := by
  decide

end Workspace

end TaskSheet
