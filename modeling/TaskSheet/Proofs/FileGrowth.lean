import TaskSheet.Proofs.Walks
import TaskSheet.Workspace

/-!
# What writing changes

Writing a file makes the directories around it first, one by one, and then writes the
file in one step. Making directories leaves everything as it was and adds nothing but
directories, even if it fails half way. The last step puts the content at the place to
which the path leads, and changes nothing at any other place.
-/

namespace TaskSheet.FileSystem

/-- Everything is as it was, apart from directories that are new. -/
structure Grows (before after : FileSystem) : Prop where
  /-- Relative paths start where they did. -/
  workingDirectory_eq : after.workingDirectory = before.workingDirectory
  /-- What was there is there. -/
  node?_eq : ∀ location node, before.node? location = some node →
    after.node? location = some node
  /-- What was not there is a directory. -/
  eq_directory : ∀ location node, before.node? location = none →
    after.node? location = some node → node = .directory

namespace Grows

/-- Nothing changes where nothing is done. -/
theorem refl (files : FileSystem) : Grows files files :=
  ⟨rfl, fun _ _ h => h, fun location node hnone hsome => by simp [hnone] at hsome⟩

/-- Directories can be added one after the other. -/
theorem trans {before middle after : FileSystem} (first : Grows before middle)
    (second : Grows middle after) : Grows before after := by
  refine ⟨second.workingDirectory_eq.trans first.workingDirectory_eq,
    fun location node h => second.node?_eq location node (first.node?_eq location node h), ?_⟩
  intro location node hbefore hafter
  cases hmiddle : middle.node? location with
  | none => exact second.eq_directory location node hmiddle hafter
  | some other =>
    have hkept := second.node?_eq location other hmiddle
    rw [hafter] at hkept
    rw [Option.some.inj hkept]
    exact first.eq_directory location other hbefore hmiddle

/-- New directories take nothing away. -/
theorem keeps {before after : FileSystem} (h : Grows before after) : Keeps before after := by
  refine ⟨h.workingDirectory_eq, ?_, ?_⟩
  · intro location hdirectory
    rw [isDirectoryAt, beq_iff_eq] at hdirectory ⊢
    exact h.node?_eq location .directory hdirectory
  · intro location hsome
    obtain ⟨node, hnode⟩ := Option.isSome_iff_exists.mp hsome
    exact Option.isSome_iff_exists.mpr ⟨node, h.node?_eq location node hnode⟩

/-- Files can be read as before. -/
theorem readFile {before after : FileSystem} (h : Grows before after) {path : Bytes}
    {content : ByteArray} (hread : before.readFile path = .ok content) :
    after.readFile path = .ok content := by
  obtain ⟨location, hlocate, hnode⟩ := readFile_eq_ok_iff.mp hread
  exact readFile_eq_ok_iff.mpr
    ⟨location, h.keeps.locate hlocate, h.node?_eq location _ hnode⟩

end Grows

/-- Putting a directory where nothing is adds this directory. -/
theorem grows_set_directory {files : FileSystem} {place : Location} (hplace : place ≠ [])
    (hnone : files.node? place = none) : Grows files (files.set place .directory) := by
  refine ⟨rfl, ?_, ?_⟩
  · intro location node hnode
    have hne : location ≠ place := by
      rintro rfl
      simp [hnone] at hnode
    rw [node?_set_of_ne files .directory hne, hnode]
  · intro location node hbefore hafter
    by_cases heq : location = place
    · subst heq
      rw [node?_set_self files .directory hplace] at hafter
      exact (Option.some.inj hafter).symm
    · rw [node?_set_of_ne files .directory heq, hbefore] at hafter
      contradiction

/-- A directory is made at a place where nothing was, and to which the path leads
afterwards. -/
theorem exists_of_makeDirectory {files made : FileSystem} {path : Bytes}
    (h : files.makeDirectory path = .ok made) :
    ∃ place, place ≠ [] ∧ files.node? place = none ∧ made = files.set place .directory ∧
      made.locate path = .ok place := by
  obtain ⟨⟨directory, last⟩, hlast, hmade⟩ := bind_eq_ok_iff.mp h
  dsimp only at hmade
  split at hmade
  · contradiction
  · rename_i name hfilter
    obtain ⟨rfl, hname⟩ := Option.filter_eq_some_iff.mp hfilter
    obtain ⟨place, hchild, hmade⟩ := bind_eq_ok_iff.mp hmade
    obtain ⟨-, hlength, rfl⟩ := child_eq_ok_iff.mp hchild
    split at hmade
    · contradiction
    · rename_i hfree
      split at hmade
      · contradiction
      · have hnone : files.node? (directory ++ [name]) = none := by simpa using hfree
        have hne : directory ++ [name] ≠ [] := List.concat_ne_nil _ _
        have hthere := node?_set_self files .directory hne
        obtain rfl := Except.ok.inj hmade
        exact ⟨_, hne, hnone, rfl, (grows_set_directory hne hnone).keeps.locate_of_lastPiece hlast
          hname hlength (by rw [hthere]; rfl) fun _ => by
            rw [isDirectoryAt, hthere, beq_self_eq_true]⟩

/-- Everything is as it was, apart from new directories to which some of the paths lead. -/
structure GrowsAlong (paths : List Bytes) (before after : FileSystem) : Prop
    extends Grows before after where
  /-- What is new is where a path leads. -/
  exists_locate : ∀ location, before.node? location = none →
    (after.node? location).isSome = true → ∃ path ∈ paths, after.locate path = .ok location

namespace GrowsAlong

/-- Nothing is new where nothing is done. -/
theorem refl (paths : List Bytes) (files : FileSystem) : GrowsAlong paths files files := by
  refine ⟨Grows.refl files, fun location hnone hsome => ?_⟩
  simp [hnone] at hsome

/-- More paths can be considered. -/
theorem mono {paths others : List Bytes} {before after : FileSystem} (hsubset : paths ⊆ others)
    (h : GrowsAlong paths before after) : GrowsAlong others before after := by
  refine ⟨h.toGrows, fun location hnone hsome => ?_⟩
  obtain ⟨path, hpath, hlocate⟩ := h.exists_locate location hnone hsome
  exact ⟨path, hsubset hpath, hlocate⟩

/-- Paths still lead to the directories that are new. -/
theorem trans {paths : List Bytes} {before middle after : FileSystem}
    (first : GrowsAlong paths before middle) (second : GrowsAlong paths middle after) :
    GrowsAlong paths before after := by
  refine ⟨first.toGrows.trans second.toGrows, fun location hbefore hafter => ?_⟩
  by_cases hmiddle : (middle.node? location).isSome = true
  · obtain ⟨path, hpath, hlocate⟩ := first.exists_locate location hbefore hmiddle
    exact ⟨path, hpath, second.keeps.locate hlocate⟩
  · exact second.exists_locate location (by simpa using hmiddle) hafter

end GrowsAlong

/-- Making a directory adds this directory. -/
theorem growsAlong_makeDirectory {files made : FileSystem} {path : Bytes}
    (h : files.makeDirectory path = .ok made) : GrowsAlong [path] files made := by
  obtain ⟨place, hplace, hnone, rfl, hlocate⟩ := exists_of_makeDirectory h
  refine ⟨grows_set_directory hplace hnone, fun location hbefore hafter => ?_⟩
  have heq : location = place := by
    by_contra hne
    simp [node?_set_of_ne files .directory hne, hbefore] at hafter
  exact ⟨path, List.mem_singleton_self path, heq ▸ hlocate⟩

/-- Making nested directories adds none but those to which their paths lead, whether or not
it succeeds. -/
theorem growsAlong_makeDirectories (files : FileSystem) (paths : List Bytes) :
    GrowsAlong paths files (files.makeDirectories paths).1 := by
  induction paths with
  | nil => exact GrowsAlong.refl [] files
  | cons path outer ih =>
    have hfirst : [path] ⊆ path :: outer := by simp
    have hothers := ih.mono (List.subset_cons_self path outer)
    rw [makeDirectories]
    split
    · rename_i made hmade
      exact (growsAlong_makeDirectory hmade).mono hfirst
    · split
      · rename_i made fault houter
        rwa [houter] at hothers
      · rename_i made houter
        rw [houter] at hothers
        split
        · rename_i whole hwhole
          exact hothers.trans ((growsAlong_makeDirectory hwhole).mono hfirst)
        · exact hothers
    · exact GrowsAlong.refl _ files

/-- Putting a file where there is no directory takes nothing away. -/
theorem keeps_set_file {files : FileSystem} {place : Location} (hplace : place ≠ [])
    (hdirectory : files.isDirectoryAt place = false) (content : ByteArray) :
    Keeps files (files.set place (.file content)) := by
  refine ⟨rfl, ?_, ?_⟩
  · intro location h
    have hne : location ≠ place := by
      rintro rfl
      simp [hdirectory] at h
    rw [isDirectoryAt, node?_set_of_ne files _ hne]
    exact h
  · intro location h
    by_cases heq : location = place
    · rw [heq, node?_set_self files _ hplace]
      rfl
    · rw [node?_set_of_ne files _ heq]
      exact h

/-- A file is written at the place to which the path leads afterwards. No directory was
there. -/
theorem exists_of_writeFile {files written : FileSystem} {path : Bytes} {content : ByteArray}
    (h : files.writeFile path content = .ok written) :
    ∃ place, place ≠ [] ∧ files.isDirectoryAt place = false ∧
      written = files.set place (.file content) ∧ written.locate path = .ok place := by
  obtain ⟨⟨directory, last⟩, hlast, hwritten⟩ := bind_eq_ok_iff.mp h
  dsimp only at hwritten
  split at hwritten
  · contradiction
  · rename_i name hfilter
    obtain ⟨rfl, hname⟩ := Option.filter_eq_some_iff.mp hfilter
    split at hwritten
    · contradiction
    · rename_i hslash
      obtain ⟨place, hchild, hwritten⟩ := bind_eq_ok_iff.mp hwritten
      obtain ⟨-, hlength, rfl⟩ := child_eq_ok_iff.mp hchild
      have hset : files.isDirectoryAt (directory ++ [name]) = false ∧
          files.set (directory ++ [name]) (.file content) = written := by
        rw [isDirectoryAt]
        split at hwritten
        · contradiction
        · rename_i hnode
          exact ⟨by simp [hnode], Except.ok.inj hwritten⟩
        · rename_i hnode
          split at hwritten
          · contradiction
          · exact ⟨by simp [hnode], Except.ok.inj hwritten⟩
      obtain ⟨hfree, rfl⟩ := hset
      have hne : directory ++ [name] ≠ [] := List.concat_ne_nil _ _
      have hsome := node?_set_self files (.file content) hne
      exact ⟨_, hne, hfree, rfl, (keeps_set_file hne hfree content).locate_of_lastPiece hlast hname
        hlength (by rw [hsome]; rfl) fun hend => absurd hend hslash⟩

end TaskSheet.FileSystem

namespace TaskSheet.Workspace

open FileSystem

/-- A failed attempt to write adds at most directories around the file. -/
theorem growsAlong_of_write_error {files left : FileSystem} {path : Bytes} {content : ByteArray}
    {failure : Failure} (h : write files path content = (left, .error failure)) :
    GrowsAlong (Path.enclosing path) files left := by
  have hgrows := growsAlong_makeDirectories files (Path.enclosing path)
  rw [write] at h
  split at h
  · rename_i made fault hmade
    rw [hmade] at hgrows
    exact (Prod.mk.inj h).1 ▸ hgrows
  · rename_i made hmade
    rw [hmade] at hgrows
    split at h
    · exact (Prod.mk.inj h).1 ▸ hgrows
    · exact absurd (Prod.mk.inj h).2 (by simp)

/-- Writing adds directories around the file, and then puts the content at the place to which the
path leads. -/
theorem exists_of_write {files left : FileSystem} {path : Bytes} {content : ByteArray}
    (h : write files path content = (left, .ok ())) :
    ∃ made place, GrowsAlong (Path.enclosing path) files made ∧ place ≠ [] ∧
      made.isDirectoryAt place = false ∧ left = made.set place (.file content) ∧
      left.locate path = .ok place := by
  have hgrows := growsAlong_makeDirectories files (Path.enclosing path)
  rw [write] at h
  split at h
  · exact absurd (Prod.mk.inj h).2 (by simp)
  · rename_i made hmade
    rw [hmade] at hgrows
    split at h
    · exact absurd (Prod.mk.inj h).2 (by simp)
    · rename_i written hwritten
      obtain ⟨place, hne, hfree, hset, hlocate⟩ := exists_of_writeFile hwritten
      have hleft := (Prod.mk.inj h).1
      rw [hleft] at hset hlocate
      exact ⟨made, place, hgrows, hne, hfree, hset, hlocate⟩

/-- The path that was written means the content. -/
theorem readFile_self_of_write {files left : FileSystem} {path : Bytes} {content : ByteArray}
    (h : write files path content = (left, .ok ())) : left.readFile path = .ok content := by
  obtain ⟨made, place, -, hne, -, rfl, hlocate⟩ := exists_of_write h
  exact readFile_eq_ok_iff.mpr ⟨place, hlocate, node?_set_self made _ hne⟩

/-- After writing, a path that meant a file means the new content if it leads to the same
place as the path that was written, and its old content if it does not. -/
theorem readFile_of_write {files left : FileSystem} {path other : Bytes}
    {content old : ByteArray} (h : write files path content = (left, .ok ()))
    (hread : files.readFile other = .ok old) :
    (left.locate other = left.locate path ∧ left.readFile other = .ok content) ∨
      (left.locate other ≠ left.locate path ∧ left.readFile other = .ok old) := by
  obtain ⟨made, place, hgrows, hne, hfree, rfl, hlocate⟩ := exists_of_write h
  obtain ⟨location, hother, hnode⟩ := readFile_eq_ok_iff.mp (hgrows.readFile hread)
  have hother := (keeps_set_file hne hfree content).locate hother
  rw [hother, hlocate]
  by_cases heq : location = place
  · left
    exact ⟨congrArg _ heq, readFile_eq_ok_iff.mpr
      ⟨location, hother, by rw [heq, node?_set_self made _ hne]⟩⟩
  · right
    refine ⟨fun hsame => heq (Except.ok.inj hsame), readFile_eq_ok_iff.mpr ⟨location, hother, ?_⟩⟩
    rw [node?_set_of_ne made _ heq, hnode]

end TaskSheet.Workspace
