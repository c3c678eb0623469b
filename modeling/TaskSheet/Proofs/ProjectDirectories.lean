import TaskSheet.Compilation
import Mathlib.Data.List.DropRight
import Mathlib.Data.List.TakeWhile

/-!
# Slashes at the end of a project directory

A project directory is used in three places: the agent changes to it, the module of a task lies in
it, and the verifier looks for the command that changes to it. All of them take the root of the
project instead, which is the directory with one slash at its end. So the environment can be
replaced by its normal form, in which the directory is the root itself, and how many slashes the
directory was given with is forgotten.
-/

namespace TaskSheet

namespace Environment

/-- The environment with more slashes at the end of the project directory. -/
def withSlashes (environment : Environment) (count : Nat) : Environment :=
  { environment with projectDir := environment.projectDir ++ List.replicate count '/' }

/-- The environment with the root of the project as the project directory. -/
def normalized (environment : Environment) : Environment :=
  { environment with projectDir := environment.projectRoot }

variable (environment : Environment)

/-- The root does not depend on slashes at the end of the directory. -/
theorem projectRoot_withSlashes (count : Nat) :
    (environment.withSlashes count).projectRoot = environment.projectRoot := by
  have hslashes : ∀ c ∈ List.replicate count '/', (c == '/') = true := by simp
  rw [projectRoot, withSlashes, List.reverse_append, List.reverse_replicate,
    List.dropWhile_append_of_pos hslashes, projectRoot]

/-- The normal form does not depend on slashes at the end of the directory. -/
theorem normalized_withSlashes (count : Nat) :
    (environment.withSlashes count).normalized = environment.normalized := by
  rw [normalized, projectRoot_withSlashes]
  rfl

/-- The root of a project is its own root. -/
@[simp] theorem projectRoot_normalized :
    environment.normalized.projectRoot = environment.projectRoot := by
  have hslash : ∀ c ∈ ['/'], (c == '/') = true := by simp
  rw [projectRoot, normalized]
  dsimp only
  rw [projectRoot, List.reverse_append, List.reverse_singleton,
    List.dropWhile_append_of_pos hslash, List.reverse_reverse, List.dropWhile_idempotent]

/-- Normalizing keeps the activation command. -/
@[simp] theorem activate_normalized : environment.normalized.activate = environment.activate := rfl

/-- Normalizing keeps the path of the sheet. -/
@[simp] theorem taskFile_normalized : environment.normalized.taskFile = environment.taskFile := rfl

/-- Normalizing keeps the command that changes to the directory. -/
@[simp] theorem cdCommand_normalized :
    environment.normalized.cdCommand = environment.cdCommand := by
  rw [cdCommand, projectRoot_normalized, cdCommand]

/-- Normalizing keeps the paths of modules. -/
@[simp] theorem modulePath_normalized (module : Text) :
    environment.normalized.modulePath module = environment.modulePath module := by
  rw [modulePath, projectRoot_normalized, modulePath]

/-- The root is the directory without slashes at its end, and one slash behind it. -/
theorem exists_directory : ∃ directory slashes,
    environment.projectDir = directory ++ List.replicate slashes '/' ∧
      directory.getLast? ≠ some '/' ∧ environment.projectRoot = directory ++ ['/'] := by
  have hslashes : environment.projectDir.rtakeWhile (· == '/') =
      List.replicate (environment.projectDir.rtakeWhile (· == '/')).length '/' :=
    List.eq_replicate_length.mpr fun c hc => by simpa using List.mem_rtakeWhile_imp hc
  refine ⟨environment.projectDir.rdropWhile (· == '/'),
    (environment.projectDir.rtakeWhile (· == '/')).length, ?_, ?_, rfl⟩
  · rw [← hslashes, List.rdropWhile_append_rtakeWhile]
  · intro hlast
    obtain ⟨hne, hslash⟩ := List.mem_getLast?_eq_getLast hlast
    simpa [← hslash] using List.rdropWhile_last_not _ _ hne

/-- The path of a module is the module behind the root, but for slashes at its start. -/
theorem exists_modulePath (module : Text) : ∃ slashes rest,
    module = List.replicate slashes '/' ++ rest ∧ rest.head? ≠ some '/' ∧
      environment.modulePath module = environment.projectRoot ++ rest := by
  have hslashes : module.takeWhile (· == '/') =
      List.replicate (module.takeWhile (· == '/')).length '/' :=
    List.eq_replicate_length.mpr fun c hc => by simpa using List.mem_takeWhile_imp hc
  refine ⟨(module.takeWhile (· == '/')).length, module.dropWhile (· == '/'), ?_, ?_, rfl⟩
  · rw [← hslashes, List.takeWhile_append_dropWhile]
  · intro hhead
    simpa [hhead] using List.head?_dropWhile_not (· == '/') module

end Environment

/-- The prompts for a normalized environment are those for the environment. -/
theorem Document.records_normalized (document : Document) (environment : Environment) :
    document.records environment.normalized = document.records environment := by
  simp only [Document.records, Prompt.render, Prompt.promptLines, Prompt.setupSection,
    Prompt.setupLine, Prompt.contextSection, Prompt.policyLines, Document.promptContext,
    Environment.cdCommand_normalized, Environment.activate_normalized,
    Environment.modulePath_normalized, Environment.taskFile_normalized]

namespace Schema

variable (environment : Environment)

/-- A command has the same gaps for the normalized environment. -/
theorem gaps_normalized (command : Text) (arguments : List (Text × Json)) :
    gaps environment.normalized command arguments = gaps environment command arguments := by
  rw [gaps, Environment.cdCommand_normalized, Environment.activate_normalized, gaps]

/-- A record has the same findings for the normalized environment. -/
theorem examine_normalized (number : Nat) (record : Json) :
    examine environment.normalized number record = examine environment number record := by
  simp only [examine, gaps_normalized]

/-- Records have the same findings for the normalized environment. -/
theorem examineFrom_normalized (number : Nat) (records : List Json) :
    examineFrom environment.normalized number records =
      examineFrom environment number records := by
  induction records generalizing number with
  | nil => rfl
  | cons record records ih => rw [examineFrom, examine_normalized, ih, examineFrom]

/-- A task list has the same findings for the normalized environment. -/
theorem verify_normalized (value : Json) :
    verify environment.normalized value = verify environment value := by
  cases value with
  | array records =>
    cases records with
    | nil => rfl
    | cons record records => exact examineFrom_normalized environment 1 _
  | _ => rfl

/-- A list of records has the same findings for the normalized environment. -/
theorem verifyRecords_normalized (records : List Record) :
    verifyRecords environment.normalized records = verifyRecords environment records :=
  verify_normalized environment _

end Schema

/-- A sheet is compiled to the same for the normalized environment. -/
theorem Compilation.ofSheet_normalized (environment : Environment) (sheet : Text) :
    ofSheet environment.normalized sheet = ofSheet environment sheet := by
  rw [ofSheet, ofSheet]
  cases Document.ofOutline (Outline.ofText sheet) with
  | error violations => rfl
  | ok document =>
    dsimp only [ofDocument]
    rw [Document.records_normalized, Schema.verifyRecords_normalized]

/-- **Slashes at the end of the project directory do not matter.** With any number of them a sheet
is compiled to the same, and the same is found in a task list. The root is the directory with
exactly one slash at its end and a directory with the same root, and the path of a module is the
root followed by the module without slashes at its start. -/
theorem trailing_slashes_do_not_matter (environment : Environment) (first second : Nat) :
    (∀ sheet, Compilation.ofSheet (environment.withSlashes first) sheet =
        Compilation.ofSheet (environment.withSlashes second) sheet) ∧
      (∀ value, Schema.verify (environment.withSlashes first) value =
        Schema.verify (environment.withSlashes second) value) ∧
      environment.normalized.projectRoot = environment.projectRoot ∧
      (∃ directory slashes, environment.projectDir = directory ++ List.replicate slashes '/' ∧
        directory.getLast? ≠ some '/' ∧ environment.projectRoot = directory ++ ['/']) ∧
      ∀ module, ∃ slashes rest, module = List.replicate slashes '/' ++ rest ∧
        rest.head? ≠ some '/' ∧
        environment.modulePath module = environment.projectRoot ++ rest := by
  have hsame : (environment.withSlashes first).normalized =
      (environment.withSlashes second).normalized := by
    rw [Environment.normalized_withSlashes, Environment.normalized_withSlashes]
  refine ⟨fun sheet => ?_, fun value => ?_, environment.projectRoot_normalized,
    environment.exists_directory, environment.exists_modulePath⟩
  · rw [← Compilation.ofSheet_normalized, hsame, Compilation.ofSheet_normalized]
  · rw [← Schema.verify_normalized, hsame, Schema.verify_normalized]

end TaskSheet
