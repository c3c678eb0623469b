import TaskSheet.Proofs.CheckedSheets
import TaskSheet.Proofs.SourceSheets

/-!
# What the progress of a run tells

A run announces every step before it takes it, and the last announcement is made when nothing can
fail any more. So the announcements tell how far a run has come: those of a malformed sheet end
with the rules, those of rejected records end with the examination, and completion is announced
only with the records. What is announced before a file is read does not depend on the file.
-/

namespace TaskSheet

/-- What a reader sees of a notice: the stage and the wording. -/
abbrev Announcement := Stage × Text

/-- The announcement of a notice. -/
def Notice.announcement (notice : Notice) : Announcement := (notice.stage, notice.detail)

/-- What a run announces, in order. -/
def Outcome.announcements {α : Type} (outcome : Outcome α) : List Announcement :=
  (Event.notices outcome.events).map Notice.announcement

/-- What is announced before a sheet is loaded. -/
def Announcement.loading : Announcement := (.load, "Loading task file...")

/-- What is announced before the records are examined. -/
def Announcement.examination : Announcement :=
  (.verifyOutput, "Validating task record format...")

/-- What is announced on success. -/
def Announcement.completion : Announcement := (.verifyOutput, "Conversion complete!")

/-- What is announced while a sheet is read. -/
def readingTrace : List Announcement :=
  [(.extract, "Extracting sections..."), (.validate, "Validating markdown structure...")]

/-- What is announced while the tasks for these modules are converted. -/
def conversionTrace (modules : List Text) : List Announcement :=
  (.compile, ("Converting " : Text) ++ Text.ofNat modules.length ++ " validation tasks...") ::
    (modules.zipIdx 1).map fun entry =>
      (.compile, ("Task " : Text) ++ Text.ofNat entry.2 ++ "/" ++ Text.ofNat modules.length ++
        ": Converting " ++ entry.1)

/-- What is announced while the sheet with an outline is compiled, for each way in which that can
end. -/
inductive Outline.Tells (outline : Outline) :
    Except Failure (List Record) → List Announcement → Prop
  /-- A malformed sheet is read and no more. -/
  | malformed (violations : List Violation) :
    Tells outline (.error (.malformed violations)) readingTrace
  /-- Records that are rejected have been made and examined. -/
  | rejected (errors : List Schema.Finding) :
    Tells outline (.error (.rejected errors))
      (readingTrace ++ conversionTrace (outline.blocks.map (·.module)) ++
        [Announcement.examination])
  /-- There is a record for each block, and only then completion is announced. -/
  | compiled {records : List Record} (h : records.length = outline.blocks.length) :
    Tells outline (.ok records)
      (readingTrace ++ conversionTrace (outline.blocks.map (·.module)) ++
        [Announcement.examination] ++ [Announcement.completion])

/-! ## The announcements of a compilation -/

/-- The notices of a run are those of its parts. -/
theorem Event.notices_append (first second : List Event) :
    notices (first ++ second) = notices first ++ notices second :=
  List.filterMap_append

/-- What is found is no notice. -/
@[simp] theorem Event.notices_map_finding (findings : List Schema.Finding) :
    notices (findings.map finding) = [] := by
  rw [notices, List.filterMap_map]
  exact List.filterMap_eq_nil_iff.mpr fun _ _ => rfl

/-- The tasks are announced by number and module. -/
theorem Notice.map_announcement_tasksFrom (number total : Nat) (tasks : List Task) :
    (tasksFrom number total tasks).map announcement =
      ((tasks.map (·.module)).zipIdx number).map fun entry =>
        (.compile, ("Task " : Text) ++ Text.ofNat entry.2 ++ "/" ++ Text.ofNat total ++
          ": Converting " ++ entry.1) := by
  induction tasks generalizing number with
  | nil => rfl
  | cons task tasks ih =>
    rw [tasksFrom, List.map_cons, ih, List.map_cons, List.zipIdx_cons, List.map_cons]
    rfl

namespace Compilation

/-- The announcements of a conversion, up to the examination. -/
theorem map_announcement_conversion (tasks : List Task) :
    (conversion tasks).map Notice.announcement =
      conversionTrace (tasks.map (·.module)) ++ [Announcement.examination] := by
  rw [conversion, List.map_append, List.map_cons, Notice.map_announcement_tasksFrom,
    conversionTrace, List.length_map]
  rfl

/-- While a document is compiled, its tasks are announced, and completion if the records pass. -/
theorem announcements_ofDocument (environment : Environment) (document : Document) :
    (ofDocument environment document).announcements =
      readingTrace ++ conversionTrace (document.tasks.map (·.module)) ++
        [Announcement.examination] ++
        if Schema.passes (Schema.verifyRecords environment (document.records environment)) then
          [Announcement.completion]
        else [] := by
  have hsteps : (Event.notices ((opening ++ conversion document.tasks).map .notice ++
      (Schema.verifyRecords environment (document.records environment)).map .finding)).map
        Notice.announcement =
      readingTrace ++ conversionTrace (document.tasks.map (·.module)) ++
        [Announcement.examination] := by
    rw [Event.notices_append, Event.notices_map_notice, Event.notices_map_finding, List.append_nil,
      List.map_append, map_announcement_conversion, ← List.append_assoc]
    rfl
  simp only [ofDocument, Outcome.announcements]
  split
  · rw [Event.notices_append, List.map_append, hsteps]
    rfl
  · rw [hsteps, List.append_nil]

/-- The announcements of a compilation tell how it ends. -/
theorem tells_ofSheet (environment : Environment) (sheet : Text) :
    (Outline.ofText sheet).Tells (ofSheet environment sheet).result
      (ofSheet environment sheet).announcements := by
  by_cases hviolations : (Outline.ofText sheet).violations = []
  · obtain ⟨objective, items, hcomplete⟩ := Outline.violations_eq_nil_iff.mp hviolations
    have hdocument : ofSheet environment sheet =
        ofDocument environment ((Outline.ofText sheet).document objective items) := by
      rw [ofSheet, hcomplete.ofOutline]
    have hmodules : ((Outline.ofText sheet).document objective items).tasks.map (·.module) =
        (Outline.ofText sheet).blocks.map (·.module) := by
      rw [Outline.document, List.map_map]
      rfl
    rw [hdocument, announcements_ofDocument, hmodules]
    simp only [ofDocument]
    split
    · refine .compiled ?_
      rw [Document.records, List.length_map, Outline.document, List.length_map]
    · rw [List.append_nil]
      exact .rejected _
  · have hsheet : ofSheet environment sheet =
        ⟨opening.map .notice, .error (.malformed (Outline.ofText sheet).violations)⟩ := by
      rw [ofSheet, Outline.ofOutline_of_violations hviolations]
    rw [hsheet, Outcome.announcements, Event.notices_map_notice]
    exact .malformed _

end Compilation

/-! ## Order and completion -/

/-- The examination is the last stage. -/
theorem Stage.rank_le (stage : Stage) : stage.rank ≤ 4 := by
  cases stage with
  | load | extract | validate | compile | verifyOutput => decide

/-- Announcements that pass through the stages in their order. -/
def IsAscending (announcements : List Announcement) : Prop :=
  announcements.Pairwise fun one other => one.1.rank ≤ other.1.rank

/-- Whether announcements ascend is decided by comparing each two of them. -/
instance : DecidablePred IsAscending := fun announcements =>
  inferInstanceAs (Decidable (announcements.Pairwise fun one other => one.1.rank ≤ other.1.rank))

/-- Announcements of two parts ascend if some rank lies between the parts. -/
theorem IsAscending.append {first second : List Announcement} (rank : Nat)
    (hfirst : IsAscending first) (hsecond : IsAscending second)
    (hbefore : ∀ announced ∈ first, announced.1.rank ≤ rank)
    (hbehind : ∀ announced ∈ second, rank ≤ announced.1.rank) : IsAscending (first ++ second) :=
  List.pairwise_append.mpr ⟨hfirst, hsecond, fun one hone other hother =>
    (hbefore one hone).trans (hbehind other hother)⟩

/-- A conversion is announced under one stage. -/
theorem stage_of_mem_conversionTrace {modules : List Text} {announced : Announcement}
    (h : announced ∈ conversionTrace modules) : announced.1 = .compile := by
  rcases List.mem_cons.mp h with rfl | h
  · rfl
  · obtain ⟨entry, -, rfl⟩ := List.mem_map.mp h
    rfl

/-- The announcements of a conversion ascend. -/
theorem isAscending_conversionTrace (modules : List Text) :
    IsAscending (conversionTrace modules) :=
  List.pairwise_of_forall_mem_list fun one hone other hother => by
    rw [stage_of_mem_conversionTrace hone, stage_of_mem_conversionTrace hother]

namespace Outline.Tells

variable {outline : Outline} {result : Except Failure (List Record)}
  {announcements : List Announcement}

/-- Every compilation begins with reading. -/
theorem begins_with_readingTrace (h : outline.Tells result announcements) :
    readingTrace <+: announcements := by
  cases h with
  | malformed violations => exact List.prefix_rfl
  | rejected errors => exact ⟨_, (List.append_assoc _ _ _).symm⟩
  | compiled hlength => exact ⟨_, by rw [List.append_assoc, List.append_assoc]⟩

/-- The stages of a compilation never go backwards. -/
theorem isAscending (h : outline.Tells result announcements) : IsAscending announcements := by
  have hreading : IsAscending readingTrace := by decide
  have hconversion : ∀ modules : List Text,
      IsAscending (readingTrace ++ conversionTrace modules) := fun modules =>
    hreading.append 3 (isAscending_conversionTrace modules) (by decide) fun announced hannounced =>
      by rw [stage_of_mem_conversionTrace hannounced]; decide
  have hranks : ∀ modules : List Text, ∀ announced ∈ readingTrace ++ conversionTrace modules,
      announced.1.rank ≤ 4 := fun _ announced _ => announced.1.rank_le
  cases h with
  | malformed violations => exact hreading
  | rejected errors => exact (hconversion _).append 4 (by decide) (hranks _) (by decide)
  | compiled hlength =>
    rw [List.append_assoc]
    exact (hconversion _).append 4 (by decide) (hranks _) (by decide)

/-- Completion is announced with the records, and only with them. -/
theorem completion_mem_iff (h : outline.Tells result announcements) :
    Announcement.completion ∈ announcements ↔ ∃ records, result = .ok records := by
  have hreading : Announcement.completion ∉ readingTrace := by decide
  have hconversion : ∀ modules : List Text, Announcement.completion ∉ conversionTrace modules :=
    fun modules hmem => nomatch stage_of_mem_conversionTrace hmem
  have hexamination : Announcement.completion ∉ [Announcement.examination] := by decide
  cases h with
  | malformed violations => exact iff_of_false hreading fun hok => nomatch hok
  | rejected errors =>
    refine iff_of_false ?_ fun hok => nomatch hok
    exact List.not_mem_append (List.not_mem_append hreading (hconversion _)) hexamination
  | compiled hlength =>
    exact iff_of_true (List.mem_append_right _ (List.mem_singleton_self _)) ⟨_, rfl⟩

end Outline.Tells

/-! ## Runs on files -/

/-- The same outcome behind the announcement that a sheet is loaded. -/
def Outcome.afterLoading {α : Type} (outcome : Outcome α) : Outcome α :=
  ⟨.notice .loading :: outcome.events, outcome.result⟩

/-- Loading is announced first. -/
@[simp] theorem Outcome.announcements_afterLoading {α : Type} (outcome : Outcome α) :
    outcome.afterLoading.announcements =
      .loading :: outcome.announcements := rfl

namespace Workspace

/-- On a file that holds a sheet, the sheet is compiled. -/
theorem compile_of_holdsSheet {files : FileSystem} {path : Bytes} {sheet : Text}
    (h : files.HoldsSheet path sheet) (environment : Environment) :
    compile files environment path = (Compilation.ofSheet environment sheet).afterLoading :=
  onSheet_of_ok (load_eq_ok_iff.mpr h) _

/-- The outcome of a run that cannot load its sheet. -/
def unloaded (failure : Failure) : Outcome (List Record) := ⟨[.notice .loading], .error failure⟩

/-- Nothing is announced behind the loading if it fails. -/
@[simp] theorem announcements_unloaded (failure : Failure) :
    (unloaded failure).announcements = [.loading] := rfl

/-- Where there is no sheet, a run ends with a failure that is about the file. -/
theorem exists_compile_eq_unloaded {files : FileSystem} {path : Bytes}
    (h : ∀ sheet, ¬files.HoldsSheet path sheet) (environment : Environment) :
    ∃ failure, failure.isLoading = true ∧ compile files environment path = unloaded failure := by
  cases hload : load files path with
  | error failure => exact ⟨failure, isLoading_of_load hload, onSheet_of_error hload _⟩
  | ok sheet => exact absurd (load_eq_ok_iff.mp hload) (h sheet)

/-- A run that cannot load its sheet does not do what any compilation does. -/
theorem unloaded_ne_afterLoading (failure : Failure) (environment : Environment) (sheet : Text) :
    unloaded failure ≠ (Compilation.ofSheet environment sheet).afterLoading := by
  intro heq
  have hlength := congrArg (·.announcements.length) heq
  have hreading := (Compilation.tells_ofSheet environment sheet).begins_with_readingTrace.length_le
  have htwo : readingTrace.length = 2 := rfl
  simp only [announcements_unloaded, Outcome.announcements_afterLoading, List.length_cons,
    List.length_nil] at hlength
  omega

end Workspace

/-- **Progress tells the outcome.** A compilation announces that it reads, that it converts each
task, that it examines the records, and that it is complete, and it stops at the announcement that
belongs to its failure. The stages never go backwards, and completion is announced exactly on
success. A run on a file announces the loading first. Exactly if the file holds a sheet it goes on
like the compilation of this sheet; otherwise nothing more is announced. -/
theorem announcements_tell_outcome (environment : Environment) :
    (∀ sheet : Text,
      let outcome := Compilation.ofSheet environment sheet
      (Outline.ofText sheet).Tells outcome.result outcome.announcements ∧
        IsAscending outcome.announcements ∧
        (Announcement.completion ∈ outcome.announcements ↔
          ∃ records, outcome.result = .ok records)) ∧
    ∀ (files : FileSystem) (path : Bytes),
      let outcome := Workspace.compile files environment path
      outcome.announcements.head? = some .loading ∧
        IsAscending outcome.announcements ∧
        (Announcement.completion ∈ outcome.announcements ↔
          ∃ records, outcome.result = .ok records) ∧
        ((∃ sheet, files.HoldsSheet path sheet ∧
            outcome = (Compilation.ofSheet environment sheet).afterLoading) ∨
          (∀ sheet, ¬files.HoldsSheet path sheet) ∧
            (∀ sheet, outcome ≠ (Compilation.ofSheet environment sheet).afterLoading) ∧
            outcome.announcements = [.loading] ∧
            ∃ failure, outcome.result = .error failure ∧ failure.isLoading = true) := by
  refine ⟨fun sheet => ?_, fun files path => ?_⟩
  · have htells := Compilation.tells_ofSheet environment sheet
    exact ⟨htells, htells.isAscending, htells.completion_mem_iff⟩
  · have hloading : Announcement.completion ≠ .loading := by decide
    dsimp only
    by_cases hholds : ∃ sheet, files.HoldsSheet path sheet
    · obtain ⟨sheet, hsheet⟩ := hholds
      have htells := Compilation.tells_ofSheet environment sheet
      rw [Workspace.compile_of_holdsSheet hsheet environment, Outcome.announcements_afterLoading]
      refine ⟨rfl, ?_, ?_, .inl ⟨sheet, hsheet, rfl⟩⟩
      · exact List.pairwise_cons.mpr ⟨fun _ _ => Nat.zero_le _, htells.isAscending⟩
      · rw [List.mem_cons, or_iff_right hloading]
        exact htells.completion_mem_iff
    · have hnone := not_exists.mp hholds
      obtain ⟨failure, hfailure, hcompile⟩ :=
        Workspace.exists_compile_eq_unloaded hnone environment
      rw [hcompile, Workspace.announcements_unloaded]
      refine ⟨rfl, List.pairwise_singleton _ _, ?_, .inr ⟨hnone, ?_, rfl, failure, rfl, hfailure⟩⟩
      · exact iff_of_false (mt List.mem_singleton.mp hloading) fun ⟨_, hok⟩ => nomatch hok
      · exact Workspace.unloaded_ne_afterLoading failure environment

end TaskSheet
