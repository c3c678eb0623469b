import TaskSheet.Proofs.Openings

/-!
# Runs of steps

A run of steps does not depend on what stands behind it, and it ends where no further step
can be reached through blank lines. So the search for runs can be taken up again behind each
run as if nothing stood before it.
-/

namespace TaskSheet

/-- A blank line is no open box. -/
theorem isOpenBox_of_isAllBlank {line : Text} (h : Text.isAllBlank line = true) :
    isOpenBox line = false := by
  by_contra hbox
  obtain ⟨blank, rest, -, rfl⟩ := isOpenBox_iff.mp (by simpa using hbox)
  have hdash : '-' ∈ openBox := by decide
  have hmem : '-' ∈ blank ++ openBox ++ rest := by simp [hdash]
  exact absurd (Text.isAllBlank_iff.mp h _ hmem) (by decide)

/-- An entry is not blank. -/
theorem entryModule?_of_isAllBlank {line : Text} (h : Text.isAllBlank line = true) :
    entryModule? line = none := by
  simp [entryModule?, isOpenBox_of_isAllBlank h]

/-- A step is not blank. -/
theorem stepText?_of_isAllBlank {line : Text} (h : Text.isAllBlank line = true) (least : Nat) :
    stepText? least line = none := by
  simp [stepText?, isOpenBox_of_isAllBlank h]

namespace Outline

/-- There is no run exactly if the first visible line is no step. -/
theorem stepRun_cons_eq_nil_iff {least : Nat} {line : Text} {lines : List Text} :
    stepRun least (line :: lines) = [] ↔
      stepText? least line = none ∧ (Text.isAllBlank line = true → stepRun least lines = []) := by
  rw [stepRun]
  cases hstep : stepText? least line with
  | some text => simp
  | none =>
    by_cases hblank : Text.isAllBlank line = true
    · cases hrun : stepRun least lines <;> simp [hblank]
    · simp [hblank]

/-- The first line that is not blank. -/
def firstVisible? (lines : List Text) : Option Text :=
  lines.find? fun line => !Text.isAllBlank line

/-- There is no run exactly if there is no visible line or the first one is no step. -/
theorem stepRun_eq_nil_iff {least : Nat} {lines : List Text} :
    stepRun least lines = [] ↔
      ∀ line, firstVisible? lines = some line → stepText? least line = none := by
  induction lines with
  | nil => simp [stepRun, firstVisible?]
  | cons first lines ih =>
    rw [stepRun_cons_eq_nil_iff, ih, firstVisible?, firstVisible?]
    by_cases hblank : Text.isAllBlank first = true
    · simp [hblank, stepText?_of_isAllBlank hblank]
    · simp [hblank]

/-- A run ends visibly, with a step. -/
theorem visible_of_getLast?_stepRun {least : Nat} {lines : List Text} {line : Text}
    (h : (stepRun least lines).getLast? = some line) : Text.isAllBlank line = false := by
  induction lines with
  | nil => simp [stepRun] at h
  | cons first lines ih =>
    rw [stepRun] at h
    cases hrun : stepRun least lines with
    | nil =>
      split at h
      · rename_i hstep
        rw [hrun, List.getLast?_singleton] at h
        obtain rfl := Option.some.inj h
        by_contra hblank
        simp [stepText?_of_isAllBlank (by simpa using hblank)] at hstep
      · simp [hrun] at h
    | cons next run =>
      -- Whether the first line is a step or blank, the run ends like the one below it.
      rw [hrun] at h ih
      split at h
      · exact ih (by simpa using h)
      · split at h
        · exact ih (by simpa using h)
        · simp at h

/-- Lines are a run if every visible one of them is a step, the last one is visible, and no
further run follows. -/
theorem stepRun_append_eq_left {least : Nat} {run rest : List Text}
    (hsteps : ∀ line ∈ run, Text.isAllBlank line = false → (stepText? least line).isSome = true)
    (hlast : ∀ line, run.getLast? = some line → Text.isAllBlank line = false)
    (hrest : stepRun least rest = []) : stepRun least (run ++ rest) = run := by
  induction run with
  | nil => exact hrest
  | cons line run ih =>
    rw [List.forall_mem_cons] at hsteps
    cases run with
    | nil => rw [List.singleton_append, stepRun_step (hsteps.1 (hlast line rfl)), hrest]
    | cons next run =>
      have ih := ih hsteps.2 (by simpa using hlast)
      by_cases hblank : Text.isAllBlank line = true
      · rw [List.cons_append, stepRun, if_neg (by simp [stepText?_of_isAllBlank hblank]),
          if_pos hblank, ih]
      · rw [List.cons_append, stepRun_step (hsteps.1 (by simpa using hblank)), ih]

/-- Every line of a run is a step or blank. -/
theorem step_or_blank_of_mem_stepRun {least : Nat} {lines : List Text} {line : Text}
    (h : line ∈ stepRun least lines) :
    (stepText? least line).isSome = true ∨ Text.isAllBlank line = true := by
  induction lines with
  | nil => simp [stepRun] at h
  | cons first lines ih =>
    rw [stepRun] at h
    split at h
    · rename_i hstep
      rcases List.mem_cons.mp h with rfl | h
      · exact Or.inl hstep
      · exact ih h
    · split at h
      · rename_i hblank
        cases hrun : stepRun least lines with
        | nil => simp [hrun] at h
        | cons next run =>
          rw [hrun] at h ih
          rcases List.mem_cons.mp h with rfl | h
          · exact Or.inr hblank
          · exact ih h
      · simp at h

/-- A run is found again whatever stands behind it, and the search goes on there. -/
theorem stepRun_stepRun_append (least : Nat) (lines rest : List Text) :
    stepRun least (stepRun least lines ++ rest) =
      stepRun least lines ++ stepRun least rest := by
  induction lines with
  | nil => rfl
  | cons line lines ih =>
    by_cases hstep : (stepText? least line).isSome = true
    · rw [stepRun_step hstep, List.cons_append, stepRun_step hstep, ih, List.cons_append]
    · by_cases hblank : Text.isAllBlank line = true
      · rw [stepRun, if_neg hstep, if_pos hblank]
        cases hrun : stepRun least lines with
        | nil => rfl
        | cons first run =>
          rw [hrun, List.cons_append] at ih
          rw [List.cons_append, List.cons_append, stepRun, if_neg hstep, if_pos hblank, ih]
          rfl
      · rw [stepRun, if_neg hstep, if_neg hblank]
        rfl

/-- Behind a run there is no further run. -/
theorem stepRun_drop (least : Nat) (lines : List Text) :
    stepRun least (lines.drop (stepRun least lines).length) = [] := by
  obtain ⟨rest, hrest⟩ := stepRun_prefix least lines
  have hdrop : lines.drop (stepRun least lines).length = rest := by
    nth_rewrite 2 [← hrest]
    exact List.drop_left
  have hsplit := stepRun_stepRun_append least lines rest
  rw [hrest] at hsplit
  rw [hdrop]
  exact List.self_eq_append_right.mp hsplit

end Outline

end TaskSheet
