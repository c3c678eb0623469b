import TaskSheet.Proofs.SchemaRules
import Mathlib.Data.List.Forall2
import Mathlib.Data.List.Pairwise

/-!
# Verdicts on task lists

A record without fault is told what it lacks of the things that the agent expects. What is
to be found in a record is therefore its first fault or all its gaps. An examination finds
just this in every record of a list, under the number of the record, and a list is accepted
when every record is as it should be.
-/

namespace TaskSheet.Schema

/-! ## Gaps -/

/-- Everything that the agent expects but can do without, in the order of the reports. -/
def expectations : List Gap :=
  [.workingDirectory, .activation, .header "TASK TYPE:", .header "TASK ID:",
    .header "CURRENT SUBTASK:", .timeout]

/-- Whether a record with this command and these arguments leaves the gap. -/
def Leaves (environment : Environment) (arguments : List (Text × Json)) (command : Text) :
    Gap → Prop
  | .workingDirectory => ¬ environment.cdCommand <:+: command
  | .activation => ¬ environment.activate <:+: command
  | .header mark => ¬ mark <:+: command
  | .timeout => arguments.lookup ("timeout_ms" : Text) = none

instance (environment : Environment) (arguments : List (Text × Json)) (command : Text) :
    DecidablePred (Leaves environment arguments command)
  | .workingDirectory => inferInstanceAs (Decidable (¬ environment.cdCommand <:+: command))
  | .activation => inferInstanceAs (Decidable (¬ environment.activate <:+: command))
  | .header mark => inferInstanceAs (Decidable (¬ mark <:+: command))
  | .timeout => inferInstanceAs (Decidable (arguments.lookup ("timeout_ms" : Text) = none))

section Gaps

variable (environment : Environment) (arguments : List (Text × Json)) (command : Text)

/-- One expectation is reported unless it is met. -/
theorem ite_eq_filter_singleton {gap : Gap} {met : Bool}
    (h : met = true ↔ ¬ Leaves environment arguments command gap) :
    (if met then [] else [gap]) = [gap].filter (Leaves environment arguments command ·) := by
  by_cases hmet : met = true
  · rw [if_pos hmet, List.filter_cons_of_neg (by simpa using h.mp hmet), List.filter_nil]
  · have hleaves : Leaves environment arguments command gap := not_not.mp fun hnot =>
      hmet (h.mpr hnot)
    rw [if_neg hmet, List.filter_cons_of_pos (by simpa using hleaves), List.filter_nil]

/-- The headers that are missing in the command are reported. -/
theorem map_filter_headers :
    (Prompt.headers.filter fun mark => !Text.contains mark command).map Gap.header =
      (Prompt.headers.map Gap.header).filter (Leaves environment arguments command ·) := by
  have htest (mark : Text) : (!Text.contains mark command) =
      decide (Leaves environment arguments command (.header mark)) := by
    rw [Bool.eq_iff_iff, Bool.not_eq_true', decide_eq_true_iff, Leaves,
      ← Text.contains_iff_infix, Bool.not_eq_true]
  rw [List.filter_map]
  congr 1
  exact List.filter_congr fun mark _ => htest mark

/-- The gaps of a record are the expectations that it leaves open. -/
theorem gaps_eq : gaps environment command arguments =
    expectations.filter (Leaves environment arguments command ·) := by
  have hparts : expectations =
      [Gap.workingDirectory] ++ [Gap.activation] ++ Prompt.headers.map .header ++ [Gap.timeout] :=
    rfl
  rw [hparts, List.filter_append, List.filter_append, List.filter_append, gaps,
    map_filter_headers environment arguments]
  congr 1
  · congr 1
    congr 1
    · apply ite_eq_filter_singleton
      rw [Text.contains_iff_infix, Leaves, not_not]
    · apply ite_eq_filter_singleton
      rw [Text.contains_iff_infix, Leaves, not_not]
  · apply ite_eq_filter_singleton
    rw [Leaves, ← ne_eq, Option.ne_none_iff_isSome]
    rfl

end Gaps

/-! ## What is to be found in a record -/

/-- What is to be found in the record with the given number: its first fault alone, or all
its gaps if it has no fault. -/
inductive Judged (environment : Environment) (number : Nat) (record : Json) :
    List Finding → Prop
  /-- A record with faults. -/
  | faulty {fault : Fault} (h : FirstFault record fault) :
    Judged environment number record [.fault number fault]
  /-- A record without fault. -/
  | sound {arguments : List (Text × Json)} {command : Text}
    (h : Conforms record arguments command) :
    Judged environment number record
      ((expectations.filter (Leaves environment arguments command ·)).map (.gap number))

/-- An examination finds what is to be found. -/
theorem judged_examine (environment : Environment) (number : Nat) (record : Json) :
    Judged environment number record (examine environment number record) := by
  cases h : inspect record with
  | error fault =>
    rw [examine, h]
    exact .faulty (firstFault_of_inspect h)
  | ok found =>
    have heq : examine environment number record =
        (gaps environment found.1 found.2).map (.gap number) := by rw [examine, h]
    rw [heq, gaps_eq]
    exact .sound (conforms_of_inspect h)

/-- Nothing that is found in a record is an error exactly when the record is as it should
be. -/
theorem Judged.no_error_iff {environment : Environment} {number : Nat} {record : Json}
    {findings : List Finding} (h : Judged environment number record findings) :
    (∀ finding ∈ findings, finding.isError = false) ↔
      ∃ arguments command, Conforms record arguments command := by
  cases h with
  | faulty hfault =>
    constructor
    · intro hnone
      exact nomatch hnone _ List.mem_cons_self
    · rintro ⟨arguments, command, hconforms⟩
      exact absurd hfault.shown (hconforms.not_shows _)
  | sound hconforms =>
    refine ⟨fun _ => ⟨_, _, hconforms⟩, fun _ finding hfinding => ?_⟩
    obtain ⟨gap, -, rfl⟩ := List.mem_map.mp hfinding
    rfl

/-- Whatever is found in a record bears its number. -/
theorem Judged.record?_eq {environment : Environment} {number : Nat} {record : Json}
    {findings : List Finding} (h : Judged environment number record findings) :
    ∀ finding ∈ findings, finding.record? = some number := by
  intro finding hfinding
  cases h with
  | faulty =>
    obtain rfl := List.mem_singleton.mp hfinding
    rfl
  | sound =>
    obtain ⟨gap, -, rfl⟩ := List.mem_map.mp hfinding
    rfl

/-! ## The examination of a list -/

section Lists

variable (environment : Environment)

/-- The records of a list are examined one by one, with their numbers. -/
theorem examineFrom_eq_flatten (number : Nat) (records : List Json) :
    examineFrom environment number records =
      ((records.zipIdx number).map fun record =>
        examine environment record.2 record.1).flatten := by
  induction records generalizing number with
  | nil => rfl
  | cons record records ih =>
    rw [examineFrom, ih (number + 1), List.zipIdx_cons, List.map_cons, List.flatten_cons]

/-- What is found in a list falls into what is to be found in each record. -/
theorem judged_examineFrom (number : Nat) (records : List Json) :
    ∃ parts, examineFrom environment number records = parts.flatten ∧
      List.Forall₂ (fun record part => Judged environment record.2 record.1 part)
        (records.zipIdx number) parts := by
  refine ⟨_, examineFrom_eq_flatten environment number records, ?_⟩
  rw [List.forall₂_map_right_iff, List.forall₂_same]
  exact fun record _ => judged_examine environment record.2 record.1

/-- Nothing that is found in a list is an error exactly when every record is as it should
be. -/
theorem examineFrom_no_error_iff (number : Nat) (records : List Json) :
    (∀ finding ∈ examineFrom environment number records, finding.isError = false) ↔
      ∀ record ∈ records, ∃ arguments command, Conforms record arguments command := by
  induction records generalizing number with
  | nil => simp [examineFrom]
  | cons record records ih =>
    rw [examineFrom, List.forall_mem_append, List.forall_mem_cons, ih (number + 1),
      (judged_examine environment number record).no_error_iff]

/-- Whatever is found in a list bears a number from that of its first record on. -/
theorem le_record?_of_mem_examineFrom {number : Nat} {records : List Json} {finding : Finding}
    (h : finding ∈ examineFrom environment number records) :
    ∀ n, finding.record? = some n → number ≤ n := by
  induction records generalizing number with
  | nil => exact absurd h List.not_mem_nil
  | cons record records ih =>
    intro n hn
    rw [examineFrom, List.mem_append] at h
    obtain hhere | hlater := h
    · have hnumber := (judged_examine environment number record).record?_eq finding hhere
      exact Nat.le_of_eq (Option.some.inj (hnumber.symm.trans hn))
    · exact Nat.le_of_succ_le (ih hlater n hn)

/-- The findings of a list are in the order of the records. -/
theorem pairwise_examineFrom (number : Nat) (records : List Json) :
    (examineFrom environment number records).Pairwise fun one other =>
      ∀ m, one.record? = some m → ∀ n, other.record? = some n → m ≤ n := by
  induction records generalizing number with
  | nil => exact .nil
  | cons record records ih =>
    have hsame := (judged_examine environment number record).record?_eq
    rw [examineFrom, List.pairwise_append]
    refine ⟨?_, ih (number + 1), ?_⟩
    · refine List.pairwise_of_forall_mem_list fun one hone other hother m hm n hn => ?_
      rw [hsame one hone] at hm
      rw [hsame other hother] at hn
      exact Nat.le_of_eq (Option.some.inj (hm.symm.trans hn))
    · intro one hone other hother m hm n hn
      have hlater := le_record?_of_mem_examineFrom environment hother n hn
      rw [hsame one hone] at hm
      obtain rfl := Option.some.inj hm
      omega

/-- An array with records is examined from its first record on. -/
theorem verify_array_of_ne_nil {records : List Json} (h : records ≠ []) :
    verify environment (.array records) = examineFrom environment 1 records := by
  cases records with
  | nil => exact absurd rfl h
  | cons record records => rfl

/-- A value that is no array has one finding. -/
theorem verify_of_not_array {value : Json} (h : ∀ records, value ≠ .array records) :
    verify environment value = [.notList] := by
  cases value with
  | array records => exact absurd rfl (h records)
  | _ => rfl

/-- Exactly the arrays of records as they should be are accepted. -/
theorem passes_verify_iff (value : Json) :
    passes (verify environment value) = true ↔
      ∃ records, value = .array records ∧
        ∀ record ∈ records, ∃ arguments command, Conforms record arguments command := by
  by_cases harray : ∃ records, value = .array records
  · obtain ⟨records, rfl⟩ := harray
    simp only [Json.array.injEq, exists_eq_left']
    by_cases hrecords : records = []
    · subst hrecords
      exact ⟨fun _ record hrecord => absurd hrecord List.not_mem_nil, fun _ => rfl⟩
    · rw [verify_array_of_ne_nil environment hrecords, ← examineFrom_no_error_iff environment 1,
        passes, List.all_eq_true]
      simp only [Bool.not_eq_true']
  · rw [verify_of_not_array environment (not_exists.mp harray)]
    constructor
    · intro hpasses
      exact nomatch hpasses
    · rintro ⟨records, hvalue, -⟩
      exact absurd ⟨records, hvalue⟩ harray

/-- The numbers of the findings ascend. -/
theorem pairwise_record?_verify (value : Json) :
    ((verify environment value).filterMap (·.record?)).Pairwise (· ≤ ·) := by
  unfold verify
  split
  case h_1 => exact .nil
  case h_2 records _ =>
    exact List.pairwise_filterMap.mpr (pairwise_examineFrom environment 1 records)
  case h_3 => exact .nil

end Lists

/-- Exactly the arrays of records as they should be are accepted. The findings are in the
order of the records, and each record contributes what the rules say of it, whatever stands
before it. A value that is no array has one error, an empty array one warning, and neither
is about a record. -/
theorem verify_follows_rules (environment : Environment) (value : Json) :
    (passes (verify environment value) = true ↔
      ∃ records, value = .array records ∧
        ∀ record ∈ records, ∃ arguments command, Conforms record arguments command) ∧
    ((verify environment value).filterMap (·.record?)).Pairwise (· ≤ ·) ∧
    ((∀ records, value ≠ .array records) ∧ verify environment value = [.notList] ∧
        Finding.notList.isError = true ∧ Finding.notList.record? = none ∨
      value = .array [] ∧ verify environment value = [.emptyList] ∧
        Finding.emptyList.isError = false ∧ Finding.emptyList.record? = none ∨
      ∃ records, records ≠ [] ∧ value = .array records ∧
        ∃ parts, verify environment value = parts.flatten ∧
          List.Forall₂ (fun record part => Judged environment record.2 record.1 part)
            (records.zipIdx 1) parts) := by
  refine ⟨passes_verify_iff environment value, pairwise_record?_verify environment value, ?_⟩
  by_cases harray : ∃ records, value = .array records
  · obtain ⟨records, rfl⟩ := harray
    by_cases hrecords : records = []
    · subst hrecords
      exact .inr (.inl ⟨rfl, rfl, rfl, rfl⟩)
    · rw [verify_array_of_ne_nil environment hrecords]
      exact .inr (.inr ⟨records, hrecords, rfl, judged_examineFrom environment 1 records⟩)
  · have hnone := not_exists.mp harray
    exact .inl ⟨hnone, verify_of_not_array environment hnone, rfl, rfl⟩

end TaskSheet.Schema
