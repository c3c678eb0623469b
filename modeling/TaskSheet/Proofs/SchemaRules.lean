import TaskSheet.Schema
import TaskSheet.Proofs.Walks
import Mathlib.Logic.Basic

/-!
# The rules of the schema

The schema is stated here as rules about the values that paths of keys lead to, one rule
a fault, with the order in which the rules are applied. An examination is a sequence of
checks, each of which settles the next few rules. Together they settle all of them: what
an examination reports is the first broken rule, and it succeeds only where none is broken.
-/

namespace TaskSheet

/-- The value that a path of keys leads to. There is none where a key is missing on the
way or a value on the way is no object. -/
def Json.valueAt? : (path : List Text) → Json → Option Json
  | [], value => some value
  | key :: path, .object members => (members.lookup key).bind (Json.valueAt? path)
  | _ :: _, _ => none

namespace Schema

/-- The place of a fault in the order in which the rules are applied. -/
def Fault.rank : Fault → Nat
  | notObject => 1
  | missingTool => 2
  | wrongTool _ => 3
  | missingArguments => 4
  | wrongArguments _ => 5
  | missingCommand => 6
  | wrongCommand _ => 7
  | placeholder => 8
  | missingPermission => 9
  | wrongPermission _ => 10

/-- Whether a record breaks the rule that is reported as the fault. -/
def Shows (record : Json) : Fault → Prop
  | .notObject => ∀ members, record ≠ .object members
  | .missingTool => record.valueAt? ["tool"] = none
  | .wrongTool found =>
    record.valueAt? ["tool"] = some found ∧ found ≠ .string "claude_code"
  | .missingArguments => record.valueAt? ["arguments"] = none
  | .wrongArguments found =>
    record.valueAt? ["arguments"] = some found ∧ ∀ members, found ≠ .object members
  | .missingCommand => record.valueAt? ["arguments", "command"] = none
  | .wrongCommand found =>
    record.valueAt? ["arguments", "command"] = some found ∧ ∀ command, found ≠ .string command
  | .placeholder =>
    ∃ command : Text, record.valueAt? ["arguments", "command"] = some (.string command) ∧
      ("/path/to/" : Text) <:+: command
  | .missingPermission =>
    record.valueAt? ["arguments", "dangerously_skip_permissions"] = none
  | .wrongPermission found =>
    record.valueAt? ["arguments", "dangerously_skip_permissions"] = some found ∧
      found ≠ .bool true

/-- A fault of a record before which there is no other. -/
structure FirstFault (record : Json) (fault : Fault) : Prop where
  /-- The record has the fault. -/
  shown : Shows record fault
  /-- It has none that comes earlier. -/
  first : ∀ other : Fault, other.rank < fault.rank → ¬ Shows record other

/-- A record as the agent accepts it, with these arguments and this command among them. -/
structure Conforms (record : Json) (arguments : List (Text × Json)) (command : Text) : Prop where
  /-- The tool is the right one. -/
  tool_eq : record.valueAt? ["tool"] = some (.string "claude_code")
  /-- The arguments are an object. -/
  arguments_eq : record.valueAt? ["arguments"] = some (.object arguments)
  /-- The command is a string. -/
  command_eq : record.valueAt? ["arguments", "command"] = some (.string command)
  /-- No path was left open in it. -/
  command_filled : ¬ ("/path/to/" : Text) <:+: command
  /-- The permission is granted. -/
  permission_eq :
    record.valueAt? ["arguments", "dangerously_skip_permissions"] = some (.bool true)

/-! ## Paths in objects -/

/-- A path of one key leads to the member with that key. -/
theorem valueAt?_object_singleton (members : List (Text × Json)) (key : Text) :
    (Json.object members).valueAt? [key] = members.lookup key := Option.bind_fun_some _

/-- A longer path goes on from the member with its first key. -/
theorem valueAt?_object_cons {members : List (Text × Json)} {key : Text} {value : Json}
    (h : members.lookup key = some value) (path : List Text) :
    (Json.object members).valueAt? (key :: path) = value.valueAt? path := by
  rw [Json.valueAt?, h, Option.bind_some]

/-- A path of two keys leads to a member of a member. -/
theorem valueAt?_object_pair {members inner : List (Text × Json)} {key : Text}
    (h : members.lookup key = some (.object inner)) (innerKey : Text) :
    (Json.object members).valueAt? [key, innerKey] = inner.lookup innerKey := by
  rw [valueAt?_object_cons h, valueAt?_object_singleton]

/-! ## What a check settles -/

/-- What the outcome of a check says about the faults with ranks above `low` up to `high`:
a failure is the first of them, and a success excludes them all. -/
def Settles {α : Type} (record : Json) (low high : Nat) : Except Fault α → Prop
  | .error fault => low < fault.rank ∧ Shows record fault ∧
      ∀ other : Fault, low < other.rank → other.rank < fault.rank → ¬ Shows record other
  | .ok _ => ∀ other : Fault, low < other.rank → other.rank ≤ high → ¬ Shows record other

/-- Faults that are known to be absent can be added to those that a check settles. -/
theorem Settles.of_clear {α : Type} {record : Json} {low mid high : Nat}
    {check : Except Fault α} (hle : low ≤ mid)
    (hclear : ∀ other : Fault, low < other.rank → other.rank ≤ mid → ¬ Shows record other)
    (hcheck : Settles record mid high check) : Settles record low high check := by
  cases check with
  | error fault =>
    obtain ⟨hrank, hshown, hfirst⟩ := hcheck
    refine ⟨by omega, hshown, fun other hlow hother => ?_⟩
    by_cases hmid : other.rank ≤ mid
    · exact hclear other hlow hmid
    · exact hfirst other (by omega) hother
  | ok a =>
    intro other hlow hhigh
    by_cases hmid : other.rank ≤ mid
    · exact hclear other hlow hmid
    · exact hcheck other (by omega) hhigh

/-- Checks made one after the other settle what they settle together. -/
theorem Settles.bind {α β : Type} {record : Json} {low mid high : Nat} {check : Except Fault α}
    {next : α → Except Fault β} (hle : low ≤ mid) (hcheck : Settles record low mid check)
    (hnext : ∀ a, check = .ok a → Settles record mid high (next a)) :
    Settles record low high (check >>= next) := by
  cases check with
  | error fault => exact hcheck
  | ok a => exact (hnext a rfl).of_clear hle hcheck

/-- Two rules that follow each other at the ranks after `low`: a path leads to a value, and
this is not a bad one. Breaking them is reported as `missing` and as `wrong`. -/
structure Required (record : Json) (low : Nat) (path : List Text) (Bad : Json → Prop)
    (missing : Fault) (wrong : Json → Fault) : Prop where
  /-- No other fault has one of the two ranks. -/
  complete : ∀ other : Fault, low < other.rank → other.rank ≤ low + 2 →
    other = missing ∨ ∃ found, other = wrong found
  /-- That there is a value is the first rule. -/
  rank_missing : missing.rank = low + 1
  /-- That the value is not bad is the second rule. -/
  rank_wrong : ∀ found, (wrong found).rank = low + 2
  /-- When the first rule is broken. -/
  shows_missing : Shows record missing ↔ record.valueAt? path = none
  /-- When the second rule is broken. -/
  shows_wrong : ∀ found, Shows record (wrong found) ↔ record.valueAt? path = some found ∧ Bad found

/-- A check that fails exactly where there is no value or a bad one settles both rules. -/
theorem Required.settles {α : Type} {record : Json} {low : Nat} {path : List Text}
    {Bad : Json → Prop} {missing : Fault} {wrong : Json → Fault}
    (hrules : Required record low path Bad missing wrong) {value : Option Json}
    (hpath : record.valueAt? path = value) {check : Except Fault α}
    (hnone : value = none → check = .error missing)
    (hbad : ∀ found, value = some found → Bad found → check = .error (wrong found))
    (hgood : ∀ found, value = some found → ¬ Bad found → ∃ a, check = .ok a) :
    Settles record low (low + 2) check := by
  cases value with
  | none =>
    rw [hnone rfl]
    refine ⟨by rw [hrules.rank_missing]; omega, hrules.shows_missing.mpr hpath, ?_⟩
    intro other hlow hother
    rw [hrules.rank_missing] at hother
    omega
  | some found =>
    have hthere : ¬ Shows record missing := by
      rw [hrules.shows_missing, hpath]
      simp
    by_cases h : Bad found
    · rw [hbad found rfl h]
      refine ⟨by rw [hrules.rank_wrong]; omega, (hrules.shows_wrong found).mpr ⟨hpath, h⟩, ?_⟩
      intro other hlow hother
      rw [hrules.rank_wrong] at hother
      obtain rfl | ⟨other, rfl⟩ := hrules.complete other hlow (by omega)
      · exact hthere
      · rw [hrules.rank_wrong] at hother
        omega
    · obtain ⟨a, ha⟩ := hgood found rfl h
      rw [ha]
      intro other hlow hhigh
      obtain rfl | ⟨other, rfl⟩ := hrules.complete other hlow hhigh
      · exact hthere
      · rw [hrules.shows_wrong, hpath]
        rintro ⟨hother, hnot⟩
        exact h (Option.some.inj hother ▸ hnot)

/-! ## The four required values -/

section Required

variable (record : Json)

/-- The tool is required. -/
theorem required_tool :
    Required record 1 ["tool"] (· ≠ .string "claude_code") .missingTool .wrongTool where
  complete other hlow hhigh := by
    cases other with
    | missingTool => exact .inl rfl
    | wrongTool found => exact .inr ⟨found, rfl⟩
    | _ => simp [Fault.rank] at hlow hhigh
  rank_missing := rfl
  rank_wrong _ := rfl
  shows_missing := Iff.rfl
  shows_wrong _ := Iff.rfl

/-- The arguments are required. -/
theorem required_arguments :
    Required record 3 ["arguments"] (∀ members, · ≠ .object members)
      .missingArguments .wrongArguments where
  complete other hlow hhigh := by
    cases other with
    | missingArguments => exact .inl rfl
    | wrongArguments found => exact .inr ⟨found, rfl⟩
    | _ => simp [Fault.rank] at hlow hhigh
  rank_missing := rfl
  rank_wrong _ := rfl
  shows_missing := Iff.rfl
  shows_wrong _ := Iff.rfl

/-- The command is required. -/
theorem required_command :
    Required record 5 ["arguments", "command"] (∀ command, · ≠ .string command)
      .missingCommand .wrongCommand where
  complete other hlow hhigh := by
    cases other with
    | missingCommand => exact .inl rfl
    | wrongCommand found => exact .inr ⟨found, rfl⟩
    | _ => simp [Fault.rank] at hlow hhigh
  rank_missing := rfl
  rank_wrong _ := rfl
  shows_missing := Iff.rfl
  shows_wrong _ := Iff.rfl

/-- The permission is required. -/
theorem required_permission :
    Required record 8 ["arguments", "dangerously_skip_permissions"] (· ≠ .bool true)
      .missingPermission .wrongPermission where
  complete other hlow hhigh := by
    cases other with
    | missingPermission => exact .inl rfl
    | wrongPermission found => exact .inr ⟨found, rfl⟩
    | _ => simp [Fault.rank] at hlow hhigh
  rank_missing := rfl
  rank_wrong _ := rfl
  shows_missing := Iff.rfl
  shows_wrong _ := Iff.rfl

end Required

/-! ## The checks of an examination -/

section Checks

variable {members arguments : List (Text × Json)}

/-- The check of the tool settles the rules about it. -/
theorem settles_checkTool : Settles (.object members) 1 3 (checkTool members) := by
  apply (required_tool _).settles (valueAt?_object_singleton members Record.toolKey)
  · intro h
    simp only [checkTool, h]
  · intro found h hbad
    cases found with
    | string tool =>
      have htool : tool ≠ Record.toolName := fun heq => hbad (congrArg Json.string heq)
      simp only [checkTool, h, if_neg htool]
    | _ => simp only [checkTool, h]
  · intro found h hgood
    rw [not_not] at hgood
    subst hgood
    exact ⟨(), by simp only [checkTool, h]; exact if_pos rfl⟩

/-- The tool that was checked is the right one. -/
theorem lookup_of_checkTool (h : checkTool members = .ok ()) :
    members.lookup Record.toolKey = some (.string Record.toolName) := by
  unfold checkTool at h
  split at h
  case h_1 => cases h
  case h_2 tool hlookup =>
    split at h
    case isTrue heq => rw [hlookup, heq]
    case isFalse => cases h
  case h_3 => cases h

/-- The search for the arguments settles the rules about them as such. -/
theorem settles_findArguments : Settles (.object members) 3 5 (findArguments members) := by
  apply (required_arguments _).settles (valueAt?_object_singleton members Record.argumentsKey)
  · intro h
    simp only [findArguments, h]
  · intro found h hbad
    cases found with
    | object inner => exact absurd rfl (hbad inner)
    | _ => simp only [findArguments, h]
  · intro found h hgood
    obtain ⟨inner, rfl⟩ := not_forall_not.mp hgood
    exact ⟨inner, by simp only [findArguments, h]⟩

/-- The arguments that are found are a member of the record. -/
theorem lookup_of_findArguments (h : findArguments members = .ok arguments) :
    members.lookup Record.argumentsKey = some (.object arguments) := by
  unfold findArguments at h
  split at h
  case h_1 => cases h
  case h_2 inner hlookup =>
    cases h
    exact hlookup
  case h_3 => cases h

/-- The command without regard to what it contains. -/
def findString (arguments : List (Text × Json)) : Except Fault Text :=
  match arguments.lookup Record.commandKey with
  | none => .error .missingCommand
  | some (.string command) => .ok command
  | some other => .error (.wrongCommand other)

/-- A command that contains the placeholder is refused. -/
def refusePlaceholder (command : Text) : Except Fault Text :=
  if Text.contains placeholderPath command then .error .placeholder else .ok command

/-- The search for the command has these two parts. -/
theorem findCommand_eq : findCommand arguments = findString arguments >>= refusePlaceholder := by
  cases h : arguments.lookup Record.commandKey with
  | none =>
    simp only [findCommand, findString, h]
    rfl
  | some found =>
    cases found with
    | _ =>
      simp only [findCommand, findString, h]
      rfl

/-- The first part of the search for the command settles the rules about its form. -/
theorem settles_findString
    (harguments : members.lookup Record.argumentsKey = some (.object arguments)) :
    Settles (.object members) 5 7 (findString arguments) := by
  apply (required_command _).settles (valueAt?_object_pair harguments Record.commandKey)
  · intro h
    simp only [findString, h]
  · intro found h hbad
    cases found with
    | string command => exact absurd rfl (hbad command)
    | _ => simp only [findString, h]
  · intro found h hgood
    obtain ⟨command, rfl⟩ := not_forall_not.mp hgood
    exact ⟨command, by simp only [findString, h]⟩

/-- The command of the first part is a string among the arguments. -/
theorem lookup_of_findString {command : Text} (h : findString arguments = .ok command) :
    arguments.lookup Record.commandKey = some (.string command) := by
  unfold findString at h
  split at h
  case h_1 => cases h
  case h_2 found hlookup =>
    cases h
    exact hlookup
  case h_3 => cases h

/-- The second part lets exactly the commands without the placeholder through. -/
theorem refusePlaceholder_eq_ok_iff {command result : Text} :
    refusePlaceholder command = .ok result ↔
      command = result ∧ ¬ ("/path/to/" : Text) <:+: command := by
  rw [refusePlaceholder, ← Text.contains_iff_infix]
  by_cases h : Text.contains placeholderPath command = true
  · rw [if_pos h]
    exact ⟨fun heq => (nomatch heq), fun heq => absurd h heq.2⟩
  · rw [if_neg h]
    exact ⟨fun heq => ⟨Except.ok.inj heq, h⟩, fun heq => congrArg Except.ok heq.1⟩

/-- The second part settles the rule about the placeholder. -/
theorem settles_refusePlaceholder {record : Json} {command : Text}
    (hcommand : record.valueAt? ["arguments", "command"] = some (.string command)) :
    Settles record 7 8 (refusePlaceholder command) := by
  by_cases h : Text.contains placeholderPath command = true
  · rw [refusePlaceholder, if_pos h]
    refine ⟨by decide, ⟨command, hcommand, Text.contains_iff_infix.mp h⟩, ?_⟩
    intro other hlow hother
    have hrank : Fault.rank .placeholder = 8 := rfl
    omega
  · rw [refusePlaceholder, if_neg h]
    intro other hlow hhigh hshown
    cases other with
    | placeholder =>
      obtain ⟨found, hfound, hinfix⟩ := hshown
      obtain rfl : command = found := by simpa using hcommand.symm.trans hfound
      exact h (Text.contains_iff_infix.mpr hinfix)
    | _ => simp [Fault.rank] at hlow hhigh

/-- The check of the permission settles the rules about it. -/
theorem settles_checkPermission
    (harguments : members.lookup Record.argumentsKey = some (.object arguments)) :
    Settles (.object members) 8 10 (checkPermission arguments) := by
  apply (required_permission _).settles
    (valueAt?_object_pair harguments Record.skipPermissionsKey)
  · intro h
    simp only [checkPermission, h]
  · intro found h hbad
    cases found with
    | bool value =>
      cases value with
      | true => exact absurd rfl hbad
      | false => simp only [checkPermission, h]
    | _ => simp only [checkPermission, h]
  · intro found h hgood
    rw [not_not] at hgood
    subst hgood
    exact ⟨(), by simp only [checkPermission, h]⟩

/-- The permission that was checked is granted. -/
theorem lookup_of_checkPermission (h : checkPermission arguments = .ok ()) :
    arguments.lookup Record.skipPermissionsKey = some (.bool true) := by
  unfold checkPermission at h
  split at h
  case h_1 => cases h
  case h_2 hlookup => exact hlookup
  case h_3 => cases h

end Checks

/-! ## The examination of one record -/

/-- Every fault has a rank from one on. -/
theorem Fault.rank_pos (fault : Fault) : 0 < fault.rank := by
  cases fault with
  | _ => simp [Fault.rank]

/-- Being an object is the first rule. -/
theorem not_shows_of_rank_le_one {members : List (Text × Json)} {fault : Fault}
    (h : fault.rank ≤ 1) : ¬ Shows (.object members) fault := by
  intro hshown
  cases fault with
  | notObject => exact hshown members rfl
  | _ => simp [Fault.rank] at h

/-- The examination of a record settles all rules. -/
theorem settles_inspect (record : Json) : Settles record 0 10 (inspect record) := by
  cases record with
  | object members =>
    -- Each check begins at the rank up to which the checks before it have settled the rules.
    refine Settles.of_clear (by omega) (fun other _ hother => not_shows_of_rank_le_one hother) ?_
    refine settles_checkTool.bind (by omega) fun _ _ => ?_
    refine settles_findArguments.bind (by omega) fun arguments hfound => ?_
    have harguments := lookup_of_findArguments hfound
    have hcommand : Settles (.object members) 5 8 (findCommand arguments) := by
      rw [findCommand_eq]
      exact (settles_findString harguments).bind (by omega) fun command hstring =>
        settles_refusePlaceholder
          ((valueAt?_object_pair harguments _).trans (lookup_of_findString hstring))
    refine hcommand.bind (by omega) fun command _ => ?_
    refine (settles_checkPermission harguments).bind (by omega) fun _ _ => ?_
    exact fun other hlow hhigh => absurd hhigh (by omega)
  | _ =>
    refine ⟨by decide, fun members h => (nomatch h), fun other hlow hother => ?_⟩
    have hrank : Fault.rank .notObject = 1 := rfl
    omega

/-- An examination that fails reports the first fault. -/
theorem firstFault_of_inspect {record : Json} {fault : Fault} (h : inspect record = .error fault) :
    FirstFault record fault := by
  have hsettled := settles_inspect record
  rw [h] at hsettled
  exact ⟨hsettled.2.1, fun other hother => hsettled.2.2 other other.rank_pos hother⟩

/-- An examination that succeeds returns the command and the arguments of a record as it
should be. -/
theorem conforms_of_inspect {record : Json} {command : Text} {arguments : List (Text × Json)}
    (h : inspect record = .ok (command, arguments)) : Conforms record arguments command := by
  cases record with
  | object members =>
    obtain ⟨_, htool, h⟩ := FileSystem.bind_eq_ok_iff.mp h
    obtain ⟨inner, hfound, h⟩ := FileSystem.bind_eq_ok_iff.mp h
    obtain ⟨text, hcommand, h⟩ := FileSystem.bind_eq_ok_iff.mp h
    obtain ⟨_, hpermission, h⟩ := FileSystem.bind_eq_ok_iff.mp h
    obtain ⟨rfl, rfl⟩ : text = command ∧ inner = arguments := by cases h; exact ⟨rfl, rfl⟩
    rw [findCommand_eq, FileSystem.bind_eq_ok_iff] at hcommand
    obtain ⟨found, hstring, hrefuse⟩ := hcommand
    obtain ⟨rfl, hfilled⟩ := refusePlaceholder_eq_ok_iff.mp hrefuse
    have harguments := lookup_of_findArguments hfound
    constructor
    case tool_eq => exact (valueAt?_object_singleton members _).trans (lookup_of_checkTool htool)
    case arguments_eq => exact (valueAt?_object_singleton members _).trans harguments
    case command_eq =>
      exact (valueAt?_object_pair harguments _).trans (lookup_of_findString hstring)
    case command_filled => exact hfilled
    case permission_eq =>
      exact (valueAt?_object_pair harguments _).trans (lookup_of_checkPermission hpermission)
  | _ => cases h

/-- A record as it should be shows no fault. -/
theorem Conforms.not_shows {record : Json} {arguments : List (Text × Json)} {command : Text}
    (h : Conforms record arguments command) (fault : Fault) : ¬ Shows record fault := by
  intro hshown
  cases fault with
  | notObject =>
    cases record with
    | object members => exact hshown members rfl
    | _ => exact nomatch h.tool_eq
  | missingTool => exact nomatch h.tool_eq.symm.trans hshown
  | wrongTool found => exact hshown.2 (Option.some.inj (hshown.1.symm.trans h.tool_eq))
  | missingArguments => exact nomatch h.arguments_eq.symm.trans hshown
  | wrongArguments found =>
    exact hshown.2 arguments (Option.some.inj (hshown.1.symm.trans h.arguments_eq))
  | missingCommand => exact nomatch h.command_eq.symm.trans hshown
  | wrongCommand found =>
    exact hshown.2 command (Option.some.inj (hshown.1.symm.trans h.command_eq))
  | placeholder =>
    obtain ⟨found, hfound, hinfix⟩ := hshown
    have heq : Json.string found = .string command :=
      Option.some.inj (hfound.symm.trans h.command_eq)
    exact h.command_filled (Json.string.inj heq ▸ hinfix)
  | missingPermission => exact nomatch h.permission_eq.symm.trans hshown
  | wrongPermission found => exact hshown.2 (Option.some.inj (hshown.1.symm.trans h.permission_eq))

end Schema

end TaskSheet
