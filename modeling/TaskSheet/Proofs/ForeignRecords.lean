import TaskSheet.Proofs.SavedRecords
import Mathlib.Data.List.Forall2

/-!
# Records from elsewhere

A list of records from elsewhere may hold members that no record has. Whoever takes the records
from it leaves these members behind, and whoever examines it looks only at the members that a
record has too. So the records are examined like the list that they were taken from.
-/

namespace TaskSheet

/-- Where arguments were read from an object, it has their three members. -/
theorem Arguments.lookup_of_ofJson? {members : List (Text × Json)} {arguments : Arguments}
    (h : ofJson? (.object members) = some arguments) :
    members.lookup Record.commandKey = some (.string arguments.command) ∧
      members.lookup Record.skipPermissionsKey = some (.bool arguments.skipPermissions) ∧
      (members.lookup Record.timeoutKey).isSome = true := by
  simp only [ofJson?] at h
  split at h
  · rename_i command skipPermissions timeout hcommand hskip htimeout
    rw [hcommand, hskip, htimeout]
    unfold ofValues? at h
    split at h
    · obtain ⟨limit, -, rfl⟩ := Option.map_eq_some_iff.mp h
      exact ⟨rfl, rfl, rfl⟩
    · contradiction
  · contradiction

/-- Where a record was read from an object, it has the two members of the record. -/
theorem Record.lookup_of_ofJson? {members : List (Text × Json)} {record : Record}
    (h : ofJson? (.object members) = some record) :
    members.lookup toolKey = some (.string record.tool) ∧
      ∃ arguments, members.lookup argumentsKey = some arguments ∧
        Arguments.ofJson? arguments = some record.arguments := by
  simp only [ofJson?] at h
  split at h
  · rename_i tool arguments htool harguments
    rw [htool, harguments]
    unfold ofValues? at h
    split at h
    · obtain ⟨read, hread, rfl⟩ := Option.map_eq_some_iff.mp h
      exact ⟨rfl, _, rfl, hread⟩
    · contradiction
  · contradiction

namespace Schema

/-! ## What an examination looks at -/

/-- Arguments that agree in the members that are examined. Of a time limit only its presence is
examined. -/
structure ArgumentsAgree (first second : List (Text × Json)) : Prop where
  /-- They hold the same command. -/
  command : first.lookup Record.commandKey = second.lookup Record.commandKey
  /-- They hold the same permission. -/
  permission : first.lookup Record.skipPermissionsKey = second.lookup Record.skipPermissionsKey
  /-- Both set a time limit, or none does. -/
  timeout : (first.lookup Record.timeoutKey).isSome = (second.lookup Record.timeoutKey).isSome

/-- Objects that agree in the members that are examined. -/
inductive Agree : Json → Json → Prop
  /-- The tools are the same and the arguments agree. -/
  | intro {members others arguments otherArguments : List (Text × Json)}
      (htool : members.lookup Record.toolKey = others.lookup Record.toolKey)
      (harguments : members.lookup Record.argumentsKey = some (.object arguments))
      (hothers : others.lookup Record.argumentsKey = some (.object otherArguments))
      (hagree : ArgumentsAgree arguments otherArguments) :
      Agree (.object members) (.object others)

/-- Arguments that agree leave the same gaps. -/
theorem ArgumentsAgree.gaps_eq {first second : List (Text × Json)} (h : ArgumentsAgree first second)
    (environment : Environment) (command : Text) :
    gaps environment command first = gaps environment command second := by
  rw [gaps, gaps, h.timeout]

/-- The same is found in records that agree. -/
theorem Agree.examine_eq {record other : Json} (h : Agree record other) (environment : Environment)
    (number : Nat) : examine environment number record = examine environment number other := by
  cases h with
  | @intro members others arguments otherArguments htool harguments hothers hagree =>
    have htools : checkTool members = checkTool others := by rw [checkTool, checkTool, htool]
    have hfirst : findArguments members = .ok arguments := by rw [findArguments, harguments]
    have hsecond : findArguments others = .ok otherArguments := by rw [findArguments, hothers]
    have hcommands : findCommand arguments = findCommand otherArguments := by
      rw [findCommand, findCommand, hagree.command]
    have hpermissions : checkPermission arguments = checkPermission otherArguments := by
      rw [checkPermission, checkPermission, hagree.permission]
    rw [examine, examine, inspect, inspect, htools, hfirst, hsecond]
    cases checkTool others with
    | error fault => rfl
    | ok _ =>
      simp only [bind, Except.bind, hcommands, hpermissions]
      cases findCommand otherArguments with
      | error fault => rfl
      | ok command =>
        cases checkPermission otherArguments with
        | error fault => rfl
        | ok _ => exact congrArg (List.map _) (hagree.gaps_eq environment command)

/-- The same is found in lists of records that agree one by one. -/
theorem examineFrom_congr {records others : List Json} (h : List.Forall₂ Agree records others)
    (environment : Environment) (number : Nat) :
    examineFrom environment number records = examineFrom environment number others := by
  induction h generalizing number with
  | nil => rfl
  | cons hfirst _ ih => rw [examineFrom, examineFrom, hfirst.examine_eq, ih]

/-- The same is found in arrays of records that agree one by one. -/
theorem verify_array_congr {records others : List Json} (h : List.Forall₂ Agree records others)
    (environment : Environment) :
    verify environment (.array records) = verify environment (.array others) := by
  cases h with
  | nil => rfl
  | cons hfirst hrest => exact examineFrom_congr (.cons hfirst hrest) environment 1

/-! ## What a record keeps -/

/-- An object whose arguments are an object. -/
def HasArguments (item : Json) : Prop :=
  ∃ members arguments, item = .object members ∧
    members.lookup Record.argumentsKey = some (.object arguments)

/-- An object agrees with the record that is read from it. -/
theorem HasArguments.agree_toJson {item : Json} {record : Record} (h : HasArguments item)
    (hread : Record.ofJson? item = some record) : Agree item record.toJson := by
  obtain ⟨members, arguments, rfl, harguments⟩ := h
  obtain ⟨htool, found, hfound, hrecord⟩ := Record.lookup_of_ofJson? hread
  obtain rfl : Json.object arguments = found := Option.some.inj (harguments.symm.trans hfound)
  obtain ⟨hcommand, hpermission, htimeout⟩ := Arguments.lookup_of_ofJson? hrecord
  exact .intro htool harguments rfl ⟨hcommand, hpermission, htimeout⟩

/-- The objects of a list agree with the records that are read from it. -/
theorem forall₂_agree_of_mapM {items : List Json} {records : List Record}
    (hitems : ∀ item ∈ items, HasArguments item)
    (hread : items.mapM Record.ofJson? = some records) :
    List.Forall₂ Agree items (records.map Record.toJson) := by
  induction items generalizing records with
  | nil =>
    obtain rfl : [] = records := by simpa using hread
    exact .nil
  | cons item items ih =>
    rw [List.forall_mem_cons] at hitems
    simp only [List.mapM_cons, Option.bind_eq_bind, Option.bind_eq_some_iff] at hread
    obtain ⟨record, hrecord, rest, hrest, heq⟩ := hread
    obtain rfl := Option.some.inj heq
    exact .cons (hitems.1.agree_toJson hrecord) (ih hitems.2 hrest)

/-- **Records are examined like the list they were read from.** Let the items of a list be objects
whose arguments are objects, with any further members in both. If records can be read from the list,
the same is found in them as in the list, and both pass or none does. -/
theorem verify_eq_verifyRecords_of_read {items : List Json} {records : List Record}
    (hitems : ∀ item ∈ items, HasArguments item)
    (hread : Record.listOfJson? (.array items) = some records) (environment : Environment) :
    verify environment (.array items) = verifyRecords environment records ∧
      passes (verify environment (.array items)) = passes (verifyRecords environment records) := by
  have hagree := forall₂_agree_of_mapM hitems hread
  have hfindings : verify environment (.array items) = verifyRecords environment records :=
    verify_array_congr hagree environment
  exact ⟨hfindings, congrArg passes hfindings⟩

/-- A list with members that no record has. One record names another tool, one is not granted the
permission, and one has gaps. -/
def foreignItems : List Json :=
  [.object
      [("arguments", .object
          [("command", .string "a"), ("dangerously_skip_permissions", .bool true),
            ("timeout_ms", .number (.int 0))]),
        ("tool", .string "other\n")],
    .object
      [("arguments", .object
          [("command", .string "b"), ("dangerously_skip_permissions", .bool false),
            ("retries", .null), ("timeout_ms", .number (.int 1))]),
        ("tool", .string "claude_code")],
    .object
      [("arguments", .object
          [("command", .string "TASK TYPE:"), ("cwd", .object []),
            ("dangerously_skip_permissions", .bool true),
            ("timeout_ms", .number (.int 18446744073709551615))]),
        ("id", .array [.bool true]), ("tool", .string "claude_code")]]

/-- The records that are read from this list. -/
def foreignRecords : List Record :=
  [⟨"other\n", ⟨"a", true, 0⟩⟩, ⟨"claude_code", ⟨"b", false, 1⟩⟩,
    ⟨"claude_code", ⟨"TASK TYPE:", true, 18446744073709551615⟩⟩]

/-- The list and its records are examined alike. -/
theorem verify_eq_verifyRecords_foreign :
    (∀ item ∈ foreignItems, HasArguments item) ∧
      Record.listOfJson? (.array foreignItems) = some foreignRecords ∧
      verify ⟨"/srv/app", Environment.defaultActivate, "/docs/011.md"⟩ (.array foreignItems) =
        verifyRecords ⟨"/srv/app", Environment.defaultActivate, "/docs/011.md"⟩ foreignRecords := by
  have hitems : ∀ item ∈ foreignItems, HasArguments item := by
    simp only [foreignItems, List.forall_mem_cons]
    exact ⟨⟨_, _, rfl, rfl⟩, ⟨_, _, rfl, rfl⟩, ⟨_, _, rfl, rfl⟩, by simp⟩
  have hread : Record.listOfJson? (.array foreignItems) = some foreignRecords := by decide +kernel
  exact ⟨hitems, hread, (verify_eq_verifyRecords_of_read hitems hread _).1⟩

end Schema

end TaskSheet
