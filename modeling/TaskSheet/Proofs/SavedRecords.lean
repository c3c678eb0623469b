import TaskSheet.Proofs.JsonRoundTrip
import TaskSheet.Schema
import Mathlib.Data.List.Basic

/-!
# Saved records

A list of records is written with the members of each record in a fixed order and read back
with the members sorted. What is read is the value of the list, from which the records can be
taken again, so that a saved list is examined like the list itself.
-/

namespace TaskSheet

namespace Json

/-- Items fit if each of them does. -/
theorem fitItems_iff {room : Nat} {items : List Json} :
    FitItems room items ↔ ∀ item ∈ items, Fits room item := by
  induction items with
  | nil => simp [FitItems]
  | cons item items ih => simp [FitItems, ih]

/-- Items are sorted one by one. -/
theorem sortedItems_eq_map (items : List Json) : sortedItems items = items.map sorted := by
  induction items with
  | nil => rfl
  | cons item items ih => rw [sortedItems, ih, List.map_cons]

/-- The first member is added to no others. -/
theorem insertMember_nil (key : Text) (value : Json) : insertMember key value [] = [(key, value)] :=
  rfl

/-- A member whose key comes before that of the only other one is put before it. -/
theorem insertMember_of_lt {key other : Text} (h : key < other) (value item : Json) :
    insertMember key value [(other, item)] = [(key, value), (other, item)] := by
  have hne : key ≠ other := fun heq => List.lt_irrefl other (heq ▸ h)
  rw [insertMember, if_neg hne, if_pos h]

/-- A member whose key comes behind the first one is put behind that one. -/
theorem insertMember_of_gt {key first : Text} (h : first < key) (value item : Json)
    (members : List (Text × Json)) :
    insertMember key value ((first, item) :: members) =
      (first, item) :: insertMember key value members := by
  have hne : key ≠ first := fun heq => List.lt_irrefl first (heq ▸ h)
  rw [insertMember, if_neg hne, if_neg (List.lt_asymm h)]

end Json

/-- The members of arguments are sorted as they are written. -/
theorem Arguments.sorted_toJson (arguments : Arguments) :
    arguments.toJson.sorted = arguments.toJson := by
  have hfirst : Record.commandKey < Record.skipPermissionsKey := by decide
  have hlast : Record.commandKey < Record.timeoutKey := by decide
  have hsecond : Record.skipPermissionsKey < Record.timeoutKey := by decide
  simp only [toJson, Json.sorted, Json.sortedMembers, Json.insertMember_nil,
    Json.insertMember_of_gt hfirst, Json.insertMember_of_gt hlast, Json.insertMember_of_gt hsecond]

/-- Arguments are read back from their value. -/
theorem Arguments.ofJson?_toJson (arguments : Arguments) :
    ofJson? arguments.toJson = some arguments := by
  have hskip : (Record.skipPermissionsKey == Record.commandKey) = false := by decide
  have htimeout : (Record.timeoutKey == Record.commandKey) = false := by decide
  have htimeout' : (Record.timeoutKey == Record.skipPermissionsKey) = false := by decide
  have hsize : arguments.timeout.toNat < UInt64.size := arguments.timeout.toNat_lt
  have hread : timeoutOfJson? (.number (.int arguments.timeout.toNat)) =
      some arguments.timeout := by
    simp [timeoutOfJson?, hsize]
  simp only [ofJson?, toJson, List.lookup_cons, hskip, htimeout, htimeout', beq_self_eq_true,
    ofValues?, hread, Option.map_some]

namespace Record

/-- The members of a record are written in their order and read in that of their keys. -/
theorem sorted_layout (record : Record) : record.layout.sorted = record.toJson := by
  have hlt : argumentsKey < toolKey := by decide
  simp only [layout, toJson, Json.sorted, Json.sortedMembers, Json.insertMember_nil,
    Arguments.sorted_toJson, Json.insertMember_of_lt hlt]

/-- A record opens two containers, and its time limit fits into a word. -/
theorem fits_layout {room : Nat} (h : 2 ≤ room) (record : Record) :
    Json.Fits room record.layout := by
  have htimeout : Json.FitsWord record.arguments.timeout.toNat := by
    have hsize : record.arguments.timeout.toNat < UInt64.size :=
      record.arguments.timeout.toNat_lt
    constructor
    · omega
    · exact Int.ofNat_lt.mpr hsize
  simp only [layout, Arguments.toJson, Json.Fits, Json.FitMembers, htimeout, and_self, and_true,
    true_and]
  omega

/-- A record is read back from its value. -/
theorem ofJson?_toJson (record : Record) : ofJson? record.toJson = some record := by
  have htool : (toolKey == argumentsKey) = false := by decide
  simp only [ofJson?, toJson, List.lookup_cons, htool, beq_self_eq_true, ofValues?,
    Arguments.ofJson?_toJson, Option.map_some]

/-- A list of records is read back from its value. -/
theorem listOfJson?_listToJson (records : List Record) :
    listOfJson? (listToJson records) = some records := by
  change (records.map toJson).mapM ofJson? = some records
  induction records with
  | nil => rfl
  | cons record records ih =>
    rw [List.map_cons, List.mapM_cons, ofJson?_toJson, ih]
    rfl

/-- A list of records is read from its file as its value. -/
theorem parse?_renderList (records : List Record) :
    Json.parse? (renderList records) = some (listToJson records) := by
  have hfits : Json.Fits Json.greatestDepth (.array (records.map layout)) := by
    rw [Json.Fits]
    refine ⟨by decide, Json.fitItems_iff.mpr fun item hitem => ?_⟩
    obtain ⟨record, -, rfl⟩ := List.mem_map.mp hitem
    exact record.fits_layout (by decide)
  have hsorted : (records.map layout).map Json.sorted = records.map toJson := by
    rw [List.map_map]
    exact List.map_congr_left fun record _ => record.sorted_layout
  rw [renderList, Json.parse?_pretty hfits, Json.sorted, Json.sortedItems_eq_map, hsorted,
    listToJson]

/-- **Saved records read back.** The text of a list of records is read as the value of the
list, the records are read back from that value, and the value is examined like the list.
Hence different lists have different texts. -/
theorem saved_list_reads_back (records : List Record) :
    Json.parse? (renderList records) = some (listToJson records) ∧
      (Json.parse? (renderList records)).bind listOfJson? = some records ∧
      (∀ environment,
        (Json.parse? (renderList records)).map (Schema.verify environment) =
            some (Schema.verifyRecords environment records) ∧
          (Json.parse? (renderList records)).map
              (fun value => Schema.passes (Schema.verify environment value)) =
            some (Schema.passes (Schema.verifyRecords environment records))) ∧
      ∀ other, renderList other = renderList records ↔ other = records := by
  have hback : ∀ other, (Json.parse? (renderList other)).bind listOfJson? = some other :=
    fun other => by rw [parse?_renderList, Option.bind_some, listOfJson?_listToJson]
  refine ⟨parse?_renderList records, hback records, fun environment => ?_, fun other => ?_⟩
  · rw [parse?_renderList]
    exact ⟨rfl, rfl⟩
  · constructor
    · intro h
      have hother := hback other
      rw [h, hback records] at hother
      exact (Option.some.inj hother).symm
    · rintro rfl
      rfl

end Record

end TaskSheet
