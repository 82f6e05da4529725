import NodeGroups.Proofs.Search.Index

set_option autoImplicit false

namespace NodeGroups.Search

namespace Index

inductive Change
  | load (key : String) (records : List Record)
  | setState (key id : String) (state : Activation)
  | setStateWhere (key field value : String) (state : Activation)

def change (index : Index) : Change → Index
  | .load key records => index.load key records
  | .setState key id state => (index.setState key id state).1
  | .setStateWhere key field value state => (index.setStateWhere key field value state).1

/-- In no dataset do two records have one identifier. -/
def Identified (index : Index) : Prop := ∀ key, ((index.records key).map (·.id)).Nodup

theorem records_insert (index : Index) (key other : String) (records : List Record) :
    (⟨index.datasets.insert key records⟩ : Index).records other =
      if other = key then records else index.records other := by
  unfold Index.records
  split
  · rename_i same
    rw [same, OrderedMap.find?_insert_self, Option.getD_some]
  · rename_i different
    rw [OrderedMap.find?_insert_of_ne _ different]

theorem records_of_find? {index : Index} {key : String} {records : List Record}
    (found : index.datasets.find? key = some records) : index.records key = records := by
  rw [Index.records, found, Option.getD_some]

theorem ids_setFirst (id : String) (state : Activation) (records : List Record) :
    (setFirst id state records).map (·.id) = records.map (·.id) := by
  induction records with
  | nil => rfl
  | cons r records ih =>
    rw [setFirst]
    split
    · rfl
    · rw [List.map_cons, List.map_cons, ih]

theorem ids_insert {index : Index} {key : String} {records : List Record}
    (same : records.map (·.id) = (index.records key).map (·.id)) (other : String) :
    ((⟨index.datasets.insert key records⟩ : Index).records other).map (·.id) =
      (index.records other).map (·.id) := by
  rw [records_insert]
  split
  · rename_i here
    rw [here, same]
  · rfl

theorem ids_setState (index : Index) (key id other : String) (state : Activation) :
    ((index.setState key id state).1.records other).map (·.id) =
      (index.records other).map (·.id) := by
  unfold setState
  split
  · rfl
  · rename_i records found
    split
    · rfl
    · refine ids_insert ?_ other
      rw [records_of_find? found, ids_setFirst]

theorem ids_setStateWhere (index : Index) (key field value other : String) (state : Activation) :
    ((index.setStateWhere key field value state).1.records other).map (·.id) =
      (index.records other).map (·.id) := by
  by_cases here : other = key
  · have same : (fun r : Record => r.id) ∘ turn field value state = fun r => r.id :=
      funext (turn_id field value state)
    rw [here, records_setStateWhere, List.map_map, same]
  · rw [records_setStateWhere_of_ne index here]

theorem identified_empty : empty.Identified := fun _ => List.nodup_nil

theorem Identified.change {index : Index} (identified : index.Identified) (c : Change) :
    (index.change c).Identified := by
  intro other
  cases c with
  | load key records =>
    by_cases here : other = key
    · rw [here, Index.change, records_load]
      exact firstOfEach_nodup [] records
    · rw [Index.change, records_load_of_ne index here]
      exact identified other
  | setState key id state =>
    rw [Index.change, ids_setState]
    exact identified other
  | setStateWhere key field value state =>
    rw [Index.change, ids_setStateWhere]
    exact identified other

end Index

end NodeGroups.Search
