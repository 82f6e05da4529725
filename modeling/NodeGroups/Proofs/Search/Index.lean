import NodeGroups.Search.Index

set_option autoImplicit false

namespace NodeGroups.Search

theorem mem_firstOfEach {seen : List String} {records : List Record} {r : Record}
    (member : r ∈ firstOfEach seen records) : r ∈ records ∧ r.id ∉ seen := by
  induction records generalizing seen with
  | nil => exact absurd member List.not_mem_nil
  | cons a records ih =>
    rw [firstOfEach] at member
    split at member
    · have found := ih member
      exact ⟨List.mem_cons_of_mem a found.1, found.2⟩
    · rename_i unseen
      rcases List.mem_cons.mp member with rfl | member
      · exact ⟨List.mem_cons_self, fun old => unseen (List.contains_iff_mem.mpr old)⟩
      · have found := ih member
        exact ⟨List.mem_cons_of_mem a found.1, fun old => found.2 (List.mem_cons_of_mem a.id old)⟩

/-- Of several records with one identifier, one is kept. -/
theorem firstOfEach_nodup (seen : List String) (records : List Record) :
    ((firstOfEach seen records).map (·.id)).Nodup := by
  induction records generalizing seen with
  | nil => exact List.nodup_nil
  | cons a records ih =>
    rw [firstOfEach]
    split
    · exact ih seen
    · rw [List.map_cons, List.nodup_cons]
      refine ⟨fun again => ?_, ih (a.id :: seen)⟩
      obtain ⟨r, member, same⟩ := List.mem_map.mp again
      apply (mem_firstOfEach member).2
      rw [same]
      exact List.mem_cons_self

namespace Index

theorem records_load (index : Index) (key : String) (records : List Record) :
    (index.load key records).records key = firstOfEach [] records := by
  rw [Index.records, load, OrderedMap.find?_insert_self, Option.getD_some]

theorem records_load_of_ne (index : Index) {key other : String} (different : other ≠ key)
    (records : List Record) : (index.load key records).records other = index.records other := by
  rw [Index.records, load, OrderedMap.find?_insert_of_ne _ different, Index.records]

/-- A record, in a given state if a field has a given text. -/
def turn (field value : String) (state : Activation) (r : Record) : Record :=
  if r.field? field == some value then { r with state } else r

theorem records_setStateWhere (index : Index) (key field value : String) (state : Activation) :
    (index.setStateWhere key field value state).1.records key =
      (index.records key).map (turn field value state) := by
  unfold setStateWhere
  split
  · rename_i missing
    rw [Index.records, missing]
    rfl
  · rename_i records found
    rw [Index.records, OrderedMap.find?_insert_self, Index.records, found]
    rfl

/-- Turning records of a dataset on and off leaves the other datasets. -/
theorem records_setStateWhere_of_ne (index : Index) {key other : String} (different : other ≠ key)
    (field value : String) (state : Activation) :
    (index.setStateWhere key field value state).1.records other = index.records other := by
  unfold setStateWhere
  split
  · rfl
  · rw [Index.records, OrderedMap.find?_insert_of_ne _ different, Index.records]

section Turn

variable (field value : String) (state : Activation) (r : Record)

theorem turn_id : (turn field value state r).id = r.id := by
  unfold turn
  split <;> rfl

theorem turn_field? (key : String) : (turn field value state r).field? key = r.field? key := by
  unfold turn
  split <;> rfl

theorem turn_state : (turn field value state r).state =
    if r.field? field = some value then state else r.state := by
  simp only [turn, beq_iff_eq]
  split <;> rfl

end Turn

theorem identified_map_turn {records : List Record} (identified : (records.map (·.id)).Nodup)
    (field value : String) (state : Activation) :
    ((records.map (turn field value state)).map (·.id)).Nodup := by
  have same : (fun r : Record => r.id) ∘ turn field value state = fun r => r.id :=
    funext (turn_id field value state)
  rwa [List.map_map, same]

end Index

/-- Some record has an identifier, and a field with a text. -/
def Called (records : List Record) (field id label : String) : Prop :=
  ∃ r ∈ records, r.id = id ∧ r.field? field = some label

theorem Called.map_turn {records : List Record} {field id label : String}
    (called : Called records field id label) (value : String) (state : Activation) :
    Called (records.map (Index.turn field value state)) field id label := by
  obtain ⟨r, member, same, has⟩ := called
  refine ⟨Index.turn field value state r, List.mem_map_of_mem member, ?_, ?_⟩
  · rw [Index.turn_id, same]
  · rw [Index.turn_field?, has]

end NodeGroups.Search
