import NodeGroups.Proofs.Search.IndexHistory

set_option autoImplicit false

namespace NodeGroups.Search.Index

/-- A change makes the same of one dataset in every index, and leaves all others. -/
structure Overwrites (key : String) (change : Index → Index) : Prop where
  here : ∀ index other : Index,
    (change index).datasets.find? key = (change other).datasets.find? key
  elsewhere : ∀ (index : Index) {other : String}, other ≠ key →
    (change index).datasets.find? other = index.datasets.find? other

variable {key : String} {change : Index → Index}

theorem overwrites_load (key : String) (records : List Record) :
    Overwrites key fun index => index.load key records where
  here _ _ := by
    rw [load, load, OrderedMap.find?_insert_self, OrderedMap.find?_insert_self]
  elsewhere _ _ different := OrderedMap.find?_insert_of_ne _ different _

theorem Overwrites.setStateWhere (overwrites : Overwrites key change) (field value : String)
    (state : Activation) :
    Overwrites key fun index => ((change index).setStateWhere key field value state).1 where
  here index other := by
    rw [find?_setStateWhere, find?_setStateWhere, overwrites.here index other]
  elsewhere index other different := by
    rw [← overwrites.elsewhere index different]
    exact find?_change_of_ne _ (c := .setStateWhere key field value state) different

theorem Overwrites.foldl (overwrites : Overwrites key change) (field : String) (state : Activation)
    (values : List String) :
    Overwrites key fun index => values.foldl
      (fun index value => (index.setStateWhere key field value state).1) (change index) := by
  induction values generalizing change with
  | nil => exact overwrites
  | cons value values ih => exact ih (overwrites.setStateWhere field value state)

theorem ext_datasets {index other : Index}
    (same : ∀ k, index.datasets.find? k = other.datasets.find? k) : index = other := by
  cases index
  cases other
  exact congrArg Index.mk (OrderedMap.ext_find? same)

theorem Overwrites.again (overwrites : Overwrites key change) (index : Index) :
    change (change index) = change index := by
  refine ext_datasets fun k => ?_
  by_cases same : k = key
  · rw [same]
    exact overwrites.here _ _
  · exact overwrites.elsewhere _ same

/-- Two datasets overwritten one after the other stay so when both are overwritten again. -/
theorem Overwrites.both_again (overwrites : Overwrites key change) {next : String}
    {another : Index → Index} (onward : Overwrites next another) (index : Index) :
    another (change (another (change index))) = another (change index) := by
  refine ext_datasets fun k => ?_
  by_cases last : k = next
  · rw [last]
    exact onward.here _ _
  · rw [onward.elsewhere _ last, onward.elsewhere _ last]
    by_cases same : k = key
    · rw [same]
      exact overwrites.here _ _
    · rw [overwrites.elsewhere _ same, onward.elsewhere _ last]

end NodeGroups.Search.Index
