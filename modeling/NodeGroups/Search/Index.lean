import NodeGroups.OrderedMap
import NodeGroups.Search.Record

set_option autoImplicit false

namespace NodeGroups.Search

def classesKey : String := "classes"

/-- The dataset of nodes, whose names are in the field of the same name. -/
def certnameKey : String := "certname"

def factsKey : String := "facts"

/-- Keeps the first record of every identifier; those in `seen` had their record before. -/
def firstOfEach (seen : List String) : List Record → List Record
  | [] => []
  | r :: rs =>
    if seen.contains r.id then firstOfEach seen rs else r :: firstOfEach (r.id :: seen) rs

structure Index where
  datasets : OrderedMap (List Record)
  deriving DecidableEq

namespace Index

def empty : Index := ⟨∅⟩

instance : Inhabited Index := ⟨empty⟩

/-- Replaces a dataset. Of several records with one identifier the first is kept. -/
def load (index : Index) (key : String) (records : List Record) : Index :=
  ⟨index.datasets.insert key (firstOfEach [] records)⟩

/-- The records of a dataset, none if it was not loaded. -/
def records (index : Index) (key : String) : List Record :=
  (index.datasets.find? key).getD []

def contains (index : Index) (key : String) : Bool := (index.datasets.find? key).isSome

/-- The first record of a dataset with a text in a field. -/
def first? (index : Index) (key field value : String) : Option Record :=
  (index.records key).find? fun r => r.field? field == some value

/-- Gives the first record with an identifier a state. -/
def setFirst (id : String) (state : Activation) : List Record → List Record
  | [] => []
  | r :: rs => if r.id = id then { r with state } :: rs else r :: setFirst id state rs

/-- Gives a record a state, and tells whether it had another one. A record or a dataset that does
not exist is passed over, since a page may name records before their dataset is loaded. -/
def setState (index : Index) (key id : String) (state : Activation) : Index × Bool :=
  match index.datasets.find? key with
  | none => (index, false)
  | some records =>
    match records.find? fun r => r.id == id with
    | none => (index, false)
    | some r =>
      (⟨index.datasets.insert key (setFirst id state records)⟩, r.state != state)

/-- Gives every record with a text in a field a state, and tells how many had another one. -/
def setStateWhere (index : Index) (key field value : String) (state : Activation) :
    Index × Nat :=
  match index.datasets.find? key with
  | none => (index, 0)
  | some records =>
    let chosen := fun r : Record => r.field? field == some value
    (⟨index.datasets.insert key
        (records.map fun r => if chosen r then { r with state } else r)⟩,
      (records.filter fun r => chosen r && r.state != state).length)

end Index

end NodeGroups.Search
