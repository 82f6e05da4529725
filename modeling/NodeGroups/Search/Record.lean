import NodeGroups.Failure
import NodeGroups.Json.Decoder

set_option autoImplicit false

namespace NodeGroups.Search

/-- Whether a record can be chosen. -/
inductive Activation
  | enabled
  | disabled
  deriving DecidableEq, Inhabited

namespace Activation

def name : Activation → String
  | .enabled => "enabled"
  | .disabled => "disabled"

def decoder : Json.Decoder Activation :=
  .variant [("enabled", .enabled), ("disabled", .disabled)]

end Activation

structure Record where
  id : String
  name : String
  /-- Text fields besides the identifier and the name. -/
  fields : OrderedMap String
  state : Activation
  deriving DecidableEq, Inhabited

namespace Record

/-- An enabled record without further fields. -/
def named (id name : String) : Record := ⟨id, name, ∅, .enabled⟩

def setField (r : Record) (key value : String) : Record :=
  { r with fields := r.fields.insert key value }

/-- The text of a field; the identifier and the name are fields like any other. -/
def field? (r : Record) (key : String) : Option String :=
  if key = "id" then some r.id
  else if key = "name" then some r.name
  else r.fields.find? key

def isEnabled (r : Record) : Bool := r.state == .enabled

/-- The text of a scalar value; `null`, arrays and objects have none. -/
def scalarText? : Json → Option String
  | .string s => some s
  | .number n => some n.text
  | .bool true => some "true"
  | .bool false => some "false"
  | _ => none

/-- The scalar members of a backend object as texts. -/
def scalarFields (members : List (String × Json)) : OrderedMap String :=
  .ofList (members.filterMap fun m => (scalarText? m.2).map (m.1, ·))

/-- The record of a backend object: its scalar members as texts. An object without a name takes the
text of the field `labelField` as its name, and then keeps that field too. -/
def ofJson (value : Json) (labelField : String) : Except Failure Record :=
  match value with
  | .object members =>
    let fields := scalarFields members
    match fields.find? "id" with
    | none => .error (.validation "dataset entry has no id")
    | some id =>
      let fields := fields.erase "id"
      match fields.find? "name" with
      | some name => .ok ⟨id, name, fields.erase "name", .enabled⟩
      | none =>
        match fields.find? labelField with
        | some name => .ok ⟨id, name, fields, .enabled⟩
        | none =>
          .error (.validation ("dataset entry " ++ id ++ " has no " ++ labelField))
  | _ => .error (.validation "dataset entry is not an object")

def decoder : Json.Decoder Record := fun levels s => do
  let f ← Json.Decoder.fields? ["id", "name", "fields", "state"] levels s
  return {
    id := ← f.required "id" .string
    name := ← f.required "name" .string
    fields := ← f.withDefault "fields" ∅ (.map .string)
    state := ← f.withDefault "state" .enabled Activation.decoder }

/-- A record as a document; an empty map of fields is left out. -/
def toJson (r : Record) : Json :=
  .object <|
    [("id", .string r.id), ("name", .string r.name)] ++
    (if r.fields.isEmpty then [] else [("fields", .ofMap .string r.fields)]) ++
    [("state", .string r.state.name)]

end Record

end NodeGroups.Search
