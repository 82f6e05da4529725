import NodeGroups.Json.Decoder

set_option autoImplicit false

namespace NodeGroups.Document

/-- An environment and the master zone it belongs to. -/
structure Environment where
  id : String
  name : String
  masterZone : String
  deriving DecidableEq

namespace Environment

def decoder : Json.Decoder Environment := fun levels s => do
  let f ← Json.Decoder.fields? ["id", "name", "master_zone"] levels s
  return {
    id := ← f.required "id" .string
    name := ← f.required "name" .string
    masterZone := ← f.required "master_zone" .string }

def toJson (e : Environment) : Json :=
  .object [("id", .string e.id), ("name", .string e.name), ("master_zone", .string e.masterZone)]

end Environment

end NodeGroups.Document
