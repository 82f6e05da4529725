import NodeGroups.Json.Decoder

set_option autoImplicit false

namespace NodeGroups.Document

structure Classification where
  classes : Option (OrderedMap (Option (OrderedMap Json)))
  parameters : Option (OrderedMap Json)
  environment : Option String
  deriving DecidableEq

namespace Classification

def empty : Classification := ⟨none, none, none⟩

def decoder : Json.Decoder Classification := fun levels s => do
  let f ← Json.Decoder.fields? ["classes", "parameters", "environment"] levels s
  return {
    classes := ← f.withDefault "classes" none (.optional (.map (.optional (.map .json))))
    parameters := ← f.withDefault "parameters" none (.optional (.map .json))
    environment := ← f.withDefault "environment" none (.optional .string) }

def toJson (c : Classification) : Json :=
  .object [("classes", .ofOption (.ofMap (.ofOption (.ofMap id))) c.classes),
    ("parameters", .ofOption (.ofMap id) c.parameters),
    ("environment", .ofText? c.environment)]

end Classification

end NodeGroups.Document
