import NodeGroups.Json.Decoder
import NodeGroups.Json.Printer

set_option autoImplicit false

namespace NodeGroups.Document

/-- The variables of a group, if it has any. -/
structure Variables where
  data : Option (OrderedMap Json)
  deriving DecidableEq

namespace Variables

/-- The text shown for a value: a string is its own, any other value its JSON text. -/
def shownText : Json → String
  | .string s => s
  | v => Json.compact v

/-- The variables as they are listed, in the order of their names. -/
def entries (v : Variables) : List (String × String) :=
  match v.data with
  | none => []
  | some m => m.entries.map fun e => (e.1, shownText e.2)

def decoder : Json.Decoder Variables := fun levels s => do
  let f ← Json.Decoder.fields? ["data"] levels s
  return { data := ← f.withDefault "data" none (.optional (.map .json)) }

def toJson (v : Variables) : Json :=
  .object [("data", .ofOption (.ofMap id) v.data)]

end Variables

end NodeGroups.Document
