import NodeGroups.Json.Decoder
import NodeGroups.Json.Printer
import NodeGroups.Text.Blank

set_option autoImplicit false

namespace NodeGroups.Document

/-- The types of parameters that are told apart. -/
inductive ParameterKind
  | hash
  | array
  | boolean
  | enumeration
  | integer
  | float
  | other
  deriving DecidableEq, Inhabited

/-- Reads the name of a type, in any case and with blanks around it. -/
def ParameterKind.ofText (raw : String) : ParameterKind :=
  match (Text.trim raw).toUpper with
  | "HASH" => .hash
  | "ARRAY" => .array
  | "BOOLEAN" => .boolean
  | "ENUM" => .enumeration
  | "INTEGER" => .integer
  | "FLOAT" => .float
  | _ => .other

structure ParameterInfo where
  id : Option String
  name : String
  /-- The backend's name of the type. -/
  typeName : String
  default : Option String
  /-- What the backend says of the values that are allowed. -/
  values : Json
  deriving DecidableEq

namespace ParameterInfo

def type (p : ParameterInfo) : ParameterKind := .ofText p.typeName

/-- The pieces between commas. -/
def splitCommas (s : String) : List String :=
  go [] s.toList
where
  /-- Splits the rest of a text, the current piece being given last character first. -/
  go (piece : List Char) : List Char → List String
    | [] => [String.ofList piece.reverse]
    | ',' :: cs => String.ofList piece.reverse :: go [] cs
    | c :: cs => go (c :: piece) cs

/-- The values allowed: the items of a list as texts, or the pieces of a text between commas. -/
def choices (p : ParameterInfo) : List String :=
  match p.values with
  | .array items => items.map fun
    | .string s => s
    | v => Json.compact v
  | .string s => if s = "" then [] else splitCommas s
  | _ => []

/-- The text that an input starts with: the default, where an empty text and `0` count as none. -/
def initialText (p : ParameterInfo) : String :=
  match p.default with
  | none => ""
  | some s => if s = "0" then "" else s

def decoder : Json.Decoder ParameterInfo := fun levels s => do
  let f ← Json.Decoder.fields? ["id", "name", "type", "default", "values"] levels s
  return {
    id := ← f.withDefault "id" none (.optional .string)
    name := ← f.required "name" .string
    typeName := ← f.withDefault "type" "" .string
    default := ← f.withDefault "default" none (.optional .string)
    values := ← f.withDefault "values" .null .json }

def toJson (p : ParameterInfo) : Json :=
  .object [("id", .ofText? p.id), ("name", .string p.name), ("type", .string p.typeName),
    ("default", .ofText? p.default), ("values", p.values)]

end ParameterInfo

end NodeGroups.Document
