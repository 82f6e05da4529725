import NodeGroups.Json.Decoder
import NodeGroups.Json.Printer

set_option autoImplicit false

namespace NodeGroups.Document

/-- The value of one parameter: the structured value, and the text it was entered as. -/
structure AssignedParameter where
  parameter : String
  value : Json
  rawValue : String
  deriving DecidableEq

namespace AssignedParameter

/-- The text shown for a value: a string is its own, structured values are printed over several
lines, and without a value the entered text stands. -/
def shownValue (a : AssignedParameter) : String :=
  match a.value with
  | .string s => s
  | .null => a.rawValue
  | v@(.array _) => Json.pretty v
  | v@(.object _) => Json.pretty v
  | v => Json.compact v

def decoder : Json.Decoder AssignedParameter := fun levels s => do
  let f ← Json.Decoder.fields? ["parameter", "value", "raw_value"] levels s
  return {
    parameter := ← f.required "parameter" .string
    value := ← f.withDefault "value" .null .json
    rawValue := ← f.withDefault "raw_value" "" .string }

def toJson (a : AssignedParameter) : Json :=
  .object [("parameter", .string a.parameter), ("value", a.value),
    ("raw_value", .string a.rawValue)]

end AssignedParameter

/-- A class assigned to a group, with its parameters. -/
structure AssignedClass where
  className : String
  parameters : List AssignedParameter
  deriving DecidableEq

namespace AssignedClass

def decoder : Json.Decoder AssignedClass := fun levels s => do
  let f ← Json.Decoder.fields? ["puppet_class", "parameters"] levels s
  return {
    className := ← f.required "puppet_class" .string
    parameters := ← f.withDefault "parameters" []
      (.orNull [] (.list AssignedParameter.decoder)) }

def toJson (a : AssignedClass) : Json :=
  .object [("puppet_class", .string a.className),
    ("parameters", .ofList AssignedParameter.toJson a.parameters)]

end AssignedClass

structure Configuration where
  classes : List AssignedClass
  deriving DecidableEq

namespace Configuration

/-- Reads a configuration; `null` for the classes is the empty list. -/
def decoder : Json.Decoder Configuration := fun levels s => do
  let f ← Json.Decoder.fields? ["classes"] levels s
  return { classes := ← f.withDefault "classes" [] (.orNull [] (.list AssignedClass.decoder)) }

def toJson (c : Configuration) : Json :=
  .object [("classes", .ofList AssignedClass.toJson c.classes)]

end Configuration

end NodeGroups.Document
