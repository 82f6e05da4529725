import NodeGroups.Failure
import NodeGroups.Json.Decoder
import NodeGroups.Text.Blank

set_option autoImplicit false

namespace NodeGroups.Document

/-- Whether all conditions must hold or one suffices. -/
inductive Quantifier
  | all
  | any
  deriving DecidableEq, Inhabited

namespace Quantifier

def name : Quantifier → String
  | .all => "ALL"
  | .any => "ANY"

/-- Reads a name, in any case and with blanks around it. -/
def ofText (raw : String) : Except Failure Quantifier :=
  let word := (Text.trim raw).toUpper
  if word = "ALL" then .ok .all
  else if word = "ANY" then .ok .any
  else .error (.validation ("invalid match type: " ++ word ++ " (expected ALL|ANY)"))

def decoder : Json.Decoder Quantifier := .variant [("ALL", .all), ("ANY", .any)]

end Quantifier

/-- How a condition compares a fact with its value. -/
inductive Operator
  | equals
  | notEqual
  | matching
  | notMatching
  | greaterThan
  | greaterOrEqual
  | lessThan
  | lessOrEqual
  deriving DecidableEq, Inhabited

namespace Operator

def sign : Operator → String
  | .equals => "="
  | .notEqual => "!="
  | .matching => "~"
  | .notMatching => "!~"
  | .greaterThan => ">"
  | .greaterOrEqual => ">="
  | .lessThan => "<"
  | .lessOrEqual => "<="

def all : List Operator :=
  [.equals, .notEqual, .matching, .notMatching, .greaterThan, .greaterOrEqual, .lessThan,
    .lessOrEqual]

/-- Reads a sign with blanks around it. -/
def ofText (raw : String) : Except Failure Operator :=
  let word := Text.trim raw
  match all.find? (fun o => o.sign = word) with
  | some o => .ok o
  | none => .error (.validation ("unknown rule operator: " ++ word))

def decoder : Json.Decoder Operator := .variant (all.map fun o => (o.sign, o))

end Operator

structure Condition where
  fact : String
  operator : Operator
  value : String
  deriving DecidableEq

namespace Condition

def decoder : Json.Decoder Condition := fun levels s => do
  let f ← Json.Decoder.fields? ["fact", "operator", "value"] levels s
  return {
    fact := ← f.required "fact" .string
    operator := ← f.required "operator" Operator.decoder
    value := ← f.required "value" .string }

def toJson (r : Condition) : Json :=
  .object [("fact", .string r.fact), ("operator", .string r.operator.sign),
    ("value", .string r.value)]

end Condition

structure Rules where
  quantifier : Quantifier
  conditions : List Condition
  nodes : List String
  deriving DecidableEq

namespace Rules

def empty : Rules := ⟨.all, [], []⟩

/-- Reads a rules document; `null` for a list is the empty list. -/
def decoder : Json.Decoder Rules := fun levels s => do
  let f ← Json.Decoder.fields? ["match_type", "facts", "nodes"] levels s
  return {
    quantifier := ← f.withDefault "match_type" .all Quantifier.decoder
    conditions := ← f.withDefault "facts" [] (.orNull [] (.list Condition.decoder))
    nodes := ← f.withDefault "nodes" [] (.orNull [] (.list .string)) }

def toJson (r : Rules) : Json :=
  .object [("match_type", .string r.quantifier.name),
    ("facts", .ofList Condition.toJson r.conditions), ("nodes", .ofList .string r.nodes)]

end Rules

end NodeGroups.Document
