import NodeGroups.Document.Classification
import NodeGroups.Yaml.Value

set_option autoImplicit false

namespace NodeGroups.Document.Classification

open Yaml (Node Decoding)

/-- A field that may be left out or be absent. -/
def yamlField {α : Type} (d : Yaml.Document) (fields : List (String × Node)) (key : String)
    (f : Node → Decoding α) : Decoding (Option α) :=
  match fields.lookup key with
  | none => return none
  | some n => d.optional f n

def decodeYaml (d : Yaml.Document) : Decoding Classification := do
  let depth := Yaml.Document.maxDepth - 1
  let fields ← d.fields ["classes", "parameters", "environment"]
    (← d.entries Yaml.Document.maxDepth d.root)
  let parameters := fun (depth : Nat) (n : Node) => d.map depth d.json n
  return {
    classes := ← yamlField d fields "classes"
      (d.map depth fun depth n => d.optional (parameters depth) n)
    parameters := ← yamlField d fields "parameters" (parameters depth)
    environment := ← yamlField d fields "environment" d.text }

/-- The classification that a text is, if it is one. -/
def ofYaml? (text : String) : Option Classification := do
  let d ← Yaml.Document.parse? text
  let (c, _) ← (decodeYaml d).run (d.events * Yaml.Document.aliasesPerEvent)
  return c

end NodeGroups.Document.Classification
