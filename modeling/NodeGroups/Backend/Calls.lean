import NodeGroups.Backend.Session
import NodeGroups.Document.Configuration
import NodeGroups.Document.Environment
import NodeGroups.Document.Parameter
import NodeGroups.Document.Rules
import NodeGroups.Document.Variables
import NodeGroups.Search.Record
import NodeGroups.Yaml.Classification

set_option autoImplicit false

namespace NodeGroups.Backend

open Document (Classification Configuration Environment ParameterInfo Rules Variables)
open Search (Record)

def memberPath (collection id : String) : String :=
  String.ofList (Text.dropEndWhile (· == '/') collection.toList) ++ "/" ++ id ++ "/"

/-- Query parameters with a value that may be absent. -/
def queryOf (key : String) (value : Option String) : List (String × String) :=
  match value with
  | some v => [(key, v)]
  | none => []

def fetch {α : Type} (operation path : String) (query : List (String × String))
    (decoder : Json.Decoder α) : Call α := do
  let body ← send operation .get path query none
  match decoder.ofText? body with
  | some a => return a
  | none => throw .json

def write (operation : String) (method : Method) (path : String) (body : Json) : Call Unit := do
  discard (send operation method path [] (some body))

/-- Fetches the records of a dataset; one that is no record fails. -/
def fetchDataset (operation path : String) (query : List (String × String))
    (labelField : String) : Call (List Record) := do
  let entries ← fetch operation path query (.list .json)
  match entries.mapM fun entry => Record.ofJson entry labelField with
  | .ok records => return records
  | .error e => throw e

def paths : Call Paths := do
  return (← get).settings.paths

def classes (environment : Option String) : Call (List Record) := do
  fetchDataset "classes.list" (← paths).classes
    (queryOf "environment" environment) "name"

def nodes (masterZone : Option String) : Call (List Record) := do
  fetchDataset "nodes.list" (← paths).nodes (queryOf "master_zone" masterZone)
    "certname"

def facts (masterZone : Option String) : Call (List Record) := do
  fetchDataset "facts.list" (← paths).facts (queryOf "master_zone" masterZone) "name"

def parametersOf (classId : String) : Call (List ParameterInfo) := do
  fetch "parameters.list" (← paths).parameters [("puppet_class", classId)]
    (.list ParameterInfo.decoder)

def environmentsOf (masterZone : String) : Call (List Environment) := do
  let all ← fetch "environments.list" (← paths).environments [] (.list Environment.decoder)
  return all.filter fun e => e.masterZone == masterZone

def configurationOf (group : String) : Call Configuration := do
  fetch "configuration.get" (memberPath (← paths).configuration group) []
    Configuration.decoder

def replaceConfiguration (group : String) (c : Configuration) : Call Unit := do
  write "configuration.put" .put (memberPath (← paths).configuration group) c.toJson

def rulesOf (group : String) : Call Rules := do
  fetch "rules.get" (memberPath (← paths).rules group) [] Rules.decoder

def replaceRules (group : String) (r : Rules) : Call Unit := do
  write "rules.put" .put (memberPath (← paths).rules group) r.toJson

def variablesOf (group : String) : Call Variables := do
  fetch "variables.get" (memberPath (← paths).groupVariables group) [] Variables.decoder

def replaceVariables (group : String) (v : Variables) : Call Unit := do
  write "variables.put" .put (memberPath (← paths).groupVariables group) v.toJson

def synchronize (masterId : String) : Call Unit := do
  write "master_zone.refresh" .post (← paths).synchronization
    (.object [("master_id", .string masterId)])

/-- How a node is classified; a blank answer says nothing of it. -/
def classificationOf (certname masterId : String) : Call Classification := do
  let body ← send "nodes.classifier" .get (← paths).classification
    [("certname", certname), ("master_id", masterId)] none
  if Text.isBlankText body then return .empty
  match Classification.ofYaml? body with
  | some c => return c
  | none => throw .yaml

end NodeGroups.Backend
