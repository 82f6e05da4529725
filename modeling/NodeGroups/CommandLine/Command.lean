import NodeGroups.Search.Index

set_option autoImplicit false

namespace NodeGroups.CommandLine

inductive Dataset
  | classes
  | nodes
  | facts
  deriving DecidableEq

namespace Dataset

def key : Dataset → String
  | .classes => Search.classesKey
  | .nodes => Search.certnameKey
  | .facts => Search.factsKey

def field : Dataset → String
  | .nodes => "certname"
  | .classes | .facts => "name"

/-- The names of the datasets on the command line: their keys, and one more for the nodes. -/
def names : List (String × Dataset) :=
  [(Search.classesKey, .classes), (Search.certnameKey, .nodes), ("nodes", .nodes),
    (Search.factsKey, .facts)]

end Dataset

inductive Command
  | search (dataset : Dataset) (query : String) (environment masterZone : Option String)
  | showClasses (group : String) (environment : Option String)
  | showRules (group : String)
  | pin (group certname : String) (masterZone : Option String)
  | unpin (group certname : String)
  | showVariables (group : String)
  /-- Gives a variable of a group a value, in place of every value that it had. -/
  | setVariable (group key value : String)
  | unsetVariable (group key : String)
  /-- Starts the synchronisation of a master zone, which is shown by a label or else by its
  identifier. -/
  | sync (masterId : String) (label : Option String)
  | classify (certname masterId : String)
  deriving DecidableEq

/-- The flags before a command; they override the settings. -/
structure Flags where
  file : Option String
  baseUrl : Option String
  csrfToken : Option String
  /-- Search queries are patterns. -/
  rawPatterns : Bool
  deriving DecidableEq

structure Invocation where
  flags : Flags
  command : Command
  deriving DecidableEq

end NodeGroups.CommandLine
