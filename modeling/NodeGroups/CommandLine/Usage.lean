import NodeGroups.CommandLine.Command

set_option autoImplicit false

namespace NodeGroups.CommandLine

/-- Why there is nothing to run. -/
inductive Usage
  | help
  | version
  /-- A place that needs a command was reached with nothing else given. -/
  | helpForLackOfArguments
  /-- An option lacks its value, or an argument has one that it does not admit. -/
  | invalidValue
  /-- No such option or switch, or an operand too many. -/
  | unknownArgument
  | unknownCommand
  | missingCommand
  | missingArgument
  /-- An option or a switch was given twice. -/
  | repeatedArgument
  /-- A switch was given a value. -/
  | surplusValue
  deriving DecidableEq

/-- Which values an argument admits. -/
inductive Admission
  | any
  | nonempty
  | oneOf (names : List String)
  deriving DecidableEq

def Admission.admits : Admission → String → Bool
  | .any, _ => true
  | .nonempty, value => value != ""
  | .oneOf names, value => names.contains value

/-- An option or an operand. -/
structure Argument where
  name : String
  admission : Admission := .any
  /-- An operand that takes words which look like an option, if there is no such option. -/
  takesHyphens : Bool := false
  deriving DecidableEq

inductive Switch
  | help
  | version
  | rawPatterns
  deriving DecidableEq

/-- The places of the tree of commands. -/
inductive Place
  | program
  | search
  | classes
  | showClasses
  | rules
  | showRules
  | pin
  | unpin
  | groupVariables
  | showVariables
  | setVariable
  | unsetVariable
  | sync
  | classify
  deriving DecidableEq

inductive Branch
  | place (p : Place)
  | help
  deriving DecidableEq

namespace Place

def commands : Place → List (String × Place)
  | .program =>
    [("search", .search), ("classes", .classes), ("rules", .rules), ("variables", .groupVariables),
      ("sync", .sync), ("classify", .classify)]
  | .classes => [("show", .showClasses)]
  | .rules => [("show", .showRules), ("pin", .pin), ("unpin", .unpin)]
  | .groupVariables => [("show", .showVariables), ("set", .setVariable), ("unset", .unsetVariable)]
  | _ => []

def isBranching (p : Place) : Bool := !p.commands.isEmpty

def branch? (p : Place) (name : String) : Option Branch :=
  if p.isBranching && name == "help" then some .help else (p.commands.lookup name).map .place

def options : Place → List Argument
  | .program =>
    [{ name := "config", admission := .nonempty }, { name := "base-url" }, { name := "csrf-token" }]
  | .search => [{ name := "environment" }, { name := "master-zone" }]
  | .showClasses => [{ name := "environment" }]
  | .pin => [{ name := "master-zone" }]
  | .sync => [{ name := "label" }]
  | .classify => [{ name := "master-id" }]
  | _ => []

def operands : Place → List Argument
  | .search =>
    [{ name := "dataset", admission := .oneOf (Dataset.names.map (·.1)) },
      { name := "query", takesHyphens := true }]
  | .showClasses | .showRules | .showVariables => [{ name := "group" }]
  | .pin | .unpin => [{ name := "group" }, { name := "certname" }]
  | .setVariable =>
    [{ name := "group" }, { name := "key" }, { name := "value", takesHyphens := true }]
  | .unsetVariable => [{ name := "group" }, { name := "key" }]
  | .sync => [{ name := "master" }]
  | .classify => [{ name := "certname" }]
  | _ => []

def switches : Place → List (String × Switch)
  | .program => [("help", .help), ("version", .version), ("raw-patterns", .rawPatterns)]
  | _ => [("help", .help)]

def letters : Place → List (Char × Switch)
  | .program => [('h', .help), ('V', .version)]
  | _ => [('h', .help)]

def option? (p : Place) (name : String) : Option Argument :=
  p.options.find? fun a => a.name == name

/-- What a call for help at a place gives, for the commands named after it. -/
def helpOn : Place → List String → Usage
  | _, [] => .help
  | p, name :: rest =>
    match p.branch? name with
    | none => .unknownCommand
    | some (.place q) => helpOn q rest
    | some .help => if rest.isEmpty then .help else .unknownCommand

end Place

end NodeGroups.CommandLine
