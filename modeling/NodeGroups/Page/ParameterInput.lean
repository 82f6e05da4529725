import NodeGroups.Document.Parameter
import NodeGroups.Failure
import NodeGroups.Text.Digit

set_option autoImplicit false

namespace NodeGroups.Page

open Document (ParameterInfo ParameterKind)

inductive InputKind
  | textArea
  | select
  | number
  | floatText
  | text
  deriving DecidableEq

namespace InputKind

def ofKind : ParameterKind → InputKind
  | .hash | .array => .textArea
  | .boolean | .enumeration => .select
  | .integer => .number
  | .float => .floatText
  | .other => .text

def name : InputKind → String
  | .textArea => "text_area"
  | .select => "select"
  | .number => "number"
  | .floatText => "float_text"
  | .text => "text"

/-- Keeps the digits and, unless one was seen (`dotSeen`), the first dot. -/
def keepDecimal : (dotSeen : Bool) → List Char → List Char
  | _, [] => []
  | dotSeen, c :: cs =>
    if Text.isDigit c then c :: keepDecimal dotSeen cs
    else if c = '.' ∧ !dotSeen then c :: keepDecimal true cs
    else keepDecimal dotSeen cs

/-- Drops what an input does not accept: a number keeps its digits, a float its digits and its first
dot, and all other inputs take any text. -/
def sanitize : InputKind → String → String
  | .number, raw => String.ofList (raw.toList.filter Text.isDigit)
  | .floatText, raw => String.ofList (keepDecimal false raw.toList)
  | _, raw => raw

end InputKind

/-- An input, the name of the type that it shows, and the choices of a select. -/
structure InputField where
  kind : InputKind
  typeLabel : String
  choices : List String
  deriving DecidableEq

/-- An input as a document; without choices there is no member for them. -/
def InputField.toJson (w : InputField) : Json :=
  .object <| [("kind", .string w.kind.name), ("type_label", .string w.typeLabel)] ++
    if w.choices.isEmpty then [] else [("choices", .ofList .string w.choices)]

/-- A parameter that can be chosen, unless it is disabled. -/
structure ParameterChoice where
  info : ParameterInfo
  disabled : Bool
  deriving DecidableEq

def ParameterChoice.toJson (o : ParameterChoice) : Json :=
  .object [("spec", o.info.toJson), ("disabled", .bool o.disabled)]

/-- The form that adds a parameter to a class. A parameter that is in use cannot be chosen again
until it is freed. -/
structure ParameterInput where
  options : List ParameterChoice
  selected : Option String
  field : Option InputField
  value : String
  deriving DecidableEq

namespace ParameterInput

/-- A form with nothing chosen; the options named in `used` are disabled. -/
def ofParameters (infos : List ParameterInfo) (used : List String) : ParameterInput :=
  ⟨infos.map fun s => ⟨s, used.contains s.name⟩, none, none, ""⟩

/-- The input of a parameter, and the value it starts with. A select starts with the default when
that is among its choices and otherwise with its first choice. -/
def fieldFor (info : ParameterInfo) : InputField × String :=
  let kind := InputKind.ofKind info.type
  let choices := if kind = .select then info.choices else []
  let value :=
    if kind = .select ∧ !choices.contains info.initialText then choices.headD ""
    else kind.sanitize info.initialText
  (⟨kind, info.typeName, choices⟩, value)

/-- Chooses a parameter by name and shows its input; an empty name chooses none. -/
def choose (form : ParameterInput) (name : String) : Except Failure ParameterInput :=
  if name = "" then .ok { form with selected := none, field := none, value := "" }
  else
    match form.options.find? (fun o => o.info.name == name) with
    | none => .error (.notFound ("parameter " ++ name))
    | some option =>
      if option.disabled then .error (.validation ("parameter " ++ name ++ " is already set"))
      else
        let (field, value) := fieldFor option.info
        .ok { form with selected := some name, field := some field, value }

/-- Takes what was typed, less what the input does not accept. -/
def enter (form : ParameterInput) (raw : String) : ParameterInput :=
  { form with value := match form.field with
    | some field => field.kind.sanitize raw
    | none => "" }

/-- Whether a parameter with its value can be added. -/
def isComplete (form : ParameterInput) : Bool := form.selected.isSome && form.value != ""

/-- Disables or enables the options with a name. -/
def setDisabled (form : ParameterInput) (name : String) (disabled : Bool) : ParameterInput :=
  { form with options := form.options.map fun o =>
      if o.info.name == name then { o with disabled } else o }

/-- Takes the parameter and value out of the form and disables the parameter. -/
def take (form : ParameterInput) : Except Failure ((String × String) × ParameterInput) :=
  match form.selected, form.value != "" with
  | some name, true =>
    .ok ((name, form.value),
      { form with selected := none, field := none, value := "" }.setDisabled name true)
  | _, _ => .error (.validation "select a parameter and enter a value")

/-- Makes a parameter available again. -/
def free (form : ParameterInput) (name : String) : ParameterInput := form.setDisabled name false

def available (form : ParameterInput) : List String :=
  (form.options.filter (!·.disabled)).map (·.info.name)

def toJson (form : ParameterInput) : Json :=
  .object [("options", .ofList ParameterChoice.toJson form.options),
    ("selected", .ofText? form.selected), ("widget", .ofOption InputField.toJson form.field),
    ("value", .string form.value)]

end ParameterInput

end NodeGroups.Page
