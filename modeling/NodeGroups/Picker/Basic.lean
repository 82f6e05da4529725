import NodeGroups.Picker.Placement
import NodeGroups.Search.Index
import NodeGroups.Search.Query

/-!
A text input with a list of suggestions. The list opens when the input gets the focus and follows
what is typed; a click on a suggestion selects it.

When the input loses the focus its text is cleared, unless a suggestion was clicked since the last
focus or keystroke. The list stays open, so a click that comes after the loss of focus still
selects, and a loss of focus that comes after the click keeps what was selected. Every keystroke
drops the selection, and only what is enabled in its dataset can be selected.
-/

set_option autoImplicit false

namespace NodeGroups

open Search (Suggestion Index)

namespace Picker

inductive Event
  | focus (box : Box) (scroll : Numeric.Binary)
  | keyUp (text : String)
  | click (id : String)
  | blur
  | outsideClick

/-- The stages of an input; a closed one shows no list. -/
inductive Stage
  | closed
  | querying
  | selected
  deriving DecidableEq

def Stage.name : Stage → String
  | .closed => "closed"
  | .querying => "querying"
  | .selected => "selected"

inductive Suggestions
  /-- There was no query yet. -/
  | empty
  | items (found : List Suggestion)
  | nothingFound
  deriving DecidableEq

namespace Suggestions

/-- What is shown in place of a list in which there is nothing. -/
def nothingFoundText : String := "Nothing found"

def ofResults (results : List Suggestion) : Suggestions :=
  if results.isEmpty then .nothingFound else .items results

def toList : Suggestions → List Suggestion
  | .items found => found
  | .empty | .nothingFound => []

def toJson : Suggestions → Json
  | .empty => .object [("kind", .string "empty")]
  | .items found =>
    .object [("kind", .string "items"), ("items", .ofList Suggestion.toJson found)]
  | .nothingFound => .object [("kind", .string "nothing_found")]

end Suggestions

/-- A suggestion that was selected: the record, and the text that it put into the input. -/
structure Selection where
  recordId : String
  label : String
  deriving DecidableEq

def Selection.toJson (s : Selection) : Json :=
  .object [("record_id", .string s.recordId), ("label", .string s.label)]

end Picker

structure Picker where
  dataset : String
  /-- The field whose text is shown and searched. -/
  field : String
  widthPad : Numeric.Binary
  stage : Picker.Stage
  focused : Bool
  /-- A suggestion was clicked since the last focus or keystroke. -/
  latched : Bool
  text : String
  selection : Option Picker.Selection
  placement : Option Picker.Placement
  list : Picker.Suggestions
  lastError : Option Failure
  deriving DecidableEq

namespace Picker

def onField (dataset field : String) (widthPad : Numeric.Binary) : Picker where
  dataset := dataset
  field := field
  widthPad := widthPad
  stage := .closed
  focused := false
  latched := false
  text := ""
  selection := none
  placement := none
  list := .empty
  lastError := none

def onName (dataset : String) (widthPad : Numeric.Binary) : Picker :=
  onField dataset "name" widthPad

def isOpen (p : Picker) : Bool := p.stage != .closed

def close (p : Picker) : Picker := { p with stage := .closed }

/-- Clears and closes an input whose selection has been used. -/
def clear (p : Picker) : Picker :=
  { p with text := "", selection := none, latched := false, stage := .closed }

/-- Fills the list with what a query finds. A query that is no pattern leaves the list as it was. -/
def relist (p : Picker) (query : String) (index : Index) (mode : PatternMode) : Picker :=
  match Search.find mode query p.field (index.records p.dataset) with
  | .ok results => { p with list := .ofResults results, lastError := none }
  | .error e => { p with lastError := some e }

/-- The listed suggestion of a record, if the list is shown and the record is enabled. -/
def offered? (p : Picker) (id : String) (index : Index) : Option Suggestion :=
  if p.isOpen && (index.records p.dataset).any (fun r => r.id == id && r.isEnabled) then
    p.list.toList.find? fun s => s.recordId == id
  else none

def select (p : Picker) (s : Suggestion) : Picker :=
  { p with
    text := s.label
    selection := some ⟨s.recordId, s.label⟩
    latched := true
    stage := .selected }

def onFocus (p : Picker) (box : Box) (scroll : Numeric.Binary) (index : Index)
    (mode : PatternMode) : Picker :=
  { p with
    focused := true
    latched := false
    stage := .querying
    placement := some (.below box scroll p.widthPad) }.relist "" index mode

def onKeyUp (p : Picker) (text : String) (index : Index) (mode : PatternMode) : Picker :=
  let p := { p with latched := false, selection := none, text }
  if p.stage = .closed then p else { p with stage := .querying }.relist text index mode

def onBlur (p : Picker) : Picker :=
  let cleared : Picker :=
    if p.focused && !p.latched then
      { p with
        text := ""
        selection := none
        stage := if p.stage = .selected then .querying else p.stage }
    else p
  { cleared with focused := false, latched := false }

/-- Applies an event. A click on a suggestion that is offered gives the selection. -/
def apply (p : Picker) (event : Event) (index : Index) (mode : PatternMode) :
    Picker × Option Selection :=
  match event with
  | .focus box scroll => (p.onFocus box scroll index mode, none)
  | .keyUp text => (p.onKeyUp text index mode, none)
  | .click id =>
    match p.offered? id index with
    | some s => (p.select s, some ⟨s.recordId, s.label⟩)
    | none => (p, none)
  | .blur => (p.onBlur, none)
  | .outsideClick => (p.close, none)

end Picker

end NodeGroups
