import NodeGroups.Page.ParameterInput
import NodeGroups.Page.Rows
import NodeGroups.Page.Shape
import NodeGroups.Picker.Basic

set_option autoImplicit false

namespace NodeGroups.Page

open Backend (Session)
open Document (AssignedClass Configuration AssignedParameter ParameterInfo)
open Search (Index Record)

structure ClassPanel where
  /-- The identifier of the class, if the backend knows it. -/
  classId : Option String
  name : String
  form : ParameterInput
  rows : Rows Row

namespace ClassPanel

def row (parameter value : String) : Row :=
  .ofFields [("parameter", parameter), ("value", value)]

def parameterOf (r : Row) : String := r.get "parameter"

def valueOf (r : Row) : String := r.get "value"

/-- What a row says, as a part of a document: the text is both the value and what was entered. -/
def assignedParameter (r : Row) : AssignedParameter :=
  ⟨parameterOf r, .string (valueOf r), valueOf r⟩

/-- What a panel says, as a part of a document. -/
def assigned (b : ClassPanel) : AssignedClass :=
  ⟨b.name, b.rows.toList.map assignedParameter⟩

/-- The panel of an assigned class. Its parameters with a value cannot be added again. -/
def ofAssigned (classId : Option String) (infos : List ParameterInfo) (a : AssignedClass) :
    ClassPanel where
  classId := classId
  name := a.className
  form := .ofParameters infos (a.parameters.map (·.parameter))
  rows := Rows.empty.append (a.parameters.map fun p => row p.parameter p.shownValue)

def ofSelection (s : Picker.Selection) (infos : List ParameterInfo) : ClassPanel :=
  ⟨some s.recordId, s.label, .ofParameters infos [], .empty⟩

def toJson (b : ClassPanel) : Json :=
  .object [("class_id", .ofText? b.classId), ("name", .string b.name), ("form", b.form.toJson),
    ("rows", b.rows.toJson Row.toJson)]

end ClassPanel

/-- The classes page of a group. A class that has a panel is disabled among the suggestions until
the panel is removed. -/
structure ClassesPage where
  group : String
  environment : Option String
  index : Index
  mode : PatternMode
  picker : Picker
  panels : Rows ClassPanel
  status : Status

namespace ClassesPage

def new (group : String) (environment : Option String) (settings : Settings) : ClassesPage where
  group := group
  environment := environment
  index := .empty
  mode := settings.patternMode
  picker := .onName Search.classesKey settings.listWidthPad
  panels := .empty
  status := .initial

def updatedMessage : String := "Classes successfully updated!"

def showFailure (page : ClassesPage) : ClassesPage :=
  { page with status := page.status.announce .danger Failure.generalMessage }

/-- Turns the class of a name on or off among the suggestions. -/
def setClass (page : ClassesPage) (name : String) (state : Search.Activation) : ClassesPage :=
  { page with index := (page.index.setStateWhere Search.classesKey "name" name state).1 }

/-- The parameters of a class. If they cannot be fetched there are none, and the page shows that. -/
def fetchParameters (page : ClassesPage) (classId : String) (s : Session) :
    (List ParameterInfo × ClassesPage) × Session :=
  match (Backend.parametersOf classId).run.run s with
  | (.ok infos, s) => ((infos, page), s)
  | (.error _, s) => (([], page.showFailure), s)

def loadAssigned (p : ClassesPage × Session) (a : AssignedClass) :
    ClassesPage × Session :=
  let (page, s) := p
  let page := page.setClass a.className .disabled
  let classId := (page.index.first? Search.classesKey "name" a.className).map Record.id
  let ((infos, page), s) := match classId with
    | some id => page.fetchParameters id s
    | none => (([], page), s)
  ({ page with panels := page.panels.push (.ofAssigned classId infos a) }, s)

/-- Loads the classes that can be picked, then the configuration of the group and the parameters of
its classes. Without a configuration the panels stay as they were. -/
def load (page : ClassesPage) (s : Session) : ClassesPage × Session :=
  let (classes, s) := (Backend.classes page.environment).run.run s
  let page := { page with
    status := page.status.startLoading
    index := page.index.load Search.classesKey (classes.toOption.getD []) }
  match (Backend.configurationOf page.group).run.run s with
  | (.error _, s) => ({ page.showFailure with status := page.showFailure.status.endLoading }, s)
  | (.ok configuration, s) =>
    let (page, s) := configuration.classes.foldl loadAssigned
      ({ page with panels := page.panels.clear }, s)
    ({ page with status := page.status.endLoading }, s)

def onPicker (page : ClassesPage) (event : Picker.Event) :
    Option Picker.Selection × ClassesPage :=
  let (picker, selection) := page.picker.apply event page.index page.mode
  (selection, { page with picker })

def hasPick (page : ClassesPage) : Bool := page.picker.selection.isSome

/-- Adds a panel for the picked class, once its parameters were fetched. -/
def addPanel (page : ClassesPage) (s : Session) :
    Except Failure Handle × ClassesPage × Session :=
  match page.picker.selection with
  | none => (.error (.validation "pick a class from the suggestions first"), page, s)
  | some selection =>
    match (Backend.parametersOf selection.recordId).run.run s with
    | (.error failure, s) => (.error failure, page.showFailure, s)
    | (.ok infos, s) =>
      let page := page.setClass selection.label .disabled
      (.ok page.panels.next,
        { page with
          panels := page.panels.push (.ofSelection selection infos)
          status := page.status.markEdited
          picker := page.picker.clear },
        s)

/-- Removes a panel; its class can be picked again. -/
def removePanel (page : ClassesPage) (panel : Handle) : Option ClassPanel × ClassesPage :=
  match page.panels.get? panel with
  | none => (none, page)
  | some b =>
    let page := page.setClass b.name .enabled
    (some b, { page with panels := page.panels.erase panel, status := page.status.markEdited })

def panel? (page : ClassesPage) (panel : Handle) : Except Failure ClassPanel :=
  match page.panels.get? panel with
  | some b => .ok b
  | none => .error (.notFound "class block")

/-- Changes a panel by an operation that may be refused, and then changes nothing. -/
def onPanel {α : Type} (page : ClassesPage) (panel : Handle)
    (f : ClassPanel → Except Failure (α × ClassPanel)) : Except Failure α × ClassesPage :=
  match page.panel? panel >>= f with
  | .error failure => (.error failure, page)
  | .ok (a, b) => (.ok a, { page with panels := page.panels.modify panel fun _ => b })

/-- Marks the page as edited if an operation was not refused. -/
def editedIfOk {α : Type} (r : Except Failure α × ClassesPage) :
    Except Failure α × ClassesPage :=
  match r with
  | (.ok a, page) => (.ok a, { page with status := page.status.markEdited })
  | (.error failure, page) => (.error failure, page)

def chooseParameter (page : ClassesPage) (panel : Handle) (name : String) :
    Except Failure Unit × ClassesPage :=
  page.onPanel panel fun b => do
    return ((), { b with form := ← b.form.choose name })

/-- Takes what was typed into the form of a panel, and gives what the input then shows. -/
def typeValue (page : ClassesPage) (panel : Handle) (raw : String) :
    Except Failure String × ClassesPage :=
  page.onPanel panel fun b =>
    let form := b.form.enter raw
    .ok (form.value, { b with form })

/-- Adds the parameter in the form of a panel to its rows. -/
def addRow (page : ClassesPage) (panel : Handle) : Except Failure Handle × ClassesPage :=
  editedIfOk <| page.onPanel panel fun b => do
    let ((name, value), form) ← b.form.take
    return (b.rows.next, { b with form, rows := b.rows.push (ClassPanel.row name value) })

/-- Removes a row of a panel; its parameter can be added again. -/
def removeRow (page : ClassesPage) (panel row : Handle) :
    Except Failure Unit × ClassesPage :=
  editedIfOk <| page.onPanel panel fun b =>
    match b.rows.get? row with
    | none => .error (.notFound "parameter row")
    | some r =>
      .ok ((), { b with
        rows := b.rows.erase row
        form := b.form.free (ClassPanel.parameterOf r) })

def document (page : ClassesPage) : Configuration := ⟨page.panels.toList.map ClassPanel.assigned⟩

/-- What the page shares with the others. After a failure it says only that there is one, and the
commit can be tried again at once. -/
def shape : Shape ClassesPage Configuration where
  status page := page.status
  withStatus page status := { page with status }
  document := document
  replace page := Backend.replaceConfiguration page.group
  updated := updatedMessage
  refusal _ := Failure.generalMessage
  rearm := true
  withStatus_status _ := rfl
  status_withStatus _ _ := rfl
  withStatus_withStatus _ _ _ := rfl
  document_withStatus _ _ := rfl

/-- Begins a commit and gives the document to be written. -/
def startCommit (page : ClassesPage) : Except Failure Configuration × ClassesPage :=
  shape.startCommit page

def endCommit (page : ClassesPage) (outcome : Except Failure Unit) : ClassesPage :=
  shape.endCommit page outcome

def commit (page : ClassesPage) (s : Session) : Except Failure Unit × ClassesPage × Session :=
  shape.commit page s

def closeLists (page : ClassesPage) : ClassesPage := { page with picker := page.picker.close }

def hideBanner (page : ClassesPage) : ClassesPage := shape.hideBanner page

end ClassesPage

end NodeGroups.Page
