import NodeGroups.Page.Rows
import NodeGroups.Page.Shape
import NodeGroups.Picker.Basic

set_option autoImplicit false

namespace NodeGroups.Page

open Backend (Session)
open Document (Condition Quantifier Operator Rules)
open Search (Index)

/-- The rules page of a group. A node that is pinned is disabled among the suggestions until it is
unpinned. -/
structure RulesPage where
  group : String
  masterZone : Option String
  index : Index
  mode : PatternMode
  factInput : Picker
  operator : Option Operator
  value : String
  nodeInput : Picker
  quantifier : Quantifier
  conditions : Rows Condition
  pinned : Rows Row
  status : Status

namespace RulesPage

def new (group : String) (masterZone : Option String) (settings : Settings) : RulesPage where
  group := group
  masterZone := masterZone
  index := .empty
  mode := settings.patternMode
  factInput := .onName Search.factsKey settings.listWidthPad
  operator := none
  value := ""
  nodeInput := .onField Search.certnameKey "certname" settings.listWidthPad
  quantifier := .all
  conditions := .empty
  pinned := .empty
  status := .initial

def updatedMessage : String := "Rules successfully updated!"

def nodeRow (certname : String) : Row := .ofFields [("node", certname)]

def nodeOf (r : Row) : String := r.get "node"

/-- Turns a node on or off among the suggestions. -/
def setNode (index : Index) (certname : String) (state : Search.Activation) : Index :=
  (index.setStateWhere Search.certnameKey "certname" certname state).1

/-- The index with a dataset of nodes in which the given ones are disabled. -/
def loadNodes (index : Index) (records : List Search.Record) (pinned : List String) : Index :=
  pinned.foldl (fun index node => setNode index node .disabled)
    (index.load Search.certnameKey records)

def showDocument (page : RulesPage) (d : Rules) : RulesPage :=
  { page with
    quantifier := d.quantifier
    conditions := page.conditions.clear.append d.conditions
    pinned := page.pinned.clear.append (d.nodes.map nodeRow) }

/-- Loads the rules of the group and with them the nodes that can be pinned, and then the facts.
Without rules the page and the nodes stay as they were. -/
def load (page : RulesPage) (s : Session) : RulesPage × Session :=
  let loading := { page with status := page.status.startLoading }
  let (page, s) := match (Backend.rulesOf page.group).run.run s with
    | (.ok d, s) =>
      let (nodes, s) := (Backend.nodes page.masterZone).run.run s
      let page := loading.showDocument d
      ({ page with index := loadNodes page.index (nodes.toOption.getD []) d.nodes }, s)
    | (.error _, s) =>
      ({ loading with status := loading.status.announce .danger Failure.generalMessage }, s)
  let (facts, s) := (Backend.facts page.masterZone).run.run s
  ({ page with
      status := page.status.endLoading
      index := page.index.load Search.factsKey (facts.toOption.getD []) }, s)

def onFactInput (page : RulesPage) (event : Picker.Event) : Option Picker.Selection × RulesPage :=
  let (factInput, selection) := page.factInput.apply event page.index page.mode
  (selection, { page with factInput })

def chooseOperator (page : RulesPage) (operator : Option Operator) : RulesPage :=
  { page with operator }

def typeValue (page : RulesPage) (value : String) : RulesPage := { page with value }

/-- The condition that was entered, if fact, operator and value are all there. -/
def enteredCondition? (page : RulesPage) : Option Condition :=
  match page.operator with
  | none => none
  | some operator =>
    if page.factInput.text = "" ∨ page.value = "" then none
    else some ⟨page.factInput.text, operator, page.value⟩

def hasEntry (page : RulesPage) : Bool := page.enteredCondition?.isSome

/-- Adds the condition that was entered, and clears its fact and value. -/
def addCondition (page : RulesPage) : Except Failure Handle × RulesPage :=
  match page.enteredCondition? with
  | none => (.error (.validation "fact, operator and value are required"), page)
  | some condition =>
    (.ok page.conditions.next,
      { page with
        conditions := page.conditions.push condition
        factInput := page.factInput.clear
        value := ""
        status := page.status.markEdited })

def removeCondition (page : RulesPage) (row : Handle) : Except Failure Unit × RulesPage :=
  match page.conditions.get? row with
  | none => (.error (.notFound "rule row"), page)
  | some _ =>
    (.ok (),
      { page with
        conditions := page.conditions.erase row
        status := page.status.markEdited })

def onNodeInput (page : RulesPage) (event : Picker.Event) : Option Picker.Selection × RulesPage :=
  let (nodeInput, selection) := page.nodeInput.apply event page.index page.mode
  (selection, { page with nodeInput })

def hasPick (page : RulesPage) : Bool := page.nodeInput.selection.isSome

def pin (page : RulesPage) : Except Failure Handle × RulesPage :=
  match page.nodeInput.selection with
  | none => (.error (.validation "pick a node from the suggestions first"), page)
  | some selection =>
    (.ok page.pinned.next,
      { page with
        index := setNode page.index selection.label .disabled
        pinned := page.pinned.push ((nodeRow selection.label).madeFrom selection.recordId)
        nodeInput := page.nodeInput.clear
        status := page.status.markEdited })

/-- Unpins a node; it can be picked again. -/
def unpin (page : RulesPage) (row : Handle) : Except Failure Unit × RulesPage :=
  match page.pinned.get? row with
  | none => (.error (.notFound "pinned node"), page)
  | some r =>
    (.ok (),
      { page with
        index := setNode page.index (nodeOf r) .enabled
        pinned := page.pinned.erase row
        status := page.status.markEdited })

def pinnedRow? (page : RulesPage) (certname : String) : Option Handle :=
  (page.pinned.entries.find? fun p => nodeOf p.2 == certname).map (·.1)

def chooseQuantifier (page : RulesPage) (quantifier : Quantifier) : RulesPage :=
  { page with quantifier, status := page.status.markEdited }

def document (page : RulesPage) : Rules :=
  ⟨page.quantifier, page.conditions.toList, page.pinned.toList.map nodeOf⟩

/-- What the page shares with the others. A failure shows what the backend said of it, and the
commit can be tried again at once. -/
def shape : Shape RulesPage Rules where
  status page := page.status
  withStatus page status := { page with status }
  document := document
  replace page := Backend.replaceRules page.group
  updated := updatedMessage
  refusal := Failure.bannerText
  rearm := true
  withStatus_status _ := rfl
  status_withStatus _ _ := rfl
  withStatus_withStatus _ _ _ := rfl
  document_withStatus _ _ := rfl

/-- Begins a commit and gives the document to be written. -/
def startCommit (page : RulesPage) : Except Failure Rules × RulesPage := shape.startCommit page

def endCommit (page : RulesPage) (outcome : Except Failure Unit) : RulesPage :=
  shape.endCommit page outcome

def commit (page : RulesPage) (s : Session) : Except Failure Unit × RulesPage × Session :=
  shape.commit page s

def closeLists (page : RulesPage) : RulesPage :=
  { page with factInput := page.factInput.close, nodeInput := page.nodeInput.close }

def hideBanner (page : RulesPage) : RulesPage := shape.hideBanner page

end RulesPage

end NodeGroups.Page
