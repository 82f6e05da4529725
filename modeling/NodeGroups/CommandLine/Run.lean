import NodeGroups.CommandLine.Command
import NodeGroups.CommandLine.Trace
import NodeGroups.Page.Classes
import NodeGroups.Page.Rules
import NodeGroups.Page.Variables
import NodeGroups.Page.Zone

set_option autoImplicit false

namespace NodeGroups.CommandLine

open Backend (Session)
open Page (Banner ClassPanel ClassesPage Handle MasterZone RulesPage Shape Status VariablesPage
  ZonePage)
open Search (Record Suggestion)

/-- A computation of a command. What was sent stays sent when it fails. -/
abbrev Run := ExceptT Trace (StateM Session)

namespace Run

/-- Calls the backend, with a note around its failure. -/
def call {α : Type} (note : String) (c : Backend.Call α) : Run α := fun s =>
  let (outcome, s) := c.run.run s
  (noted note outcome, s)

def visit {α : Type} (f : Session → α × Session) : Run α := fun s =>
  let (a, s) := f s
  (.ok a, s)

/-- An outcome that is there already. -/
def given {α : Type} (outcome : Except Trace α) : Run α := fun s => (outcome, s)

end Run

namespace Dataset

/-- Fetches the records of a dataset; classes are limited by environment and all else by master
zone. -/
def fetch (environment masterZone : Option String) : Dataset → Backend.Call (List Record)
  | .classes => Backend.classes environment
  | .nodes => Backend.nodes masterZone
  | .facts => Backend.facts masterZone

/-- What a query finds among records that become a dataset. -/
def find (d : Dataset) (mode : PatternMode) (query : String) (records : List Record) :
    Except Trace (List Suggestion) :=
  noted ("invalid search pattern " ++ Text.Quoted.quote query)
    (Search.find mode query d.field ((Search.Index.empty.load d.key records).records d.key))

end Dataset

def foundLine (s : Suggestion) : Json :=
  .object [("id", .string s.recordId), ("label", .string s.label), ("marked", .string s.marked)]

/-- What was found, and a message if it is nothing. -/
def searchReport (d : Dataset) (mode : PatternMode) (query : String)
    (found : List Suggestion) : Json :=
  .object <|
    [("dataset", .string d.key), ("query", .string query), ("pattern_mode", .string mode.name),
      ("suggestions", .ofList foundLine found)] ++
    if found.isEmpty then [("message", .string Picker.Suggestions.nothingFoundText)] else []

def search (d : Dataset) (query : String) (environment masterZone : Option String) : Run Json := do
  let records ← Run.call ("failed to fetch dataset " ++ d.key) (d.fetch environment masterZone)
  let mode := (← get).settings.patternMode
  return searchReport d mode query (← Run.given (d.find mode query records))

/-- Fails if a page shows that it could not be loaded. -/
def requireLoaded (status : Status) : Except Trace Unit :=
  match status.banner with
  | some ⟨.danger, text⟩ => .error (.ofNote ("failed to load page: " ++ text))
  | _ => .ok ()

/-- Reports the banner of a successful commit, and otherwise fails with its text. -/
def commitReport (outcome : Except Failure Unit) (status : Status) : Except Trace Json :=
  match outcome with
  | .ok _ => .ok (.ofOption Banner.toJson status.banner)
  | .error f =>
    .error ⟨["commit failed (" ++ f.code ++ ")", (status.banner.map Banner.text).getD f.bannerText],
      none⟩

/-- An operation on a page that may be refused. -/
def unrefused {α ε : Type} : Except Failure α × ε → Except Trace ε
  | (.ok _, page) => .ok page
  | (.error f, _) => .error (.ofFailure f)

def openClasses (group : String) (environment : Option String) : Run ClassesPage := do
  let page := ClassesPage.new group environment (← get).settings
  let page ← Run.visit fun s => page.load s
  Run.given (requireLoaded page.status)
  return page

def openRules (group : String) (masterZone : Option String) : Run RulesPage := do
  let page := RulesPage.new group masterZone (← get).settings
  let page ← Run.visit fun s => page.load s
  Run.given (requireLoaded page.status)
  return page

def openVariables (group : String) : Run VariablesPage := do
  let page ← Run.visit fun s => (VariablesPage.new group).load s
  Run.given (requireLoaded page.status)
  return page

def commitPage {Page Doc : Type} (shape : Shape Page Doc) (page : Page) : Run Json := do
  let (outcome, page) ← Run.visit fun s =>
    let (outcome, page, s) := shape.commit page s
    ((outcome, page), s)
  Run.given (commitReport outcome (shape.status page))

/-- A class with its parameters, and those that can be added. -/
def panelReport (b : ClassPanel) : Json :=
  .object [("class", .string b.name), ("class_id", .ofText? b.classId),
    ("parameters", .ofList (fun r =>
      .array [.string (ClassPanel.parameterOf r), .string (ClassPanel.valueOf r)]) b.rows.toList),
    ("available_parameters", .ofList .string b.form.available)]

def showClasses (group : String) (environment : Option String) : Run Json := do
  let page ← openClasses group environment
  return .ofList panelReport page.panels.toList

def rulesReport (page : RulesPage) : Json :=
  .object [("facts", .ofList Document.Condition.toJson page.conditions.toList),
    ("match_type", .string page.quantifier.name),
    ("nodes", .ofList (fun r => .string (RulesPage.nodeOf r)) page.pinned.toList),
    ("pinned_count", .nat page.pinned.size)]

def showRules (group : String) : Run Json := do
  return rulesReport (← openRules group none)

/-- The page after a node was typed and what the input then offers for it was clicked, if it is just
that node. -/
def pickNode (page : RulesPage) (certname : String) : Except Trace RulesPage :=
  let page := (page.onNodeInput (.focus .zero .zero)).2
  let page := (page.onNodeInput (.keyUp certname)).2
  match page.nodeInput.list.toList.find? fun s => s.label == certname with
  | none => .error (.ofNote ("node " ++ certname ++ " is unknown or already pinned"))
  | some s => .ok (page.onNodeInput (.click s.recordId)).2

def pin (group certname : String) (masterZone : Option String) : Run Json := do
  let page ← openRules group masterZone
  let page ← Run.given (pickNode page certname)
  commitPage RulesPage.shape (← Run.given (unrefused page.pin))

def unpin (group certname : String) : Run Json := do
  let page ← openRules group none
  match page.pinnedRow? certname with
  | none => Run.given (.error (.ofNote ("node " ++ certname ++ " is not pinned to " ++ group)))
  | some row => commitPage RulesPage.shape (← Run.given (unrefused (page.unpin row)))

def showVariables (group : String) : Run Json := do
  let page ← openVariables group
  return .ofList (fun r => .ofMap .string r.fields) page.rows.toList

def removeRows (page : VariablesPage) : List Handle → Except Trace VariablesPage
  | [] => .ok page
  | row :: rows => do removeRows (← unrefused (page.removeRow row)) rows

def setVariable (group key value : String) : Run Json := do
  let page ← openVariables group
  let page ← Run.given (removeRows page (page.rowsOf key))
  commitPage VariablesPage.shape
    (← Run.given (unrefused ((page.typeKey key).typeValue value).addEntry))

def unsetVariable (group key : String) : Run Json := do
  let page ← openVariables group
  let rows := page.rowsOf key
  if rows.isEmpty then
    Run.given (.error (.ofNote ("variable " ++ key ++ " is not set on " ++ group)))
  else
    commitPage VariablesPage.shape (← Run.given (removeRows page rows))

/-- Reports the banner of a synchronisation that started, and otherwise fails with its text. -/
def syncReport (outcome : Except Failure Unit) (banner : Option Banner) : Except Trace Json :=
  match outcome with
  | .ok _ => .ok (.ofOption Banner.toJson banner)
  | .error f =>
    .error ⟨["sync failed (" ++ f.code ++ ")", (banner.map Banner.text).getD ""], none⟩

def syncZone (zone : MasterZone) : Run Json := do
  let (outcome, z) ← Run.visit fun s =>
    let (outcome, z, s) := ZonePage.new.synchronize zone s
    ((outcome, z), s)
  Run.given (syncReport outcome z.banner)

def classify (certname masterId : String) : Run Json := do
  let c ← Run.call ("failed to classify " ++ certname) (Backend.classificationOf certname masterId)
  return c.toJson

/-- Runs a command, which gives the document that it reports. -/
def perform : Command → Run Json
  | .search dataset query environment masterZone => search dataset query environment masterZone
  | .showClasses group environment => showClasses group environment
  | .showRules group => showRules group
  | .pin group certname masterZone => pin group certname masterZone
  | .unpin group certname => unpin group certname
  | .showVariables group => showVariables group
  | .setVariable group key value => setVariable group key value
  | .unsetVariable group key => unsetVariable group key
  | .sync masterId label => syncZone ⟨masterId, label.getD masterId⟩
  | .classify certname masterId => classify certname masterId

/-- What the program prints of the outcome of a command: the report, and nothing of a failure. -/
def printed : Except Trace Json → String
  | .ok report => report.pretty ++ "\n"
  | .error _ => ""

end NodeGroups.CommandLine
