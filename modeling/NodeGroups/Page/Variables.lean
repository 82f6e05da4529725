import NodeGroups.Page.Rows
import NodeGroups.Page.Shape

set_option autoImplicit false

namespace NodeGroups.Page

open Backend (Session)
open Document (Variables)

/-- The variables page of a group. A name may stand in several rows; the last of them counts. -/
structure VariablesPage where
  group : String
  key : String
  value : String
  rows : Rows Row
  status : Status

namespace VariablesPage

def new (group : String) : VariablesPage := ⟨group, "", "", .empty, .initial⟩

def updatedMessage : String := "Variables successfully updated!"

def row (key value : String) : Row := .ofFields [("key", key), ("value", value)]

def keyOf (r : Row) : String := r.get "key"

def valueOf (r : Row) : String := r.get "value"

def showDocument (page : VariablesPage) (d : Variables) : VariablesPage :=
  { page with rows := page.rows.clear.append (d.entries.map fun p => row p.1 p.2) }

/-- Loads the variables of the group. If there are none to be had the rows stay as they were. -/
def load (page : VariablesPage) (s : Session) : VariablesPage × Session :=
  let loading := { page with status := page.status.startLoading }
  let (page, s) := match (Backend.variablesOf page.group).run.run s with
    | (.ok d, s) => (loading.showDocument d, s)
    | (.error _, s) =>
      ({ loading with status := loading.status.announce .danger Failure.generalMessage }, s)
  ({ page with status := page.status.endLoading }, s)

def typeKey (page : VariablesPage) (key : String) : VariablesPage := { page with key }

def typeValue (page : VariablesPage) (value : String) : VariablesPage := { page with value }

def hasEntry (page : VariablesPage) : Bool := page.key != "" && page.value != ""

/-- Adds the variable that was entered, and clears the inputs. -/
def addEntry (page : VariablesPage) : Except Failure Handle × VariablesPage :=
  if page.hasEntry then
    (.ok page.rows.next,
      { page with
        rows := page.rows.push (row page.key page.value)
        key := ""
        value := ""
        status := page.status.markEdited })
  else (.error (.validation "key and value are required"), page)

def removeRow (page : VariablesPage) (handle : Handle) : Except Failure Unit × VariablesPage :=
  match page.rows.get? handle with
  | none => (.error (.notFound "variable row"), page)
  | some _ =>
    (.ok (),
      { page with
        rows := page.rows.erase handle
        status := page.status.markEdited })

/-- The rows of a variable in page order. -/
def rowsOf (page : VariablesPage) (key : String) : List Handle :=
  (page.rows.entries.filter fun p => keyOf p.2 == key).map (·.1)

def document (page : VariablesPage) : Variables :=
  ⟨some (.ofList (page.rows.toList.map fun r => (keyOf r, Json.string (valueOf r))))⟩

/-- What the page shares with the others. A failure shows what the backend said of it, and the
commit cannot be tried again before the next edit. -/
def shape : Shape VariablesPage Variables where
  status page := page.status
  withStatus page status := { page with status }
  document := document
  replace page := Backend.replaceVariables page.group
  updated := updatedMessage
  refusal := Failure.bannerText
  rearm := false
  withStatus_status _ := rfl
  status_withStatus _ _ := rfl
  withStatus_withStatus _ _ _ := rfl
  document_withStatus _ _ := rfl

/-- Begins a commit and gives the document to be written. -/
def startCommit (page : VariablesPage) : Except Failure Variables × VariablesPage :=
  shape.startCommit page

def endCommit (page : VariablesPage) (outcome : Except Failure Unit) : VariablesPage :=
  shape.endCommit page outcome

def commit (page : VariablesPage) (s : Session) : Except Failure Unit × VariablesPage × Session :=
  shape.commit page s

def hideBanner (page : VariablesPage) : VariablesPage := shape.hideBanner page

end VariablesPage

end NodeGroups.Page
