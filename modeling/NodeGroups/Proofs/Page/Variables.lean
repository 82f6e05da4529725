import NodeGroups.Page.Variables
import NodeGroups.Proofs.Page.Ledger

set_option autoImplicit false

namespace NodeGroups.Page.VariablesPage

open Backend (Session)
open Document (Variables)
open Happening (ifOk ofStart)

/-- What can be done to the page. What calls the backend does so in a session of its own, so that
any answers may come. -/
inductive Action
  | load (s : Session)
  | typeKey (key : String)
  | typeValue (value : String)
  | addEntry
  | removeRow (handle : Handle)
  | startCommit
  | endCommit (outcome : Except Failure Unit)
  | commit (s : Session)
  | hideBanner

def act (page : VariablesPage) : Action → VariablesPage
  | .load s => (page.load s).1
  | .typeKey key => page.typeKey key
  | .typeValue value => page.typeValue value
  | .addEntry => page.addEntry.2
  | .removeRow handle => (page.removeRow handle).2
  | .startCommit => page.startCommit.2
  | .endCommit outcome => page.endCommit outcome
  | .commit s => (page.commit s).2.1
  | .hideBanner => page.hideBanner

def view (page : VariablesPage) : View Variables := .of page.document page.status

/-- What an action does to the document of the page. -/
def happenings (page : VariablesPage) : Action → List (Happening Variables)
  | .load s =>
    ifOk ((Backend.variablesOf page.group).run.run s).1 [.loaded (page.load s).1.document]
  | .addEntry => ifOk page.addEntry.1 [.edited page.addEntry.2.document]
  | .removeRow handle =>
    ifOk (page.removeRow handle).1 [.edited (page.removeRow handle).2.document]
  | .startCommit => ofStart page.startCommit.1 []
  | .endCommit outcome => [.ended outcome.isOk]
  | .commit s => ofStart page.startCommit.1 [.ended (page.commit s).1.isOk]
  | .typeKey _ | .typeValue _ | .hideBanner => []

theorem move_load (page : VariablesPage) (s : Session) :
    Move page.view (page.happenings (.load s)) (page.load s).1.view := by
  rw [happenings]
  unfold load
  rcases (Backend.variablesOf page.group).run.run s with ⟨answer, t⟩
  cases answer with
  | ok d => exact .load _
  | error failure => exact .stay

theorem move_addEntry (page : VariablesPage) :
    Move page.view (page.happenings .addEntry) page.addEntry.2.view := by
  rw [happenings]
  unfold addEntry
  split
  · exact .edit _
  · exact .stay

theorem move_removeRow (page : VariablesPage) (handle : Handle) :
    Move page.view (page.happenings (.removeRow handle)) (page.removeRow handle).2.view := by
  rw [happenings]
  unfold removeRow
  cases page.rows.get? handle with
  | none => exact .stay
  | some row => exact .edit _

theorem move_act (page : VariablesPage) (a : Action) :
    Move page.view (page.happenings a) (page.act a).view := by
  cases a with
  | load s => exact page.move_load s
  | typeKey key => exact .stay
  | typeValue value => exact .stay
  | addEntry => exact page.move_addEntry
  | removeRow handle => exact page.move_removeRow handle
  | startCommit => exact shape.move_startCommit page
  | endCommit outcome => exact shape.move_endCommit page outcome
  | commit s => exact shape.move_commit page s
  | hideBanner => exact .stay

def kind : Kind VariablesPage Action Variables where
  view := view
  act := act
  happenings := happenings
  Sound _ := True
  sound_act _ _ _ := trivial
  moves page a _ := page.move_act a

end NodeGroups.Page.VariablesPage
