import NodeGroups.Proofs.Page.RowHistory
import NodeGroups.Proofs.Page.Rules
import NodeGroups.Proofs.Past

set_option autoImplicit false

namespace NodeGroups.Page.RulesPage

open Backend (Session)
open Document (Condition Quantifier Rules)
open Rows (Change)

/-- What was done to the document of a page. -/
inductive Deed
  /-- A load got this document, and its conditions and nodes stand under handles from these on. -/
  | loaded (d : Rules) (condition node : Handle)
  | chosen (quantifier : Quantifier)
  | added (row : Handle) (condition : Condition)
  | removed (row : Handle)
  | pinned (row : Handle) (node : String)
  | unpinned (row : Handle)

namespace Deed

def quantifier? : Deed → Option Quantifier
  | .loaded d _ _ => some d.quantifier
  | .chosen quantifier => some quantifier
  | .added _ _ | .removed _ | .pinned _ _ | .unpinned _ => none

/-- What it does to the conditions. -/
def onConditions? : Deed → Option (Change Condition)
  | .loaded d first _ => some (.replaced first d.conditions)
  | .added row condition => some (.added row condition)
  | .removed row => some (.removed row)
  | .chosen _ | .pinned _ _ | .unpinned _ => none

def onNodes? : Deed → Option (Change String)
  | .loaded d _ first => some (.replaced first d.nodes)
  | .pinned row node => some (.added row node)
  | .unpinned row => some (.removed row)
  | .chosen _ | .added _ _ | .removed _ => none

end Deed

/-- What an action does to the document, by the answer of the page: nothing if it is refused, if it
is a load that fails, or if it is about anything else. -/
def deed? (page : RulesPage) : Action → Option Deed
  | .load s =>
    ((Backend.rulesOf page.group).run.run s).1.toOption.map fun d =>
      .loaded d page.conditions.next page.pinned.next
  | .chooseQuantifier quantifier => some (.chosen quantifier)
  | .addCondition => do
    let row ← page.addCondition.1.toOption
    return .added row ⟨page.factInput.text, ← page.operator, page.value⟩
  | .removeCondition row => (page.removeCondition row).1.toOption.map fun _ => .removed row
  | .pin => do
    let row ← page.pin.1.toOption
    return .pinned row (← page.nodeInput.selection).label
  | .unpin row => (page.unpin row).1.toOption.map fun _ => .unpinned row
  | .factInput _ | .chooseOperator _ | .typeValue _ | .nodeInput _ | .startCommit | .endCommit _
  | .commit _ | .closeLists | .hideBanner => none

/-- The document by what was done to it; a new page has the empty one. -/
def told (past : List Deed) : Rules where
  quantifier := (past.reverse.findSome? Deed.quantifier?).getD Rules.empty.quantifier
  conditions := (Change.standing (past.filterMap Deed.onConditions?)).map Prod.snd
  nodes := (Change.standing (past.filterMap Deed.onNodes?)).map Prod.snd

/-- The document of the page is what its past tells, row by row. -/
structure Recalls (page : RulesPage) (past : List Deed) : Prop where
  quantifier : page.quantifier = (told past).quantifier
  conditions : page.conditions.Tells id (past.filterMap Deed.onConditions?)
  pinned : page.pinned.Tells nodeOf (past.filterMap Deed.onNodes?)

section Recalls

variable {page next : RulesPage} {past : List Deed} {a : Action}

theorem Recalls.document (recalls : page.Recalls past) : page.document = told past := by
  have conditions := recalls.conditions.toList
  have nodes := recalls.pinned.toList
  rw [List.map_id] at conditions
  rw [RulesPage.document, recalls.quantifier, conditions, nodes]
  rfl

/-- A deed is recalled with what went before it, if the page has its quantifier and its rows. -/
theorem Recalls.concat (recalls : page.Recalls past) {deed : Deed}
    (quantifier : next.quantifier = deed.quantifier?.getD page.quantifier)
    (conditions : next.conditions.Tells id
      (past.filterMap Deed.onConditions? ++ deed.onConditions?.toList))
    (pinned : next.pinned.Tells nodeOf (past.filterMap Deed.onNodes? ++ deed.onNodes?.toList)) :
    next.Recalls (past ++ [deed]) where
  quantifier := by
    rw [quantifier, recalls.quantifier]
    cases given : deed.quantifier? <;> simp [told, given]
  conditions := by
    rw [List.filterMap_append]
    cases changed : deed.onConditions? <;> simpa [changed] using conditions
  pinned := by
    rw [List.filterMap_append]
    cases changed : deed.onNodes? <;> simpa [changed] using pinned

/-- What is not a deed leaves what the page recalls. -/
theorem Recalls.stay (recalls : page.Recalls past) (none : page.deed? a = none)
    (quantifier : next.quantifier = page.quantifier)
    (conditions : next.conditions = page.conditions) (pinned : next.pinned = page.pinned) :
    next.Recalls (past ++ (page.deed? a).toList) := by
  rw [none, Option.toList_none, List.append_nil]
  exact ⟨quantifier.trans recalls.quantifier, conditions ▸ recalls.conditions,
    pinned ▸ recalls.pinned⟩

theorem Recalls.load (recalls : page.Recalls past) (s : Session) :
    (page.load s).1.Recalls (past ++ (page.deed? (.load s)).toList) := by
  rcases answered : (Backend.rulesOf page.group).run.run s with ⟨answer, t⟩
  unfold RulesPage.load
  rw [answered]
  cases answer with
  | error failure =>
    have none : page.deed? (.load s) = none := by
      rw [deed?, answered]
      rfl
    exact recalls.stay none rfl rfl rfl
  | ok d =>
    have deed : page.deed? (.load s) =
        some (.loaded d page.conditions.next page.pinned.next) := by
      rw [deed?, answered]
      rfl
    have conditions := Rows.Tells.replace page.conditions id (past.filterMap Deed.onConditions?)
      d.conditions
    have pinned := Rows.Tells.replace page.pinned nodeOf (past.filterMap Deed.onNodes?)
      (d.nodes.map nodeRow)
    have nodes : (d.nodes.map nodeRow).map nodeOf = d.nodes := by
      rw [List.map_map]
      exact List.map_id d.nodes
    rw [List.map_id] at conditions
    rw [nodes] at pinned
    rw [deed]
    exact recalls.concat rfl conditions pinned

theorem Recalls.addCondition (recalls : page.Recalls past) :
    page.addCondition.2.Recalls (past ++ (page.deed? .addCondition).toList) := by
  cases entered : page.enteredCondition? with
  | none =>
    have refused : page.addCondition =
        (.error (.validation "fact, operator and value are required"), page) := by
      rw [RulesPage.addCondition, entered]
    have none : page.deed? .addCondition = none := by
      rw [deed?, refused]
      rfl
    rw [refused]
    exact recalls.stay none rfl rfl rfl
  | some condition =>
    have entry : page.operator.map (⟨page.factInput.text, ·, page.value⟩) = some condition := by
      unfold enteredCondition? at entered
      split at entered
      · cases entered
      · rename_i operator chosen
        split at entered
        · cases entered
        · rw [chosen, ← entered]
          rfl
    have deed : page.deed? .addCondition = some (.added page.conditions.next condition) := by
      rw [deed?, RulesPage.addCondition, entered]
      obtain ⟨operator, chosen, rfl⟩ := Option.map_eq_some_iff.mp entry
      rw [chosen]
      rfl
    rw [deed, RulesPage.addCondition, entered]
    exact recalls.concat rfl (recalls.conditions.push condition) recalls.pinned.idle

theorem Recalls.removeCondition (recalls : page.Recalls past) (row : Handle) :
    (page.removeCondition row).2.Recalls
      (past ++ (page.deed? (.removeCondition row)).toList) := by
  cases found : page.conditions.get? row with
  | none =>
    have refused : page.removeCondition row = (.error (.notFound "rule row"), page) := by
      rw [RulesPage.removeCondition, found]
    have none : page.deed? (.removeCondition row) = none := by
      rw [deed?, refused]
      rfl
    rw [refused]
    exact recalls.stay none rfl rfl rfl
  | some condition =>
    have deed : page.deed? (.removeCondition row) = some (.removed row) := by
      rw [deed?, RulesPage.removeCondition, found]
      rfl
    rw [deed, RulesPage.removeCondition, found]
    exact recalls.concat rfl (recalls.conditions.erase found) recalls.pinned.idle

theorem Recalls.pin (recalls : page.Recalls past) :
    page.pin.2.Recalls (past ++ (page.deed? .pin).toList) := by
  cases picked : page.nodeInput.selection with
  | none =>
    have refused : page.pin =
        (.error (.validation "pick a node from the suggestions first"), page) := by
      rw [RulesPage.pin, picked]
    have none : page.deed? .pin = none := by
      rw [deed?, refused]
      rfl
    rw [refused]
    exact recalls.stay none rfl rfl rfl
  | some selection =>
    have deed : page.deed? .pin = some (.pinned page.pinned.next selection.label) := by
      rw [deed?, RulesPage.pin, picked]
      rfl
    rw [deed, RulesPage.pin, picked]
    exact recalls.concat rfl recalls.conditions.idle (recalls.pinned.push
      ((nodeRow selection.label).madeFrom selection.recordId))

theorem Recalls.unpin (recalls : page.Recalls past) (row : Handle) :
    (page.unpin row).2.Recalls (past ++ (page.deed? (.unpin row)).toList) := by
  cases found : page.pinned.get? row with
  | none =>
    have refused : page.unpin row = (.error (.notFound "pinned node"), page) := by
      rw [RulesPage.unpin, found]
    have none : page.deed? (.unpin row) = none := by
      rw [deed?, refused]
      rfl
    rw [refused]
    exact recalls.stay none rfl rfl rfl
  | some r =>
    have deed : page.deed? (.unpin row) = some (.unpinned row) := by
      rw [deed?, RulesPage.unpin, found]
      rfl
    rw [deed, RulesPage.unpin, found]
    exact recalls.concat rfl recalls.conditions.idle (recalls.pinned.erase found)

/-- Whatever is done to a page, it recalls it. -/
theorem Recalls.act (recalls : page.Recalls past) (a : Action) :
    (page.act a).Recalls (past ++ (page.deed? a).toList) := by
  cases a with
  | load s => exact recalls.load s
  | factInput event => exact recalls.stay rfl rfl rfl rfl
  | chooseOperator operator => exact recalls.stay rfl rfl rfl rfl
  | typeValue value => exact recalls.stay rfl rfl rfl rfl
  | addCondition => exact recalls.addCondition
  | removeCondition row => exact recalls.removeCondition row
  | nodeInput event => exact recalls.stay rfl rfl rfl rfl
  | pin => exact recalls.pin
  | unpin row => exact recalls.unpin row
  | chooseQuantifier quantifier =>
    exact recalls.concat rfl recalls.conditions.idle recalls.pinned.idle
  | startCommit =>
    obtain ⟨status, begun⟩ := shape.startCommit_left page
    rw [RulesPage.act, RulesPage.startCommit, begun]
    exact recalls.stay rfl rfl rfl rfl
  | endCommit outcome => exact recalls.stay rfl rfl rfl rfl
  | commit s =>
    obtain ⟨status, done⟩ := shape.commit_left page s
    rw [RulesPage.act, RulesPage.commit, done]
    exact recalls.stay rfl rfl rfl rfl
  | closeLists => exact recalls.stay rfl rfl rfl rfl
  | hideBanner => exact recalls.stay rfl rfl rfl rfl

end Recalls

theorem recalls_new (group : String) (masterZone : Option String) (settings : Settings) :
    (new group masterZone settings).Recalls [] :=
  ⟨rfl, Rows.tells_empty id, Rows.tells_empty nodeOf⟩

/-- After any actions, a commit that can begin begins with the document that the past of the page
tells, and what is no deed leaves the document as it is. -/
theorem startCommit_told (group : String) (masterZone : Option String) (settings : Settings)
    (actions : List Action) :
    let page := (new group masterZone settings).after actions
    let past := chronicle act deed? (new group masterZone settings) actions
    (page.startCommit.1 =
        if page.status.canCommit then .ok (told past) else .error .commitLocked) ∧
      ∀ a, page.deed? a = none → (page.act a).document = page.document := by
  intro page past
  have recalls : page.Recalls past :=
    recalls_chronicle act deed? Recalls (fun _ _ a recalls => recalls.act a)
      (recalls_new group masterZone settings) actions
  refine ⟨?_, fun a idle => ?_⟩
  · rw [← recalls.document]
    exact shape.startCommit_answer page
  · have next := recalls.act a
    rw [idle, Option.toList_none, List.append_nil] at next
    rw [next.document, recalls.document]

/-- A page that is loaded, edited while a commit is under way, loaded in vain and loaded again, with
handles from before the last load and with refused additions. -/
theorem startCommit_told_reloaded :
    let served := "\x7b\"match_type\":\"ANY\",\"facts\":[\x7b\"fact\":\"os\"," ++
      "\"operator\":\"=\",\"value\":\"linux\"\x7d],\"nodes\":[\"a\",\"b\",\"a\"]\x7d"
    let s := Session.start {} (Backend.inTurn [served, "[\x7b\"id\":\"1\",\"certname\":\"n\"\x7d]"])
    let actions : List Action := [.load s, .unpin 0, .startCommit, .load s,
      .factInput (.keyUp "os"), .chooseOperator (some .notEqual), .typeValue "bsd", .addCondition,
      .addCondition, .endCommit (.error .http), .removeCondition 0, .unpin 1, .unpin 3,
      .nodeInput (.focus .zero .zero), .nodeInput (.click "1"), .pin, .pin,
      .load (Session.start {} (Backend.inTurn ["?"]))]
    let page := (new "g" none {}).after actions
    page.startCommit.1 = .ok ⟨.any, [⟨"os", .equals, "linux"⟩, ⟨"os", .notEqual, "bsd"⟩],
        ["b", "a", "n"]⟩ ∧
      page.deed? (.unpin 3) = none ∧ (page.act (.unpin 3)).document = page.document := by
  intro served s actions page
  have can : page.status.canCommit = true := by decide +kernel
  have past : told (chronicle act deed? (new "g" none {}) actions) =
      ⟨.any, [⟨"os", .equals, "linux"⟩, ⟨"os", .notEqual, "bsd"⟩], ["b", "a", "n"]⟩ := by
    decide +kernel
  have stale : (page.deed? (.unpin 3)).isNone = true := by decide +kernel
  obtain ⟨commits, rests⟩ := startCommit_told "g" none {} actions
  rw [if_pos can, past] at commits
  exact ⟨commits, Option.isNone_iff_eq_none.mp stale,
    rests (.unpin 3) (Option.isNone_iff_eq_none.mp stale)⟩

end NodeGroups.Page.RulesPage
