import NodeGroups.Proofs.Interleaving
import NodeGroups.Proofs.Page.Rules

set_option autoImplicit false

namespace NodeGroups

namespace Picker

/-- An input sees nothing of the datasets but the records of its own. -/
theorem apply_congr {p : Picker} {index other : Search.Index}
    (same : other.records p.dataset = index.records p.dataset) (event : Event)
    (mode : PatternMode) : p.apply event other mode = p.apply event index mode := by
  cases event with
  | focus box scroll => simp only [apply, onFocus, relist, same]
  | keyUp text => simp only [apply, onKeyUp, relist, same]
  | click id => simp only [apply, offered?, same]
  | blur => rfl
  | outsideClick => rfl

end Picker

namespace Page

open Document (Condition Operator)
open Search (Index Record)

/-- Marks a page as edited if it was. -/
def Status.mark (s : Status) (edited : Bool) : Status := if edited then s.markEdited else s

theorem Status.mark_comm (s : Status) (first second : Bool) :
    (s.mark first).mark second = (s.mark second).mark first := by
  cases first <;> cases second <;> rfl

namespace RulesPage

/-- What can be done on the side of the conditions. -/
inductive ConditionEdit
  | input (event : Picker.Event)
  | chooseOperator (operator : Option Operator)
  | typeValue (value : String)
  | add
  | remove (row : Handle)

/-- What can be done on the side of the nodes. -/
inductive NodeEdit
  | input (event : Picker.Event)
  | pin
  | unpin (row : Handle)

inductive Answer
  | done
  | picked (selection : Option Picker.Selection)
  | added (outcome : Except Failure Handle)
  | removed (outcome : Except Failure Unit)

def editCondition (page : RulesPage) : ConditionEdit → Answer × RulesPage
  | .input event => let (selection, page) := page.onFactInput event; (.picked selection, page)
  | .chooseOperator operator => (.done, page.chooseOperator operator)
  | .typeValue value => (.done, page.typeValue value)
  | .add => let (outcome, page) := page.addCondition; (.added outcome, page)
  | .remove row => let (outcome, page) := page.removeCondition row; (.removed outcome, page)

def editNode (page : RulesPage) : NodeEdit → Answer × RulesPage
  | .input event => let (selection, page) := page.onNodeInput event; (.picked selection, page)
  | .pin => let (outcome, page) := page.pin; (.added outcome, page)
  | .unpin row => let (outcome, page) := page.unpin row; (.removed outcome, page)

/-- What edits of the conditions change. -/
structure ConditionSide where
  factInput : Picker
  operator : Option Operator
  value : String
  conditions : Rows Condition

/-- What edits of the pinned nodes change; only they turn records on and off. -/
structure NodeSide where
  index : Index
  nodeInput : Picker
  pinned : Rows Row

def conditionSide (page : RulesPage) : ConditionSide :=
  ⟨page.factInput, page.operator, page.value, page.conditions⟩

def nodeSide (page : RulesPage) : NodeSide := ⟨page.index, page.nodeInput, page.pinned⟩

/-- The page with other sides, in another state. -/
def withSides (page : RulesPage) (c : ConditionSide) (n : NodeSide) (status : Status) :
    RulesPage :=
  { page with
    factInput := c.factInput
    operator := c.operator
    value := c.value
    conditions := c.conditions
    index := n.index
    nodeInput := n.nodeInput
    pinned := n.pinned
    status }

variable (page : RulesPage) (c : ConditionSide) (n : NodeSide)

/-- An edit of the conditions sees nothing of the other side but the records that the input for
facts searches, leaves the other side as it is and at most marks the page as edited. -/
theorem editCondition_withSides (e : ConditionEdit) :
    ∃ answer next edited, next.factInput.dataset = c.factInput.dataset ∧
      ∀ (other : NodeSide) (status : Status),
        other.index.records c.factInput.dataset = n.index.records c.factInput.dataset →
        (page.withSides c other status).editCondition e =
          (answer, page.withSides next other (status.mark edited)) := by
  cases e with
  | input event =>
    let applied := c.factInput.apply event n.index page.mode
    refine ⟨.picked applied.2, { c with factInput := applied.1 }, false,
      (c.factInput.apply_source event n.index page.mode).1, fun other status same => ?_⟩
    have sees := Picker.apply_congr same event page.mode
    simp only [editCondition, onFactInput, withSides, sees]
    rfl
  | chooseOperator operator =>
    exact ⟨.done, { c with operator }, false, rfl, fun other status _ => rfl⟩
  | typeValue value => exact ⟨.done, { c with value }, false, rfl, fun other status _ => rfl⟩
  | add =>
    cases entry : (page.withSides c n page.status).enteredCondition? with
    | none =>
      refine ⟨.added (.error (.validation "fact, operator and value are required")), c, false, rfl,
        fun other status _ => ?_⟩
      have missing : (page.withSides c other status).enteredCondition? = none := entry
      simp only [editCondition, addCondition, missing]
      rfl
    | some condition =>
      refine ⟨.added (.ok c.conditions.next),
        { c with
          conditions := c.conditions.push condition
          factInput := c.factInput.clear
          value := "" }, true, rfl, fun other status _ => ?_⟩
      have entered : (page.withSides c other status).enteredCondition? = some condition := entry
      simp only [editCondition, addCondition, entered]
      rfl
  | remove row =>
    cases held : c.conditions.get? row with
    | none =>
      refine ⟨.removed (.error (.notFound "rule row")), c, false, rfl, fun other status _ => ?_⟩
      simp only [editCondition, removeCondition, withSides, held]
      rfl
    | some condition =>
      refine ⟨.removed (.ok ()), { c with conditions := c.conditions.erase row }, true, rfl,
        fun other status _ => ?_⟩
      simp only [editCondition, removeCondition, withSides, held]
      rfl

/-- Turning a node on or off leaves all datasets but that of the nodes. -/
theorem records_setNode_of_ne (index : Index) {key : String} (different : key ≠ Search.certnameKey)
    (certname : String) (state : Search.Activation) :
    (setNode index certname state).records key = index.records key :=
  Index.records_setStateWhere_of_ne index different "certname" certname state

/-- An edit of the pinned nodes sees nothing of the other side, leaves it and all other datasets as
they are and at most marks the page as edited. -/
theorem editNode_withSides (e : NodeEdit) :
    ∃ answer next edited,
      (∀ key, key ≠ Search.certnameKey → next.index.records key = n.index.records key) ∧
      ∀ (other : ConditionSide) (status : Status),
        (page.withSides other n status).editNode e =
          (answer, page.withSides other next (status.mark edited)) := by
  cases e with
  | input event =>
    let applied := n.nodeInput.apply event n.index page.mode
    exact ⟨.picked applied.2, { n with nodeInput := applied.1 }, false, fun key _ => rfl,
      fun other status => rfl⟩
  | pin =>
    cases picked : n.nodeInput.selection with
    | none =>
      refine ⟨.added (.error (.validation "pick a node from the suggestions first")), n, false,
        fun key _ => rfl, fun other status => ?_⟩
      simp only [editNode, pin, withSides, picked]
      rfl
    | some selection =>
      refine ⟨.added (.ok n.pinned.next),
        { n with
          index := setNode n.index selection.label .disabled
          pinned := n.pinned.push ((nodeRow selection.label).madeFrom selection.recordId)
          nodeInput := n.nodeInput.clear }, true,
        fun key different => records_setNode_of_ne n.index different _ _,
        fun other status => ?_⟩
      simp only [editNode, pin, withSides, picked]
      rfl
  | unpin row =>
    cases held : n.pinned.get? row with
    | none =>
      refine ⟨.removed (.error (.notFound "pinned node")), n, false, fun key _ => rfl,
        fun other status => ?_⟩
      simp only [editNode, unpin, withSides, held]
      rfl
    | some r =>
      refine ⟨.removed (.ok ()),
        { n with
          index := setNode n.index (nodeOf r) .enabled
          pinned := n.pinned.erase row }, true,
        fun key different => records_setNode_of_ne n.index different _ _,
        fun other status => ?_⟩
      simp only [editNode, unpin, withSides, held]
      rfl

/-- The input for facts does not search the nodes. -/
def Separate (page : RulesPage) : Prop := page.factInput.dataset ≠ Search.certnameKey

/-- While the input for facts does not search the nodes, the two sides are apart. -/
theorem apart_edits : Apart editCondition editNode Separate where
  keepsLeft := by
    intro page a separate
    obtain ⟨answer, next, edited, source, edits⟩ :=
      page.editCondition_withSides page.conditionSide page.nodeSide a
    have first : page.editCondition a = _ := edits page.nodeSide page.status rfl
    rw [first]
    change next.factInput.dataset ≠ _
    rw [source]
    exact separate
  keepsRight := by
    intro page b separate
    obtain ⟨answer, next, edited, -, edits⟩ := page.editNode_withSides page.nodeSide b
    have first : page.editNode b = _ := edits page.conditionSide page.status
    rw [first]
    exact separate
  commutes := by
    intro page a b separate
    obtain ⟨answer, c, marksA, source, editsA⟩ :=
      page.editCondition_withSides page.conditionSide page.nodeSide a
    obtain ⟨reply, n, marksB, others, editsB⟩ := page.editNode_withSides page.nodeSide b
    have conditionFirst : page.editCondition a = _ := editsA page.nodeSide page.status rfl
    have nodeFirst : page.editNode b = _ := editsB page.conditionSide page.status
    have conditionSecond := editsA n (page.status.mark marksB) (others _ separate)
    have nodeSecond := editsB c (page.status.mark marksA)
    constructor
    · rw [conditionFirst, nodeFirst, conditionSecond]
    · rw [conditionFirst, nodeFirst, nodeSecond]
    · rw [conditionFirst, nodeFirst, conditionSecond, nodeSecond, Status.mark_comm]

theorem factInput_act (a : Action) : (page.act a).factInput.dataset = page.factInput.dataset := by
  cases a with
  | load s =>
    rw [act, load]
    rcases (Backend.rulesOf page.group).run.run s with ⟨rules, t⟩
    cases rules <;> rfl
  | factInput event => exact (page.factInput.apply_source event page.index page.mode).1
  | chooseOperator operator => rfl
  | typeValue value => rfl
  | addCondition =>
    rw [act, addCondition]
    split <;> rfl
  | removeCondition row =>
    rw [act, removeCondition]
    split <;> rfl
  | nodeInput event => rfl
  | pin =>
    rw [act, pin]
    split <;> rfl
  | unpin row =>
    rw [act, unpin]
    split <;> rfl
  | chooseQuantifier quantifier => rfl
  | startCommit =>
    obtain ⟨status, begun⟩ := shape.startCommit_left page
    rw [act, startCommit, begun]
    rfl
  | endCommit outcome => rfl
  | commit s =>
    obtain ⟨status, done⟩ := shape.commit_left page s
    rw [act, commit, done]
    rfl
  | closeLists => rfl
  | hideBanner => rfl

/-- Whatever was done to a page, its input for facts searches the facts. -/
theorem factInput_after (group : String) (masterZone : Option String) (settings : Settings)
    (actions : List Action) :
    ((new group masterZone settings).after actions).factInput.dataset = Search.factsKey := by
  induction actions using List.reverseRecOn with
  | nil => rfl
  | append_singleton actions a ih =>
    rw [after, List.foldl_append, List.foldl_cons, List.foldl_nil, factInput_act]
    exact ih

/-- Conditions and pinned nodes are edited independently. In every state that a page can come to,
and however edits of the two sides are interleaved, each edit gets the answer that it gets when all
edits of the conditions come before all edits of the nodes, and the page ends as it does then. -/
theorem edits_independent (group : String) (masterZone : Option String) (settings : Settings)
    (actions : List Action) (edits : List (ConditionEdit ⊕ NodeEdit)) :
    let page := (new group masterZone settings).after actions
    let mixed := runAll (eitherStep editCondition editNode) page edits
    let conditions := runAll editCondition page (lefts edits)
    let nodes := runAll editNode conditions.2 (rights edits)
    mixed.1.map Sum.isLeft = edits.map Sum.isLeft ∧
      lefts mixed.1 = conditions.1 ∧ rights mixed.1 = nodes.1 ∧ mixed.2 = nodes.2 := by
  intro page
  have separate : page.Separate := by
    rw [Separate, factInput_after]
    decide
  exact apart_edits.runAll_eitherStep separate edits

end RulesPage

end Page

end NodeGroups
