import NodeGroups.Page.Rules
import NodeGroups.Proofs.Backend.Datasets
import NodeGroups.Proofs.Page.Offering
import NodeGroups.Proofs.Page.Rows
import NodeGroups.Proofs.Page.Shape

set_option autoImplicit false

namespace NodeGroups.Page.RulesPage

open Backend (Session)
open Document (Operator Quantifier Rules)

/-- What can be done to the page. What calls the backend does so in a session of its own, so that
any answers may come. -/
inductive Action
  | load (s : Session)
  | factInput (event : Picker.Event)
  | chooseOperator (operator : Option Operator)
  | typeValue (value : String)
  | addCondition
  | removeCondition (row : Handle)
  | nodeInput (event : Picker.Event)
  | pin
  | unpin (row : Handle)
  | chooseQuantifier (quantifier : Quantifier)
  | startCommit
  | endCommit (outcome : Except Failure Unit)
  | commit (s : Session)
  | closeLists
  | hideBanner

def Action.isLoad : Action → Bool
  | .load _ => true
  | _ => false

def act (page : RulesPage) : Action → RulesPage
  | .load s => (page.load s).1
  | .factInput event => (page.onFactInput event).2
  | .chooseOperator operator => page.chooseOperator operator
  | .typeValue value => page.typeValue value
  | .addCondition => page.addCondition.2
  | .removeCondition row => (page.removeCondition row).2
  | .nodeInput event => (page.onNodeInput event).2
  | .pin => page.pin.2
  | .unpin row => (page.unpin row).2
  | .chooseQuantifier quantifier => page.chooseQuantifier quantifier
  | .startCommit => page.startCommit.2
  | .endCommit outcome => page.endCommit outcome
  | .commit s => (page.commit s).2.1
  | .closeLists => page.closeLists
  | .hideBanner => page.hideBanner

def after (page : RulesPage) (actions : List Action) : RulesPage := actions.foldl act page

def nodes (page : RulesPage) : List String := page.pinned.toList.map nodeOf

/-- The nodes that the page offers, and those that it has taken. -/
def offering (page : RulesPage) : Offering := ⟨page.index, page.nodeInput, page.nodes⟩

/-- The rules that a load would get in a session list no node twice. -/
def ListsOnce (group : String) (s : Session) : Prop :=
  ∀ d t, (Backend.rulesOf group).run.run s = (.ok d, t) → d.nodes.Nodup

theorem nodeOf_nodeRow (certname : String) : nodeOf (nodeRow certname) = certname := rfl

theorem nodeOf_madeFrom (r : Row) (id : String) : nodeOf (r.madeFrom id) = nodeOf r := rfl

structure Follows (page next : RulesPage) : Prop where
  group : next.group = page.group
  move : Offering.Move page.offering next.offering

variable {page : RulesPage}

def Named (page : RulesPage) : Prop :=
  page.nodeInput.dataset = Search.certnameKey ∧ page.nodeInput.field = "certname"

theorem Named.mark (named : page.Named) (name : String) (state : Search.Activation) :
    page.offering.mark name state = setNode page.index name state := by
  change (page.index.setStateWhere page.nodeInput.dataset page.nodeInput.field name state).1 = _
  rw [named.1, named.2]
  rfl

theorem follows_pin (named : page.Named) : Follows page page.pin.2 := by
  unfold pin
  split
  · exact ⟨rfl, .stay page.offering⟩
  · rename_i selection picked
    refine ⟨rfl, ?_⟩
    have taken : (page.pinned.push ((nodeRow selection.label).madeFrom
        selection.recordId)).toList.map nodeOf = page.nodes ++ [selection.label] := by
      rw [Rows.toList_push, List.map_append, List.map_cons, List.map_nil, nodeOf_madeFrom,
        nodeOf_nodeRow]
      rfl
    have move := Offering.Move.take page.offering selection picked
    rw [named.mark] at move
    change Offering.Move page.offering ⟨_, _, (page.pinned.push ((nodeRow selection.label).madeFrom
      selection.recordId)).toList.map nodeOf⟩
    rw [taken]
    exact move

theorem follows_unpin (named : page.Named) (row : Handle) : Follows page (page.unpin row).2 := by
  unfold unpin
  split
  · exact ⟨rfl, .stay page.offering⟩
  · rename_i r found
    refine ⟨rfl, ?_⟩
    obtain ⟨front, back, held, erased⟩ := Rows.map_toList_erase found nodeOf
    have move := Offering.Move.giveBack page.offering front back (nodeOf r) held
    rw [named.mark] at move
    change Offering.Move page.offering ⟨_, _, (page.pinned.erase row).toList.map nodeOf⟩
    rw [erased]
    exact move

theorem follows_act (named : page.Named) {a : Action} (other : a.isLoad = false) :
    Follows page (page.act a) := by
  have stays : Offering.Move page.offering page.offering := .stay _
  cases a with
  | load s => cases other
  | factInput event => exact ⟨rfl, stays⟩
  | chooseOperator operator => exact ⟨rfl, stays⟩
  | typeValue value => exact ⟨rfl, stays⟩
  | addCondition =>
    rw [act, addCondition]
    split <;> exact ⟨rfl, stays⟩
  | removeCondition row =>
    rw [act, removeCondition]
    split <;> exact ⟨rfl, stays⟩
  | nodeInput event => exact ⟨rfl, .event page.offering event page.mode⟩
  | pin => exact follows_pin named
  | unpin row => exact follows_unpin named row
  | chooseQuantifier quantifier => exact ⟨rfl, stays⟩
  | startCommit =>
    obtain ⟨status, begun⟩ := shape.startCommit_left page
    rw [act, startCommit, begun]
    exact ⟨rfl, stays⟩
  | endCommit outcome => exact ⟨rfl, stays⟩
  | commit s =>
    obtain ⟨status, done⟩ := shape.commit_left page s
    rw [act, commit, done]
    exact ⟨rfl, stays⟩
  | closeLists => exact ⟨rfl, .close page.offering⟩
  | hideBanner => exact ⟨rfl, stays⟩

/-- A load that gets rules loads the nodes and turns the pinned ones off. -/
theorem records_load (page : RulesPage)
    {s t : Session} {d : Rules} (got : (Backend.rulesOf page.group).run.run s = (.ok d, t)) :
    (page.load s).1.index.records Search.certnameKey =
      (loadNodes page.index (((Backend.nodes page.masterZone).run.run t).1.toOption.getD [])
        d.nodes).records Search.certnameKey := by
  unfold load
  rw [got]
  exact Search.Index.records_load_of_ne _ (by decide) _

theorem source_load (page : RulesPage) (s : Session) :
    (page.load s).1.nodeInput = page.nodeInput ∧ (page.load s).1.mode = page.mode := by
  unfold load
  rcases (Backend.rulesOf page.group).run.run s with ⟨answer, t⟩
  cases answer <;> exact ⟨rfl, rfl⟩

structure Sound (group : String) (page : RulesPage) : Prop where
  group : page.group = group
  named : page.Named
  fair : page.offering.Fair

variable {group : String}

theorem sound_new (group : String) (masterZone : Option String) (settings : Settings) :
    Sound group (new group masterZone settings) :=
  ⟨rfl, ⟨rfl, rfl⟩, Offering.fair_new rfl rfl⟩

theorem Sound.act (sound : Sound group page) {a : Action} (other : a.isLoad = false) :
    Sound group (page.act a) := by
  have follows := follows_act sound.named other
  obtain ⟨dataset, field⟩ := follows.move.source
  exact ⟨follows.group.trans sound.group,
    ⟨dataset.trans sound.named.1, field.trans sound.named.2⟩, sound.fair.move follows.move⟩

theorem fair_loadFacts {index : Search.Index} {p : Picker} {taken : List String}
    (dataset : p.dataset = Search.certnameKey) (fair : Offering.Fair ⟨index, p, taken⟩)
    (facts : List Search.Record) :
    Offering.Fair ⟨index.load Search.factsKey facts, p, taken⟩ := by
  have different : p.dataset ≠ Search.factsKey := by
    rw [dataset]
    decide
  exact fair.of_records (Search.Index.records_load_of_ne index different facts)

/-- The first loading puts a page in order whatever the backend answers, if only its rules list no
node twice. -/
theorem Sound.load (sound : Sound group page) (blank : page.offering.Blank) {s : Session}
    (once : ListsOnce group s) : Sound group (page.load s).1 := by
  unfold RulesPage.load
  rcases answered : (Backend.rulesOf page.group).run.run s with ⟨rules, t⟩
  cases rules with
  | error e =>
    exact ⟨sound.group, sound.named, fair_loadFacts sound.named.1 sound.fair _⟩
  | ok d =>
    have distinct : d.nodes.Nodup := by
      rw [sound.group] at answered
      exact once d t answered
    have enabled := Backend.enabled_of_toOption fun records ok =>
      Backend.nodes_enabled (Prod.ext ok rfl :
        (Backend.nodes page.masterZone).run.run t = (.ok records, _))
    have taken : (page.pinned.clear.append (d.nodes.map nodeRow)).toList.map nodeOf = d.nodes := by
      rw [Rows.toList_append, Rows.toList_clear, List.nil_append, List.map_map]
      exact List.map_id d.nodes
    dsimp only
    rcases fetched : (Backend.nodes page.masterZone).run.run t with ⟨records, u⟩
    rw [fetched] at enabled
    have fair := sound.fair.load blank enabled distinct
    refine ⟨sound.group, sound.named, fair_loadFacts sound.named.1 ?_ _⟩
    change Offering.Fair ⟨loadNodes page.index (records.toOption.getD []) d.nodes, page.nodeInput,
      (page.pinned.clear.append (d.nodes.map nodeRow)).toList.map nodeOf⟩
    rw [taken]
    simp only [Offering.markAll, offering, sound.named.1, sound.named.2] at fair
    exact fair

theorem sound_after (masterZone : Option String) (settings : Settings) {actions : List Action}
    (single : actions.countP Action.isLoad ≤ 1)
    (once : ∀ s, .load s ∈ actions → ListsOnce group s) :
    Sound group ((new group masterZone settings).after actions) := by
  refine run_of_load_once act Action.isLoad (Sound group) (fun page => page.offering.Blank)
    (sound_new group masterZone settings) ⟨rfl, rfl⟩ ?_ single ?_
  · intro page a other sound
    have follows := follows_act sound.named other
    exact ⟨sound.act other, fun blank => blank.move sound.fair follows.move⟩
  · intro page a member loads sound blank
    cases a with
    | load s => exact sound.load blank (once s member)
    | _ => cases loads

/-- In every state of a run that loads the page once, with anything else before and after it, no
node is pinned twice, a record with a node name is off just if that node is pinned, and a document
that a commit begins with lists no node twice. -/
theorem pinned_agree (group : String) (masterZone : Option String) (settings : Settings)
    (actions : List Action) (single : actions.countP Action.isLoad ≤ 1)
    (once : ∀ s, .load s ∈ actions → ListsOnce group s) :
    let page := (new group masterZone settings).after actions
    page.nodes.Nodup ∧
      (∀ r ∈ page.index.records Search.certnameKey, ∀ certname,
        r.field? "certname" = some certname →
          (r.state = .disabled ↔ ∃ row ∈ page.pinned.toList, nodeOf row = certname)) ∧
      ∀ d, page.startCommit.1 = .ok d → d.nodes.Nodup := by
  intro page
  have sound : Sound group page := sound_after masterZone settings single once
  refine ⟨sound.fair.distinct, fun r member certname has => ?_, fun d begun => ?_⟩
  · have among : r ∈ page.offering.records := by
      change r ∈ page.index.records page.nodeInput.dataset
      rw [sound.named.1]
      exact member
    have called : r.field? page.nodeInput.field = some certname := by
      rw [sound.named.2]
      exact has
    have off : r.state = .disabled ↔ certname ∈ page.nodes :=
      sound.fair.disabled r among certname called
    rw [off, nodes, List.mem_map]
  · rw [shape.document_of_startCommit begun]
    exact sound.fair.distinct

/-- A node that is pinned from the start and absent from the dataset, another one that is picked
from two records of its name, and a stale handle. -/
theorem pinned_agree_pick :
    let s := Session.start {} (Backend.inTurn
      ["\x7b\"match_type\":\"ALL\",\"facts\":[],\"nodes\":[\"gone\"]\x7d",
        "[\x7b\"id\":\"1\",\"certname\":\"web\"\x7d,\x7b\"id\":\"2\",\"certname\":\"web\"\x7d]"])
    let actions : List Action := [.nodeInput (.focus .zero .zero), .load s,
      .nodeInput (.focus .zero .zero), .nodeInput (.click "2"), .pin, .pin, .unpin 7,
      .chooseQuantifier .any]
    let page := (new "g" none {}).after actions
    actions.countP Action.isLoad ≤ 1 ∧ ListsOnce "g" s ∧
      page.nodes = ["gone", "web"] ∧ page.nodes.Nodup ∧
      (∀ r ∈ page.index.records Search.certnameKey, ∀ certname,
        r.field? "certname" = some certname →
          (r.state = .disabled ↔ ∃ row ∈ page.pinned.toList, nodeOf row = certname)) ∧
      ∀ d, page.startCommit.1 = .ok d → d.nodes.Nodup := by
  intro s actions page
  have single : actions.countP Action.isLoad ≤ 1 := by decide
  have once : ListsOnce "g" s := by
    intro d t found
    have listed : ((Backend.rulesOf "g").run.run s).1.toOption.map (·.nodes) = some ["gone"] := by
      decide +kernel
    rw [found] at listed
    have only : d.nodes = ["gone"] := Option.some.inj listed
    rw [only]
    exact List.nodup_singleton "gone"
  have loads : ∀ t, .load t ∈ actions → ListsOnce "g" t := by
    intro t member
    simp only [actions, List.mem_cons, List.not_mem_nil, reduceCtorEq, false_or, or_false,
      Action.load.injEq] at member
    rw [member]
    exact once
  have agree := pinned_agree "g" none {} actions single loads
  exact ⟨single, once, by decide +kernel, agree⟩

end NodeGroups.Page.RulesPage
