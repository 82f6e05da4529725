import NodeGroups.Proofs.CommandLine.Amending
import NodeGroups.Proofs.Page.RowHistory
import NodeGroups.Proofs.Picker.Typing

set_option autoImplicit false

namespace NodeGroups

namespace Search

variable {records : List Record} {field id label name : String}

/-- Records that are turned off are available no longer. -/
theorem available_map_turn :
    Available (records.map (Index.turn field name .disabled)) field id label ↔
      Available records field id label ∧ label ≠ name := by
  constructor
  · rintro ⟨_, member, enabled, same, has⟩
    obtain ⟨r, among, rfl⟩ := List.mem_map.mp member
    rw [Index.turn_field?] at has
    rw [Index.turn_id] at same
    rw [Index.turn_state] at enabled
    split at enabled
    · cases enabled
    · rename_i other
      refine ⟨⟨r, among, enabled, same, has⟩, fun equal => other ?_⟩
      rw [has, equal]
  · rintro ⟨⟨r, among, enabled, same, has⟩, other⟩
    refine ⟨_, List.mem_map_of_mem among, ?_, ?_, ?_⟩
    · rw [Index.turn_state, has, if_neg (by simpa using other)]
      exact enabled
    · rw [Index.turn_id, same]
    · rw [Index.turn_field?, has]

end Search

namespace Page.RulesPage

open Backend (Session)
open Document (Rules)
open Search (Available Index Record)

theorem records_setNode (index : Index) (node : String) (state : Search.Activation) :
    (setNode index node state).records Search.certnameKey =
      (index.records Search.certnameKey).map (Index.turn "certname" node state) :=
  Search.Index.records_setStateWhere _ _ _ _ _

/-- Pinned nodes are not available. -/
theorem available_foldl_setNode (index : Index) (pinned : List String) (id label : String) :
    Available ((pinned.foldl (fun index node => setNode index node .disabled) index).records
        Search.certnameKey) "certname" id label ↔
      Available (index.records Search.certnameKey) "certname" id label ∧ label ∉ pinned := by
  induction pinned generalizing index with
  | nil => simp
  | cons node pinned ih =>
    rw [List.foldl_cons, ih, records_setNode, Search.available_map_turn, List.mem_cons, not_or,
      and_assoc]

theorem identified_foldl_setNode {index : Index} (pinned : List String)
    (identified : ((index.records Search.certnameKey).map (·.id)).Nodup) :
    (((pinned.foldl (fun index node => setNode index node .disabled) index).records
      Search.certnameKey).map (·.id)).Nodup := by
  induction pinned generalizing index with
  | nil => exact identified
  | cons node pinned ih =>
    refine ih ?_
    rw [records_setNode]
    exact Search.Index.identified_map_turn identified _ _ _

section Load

variable {page : RulesPage} {s t : Session} {d : Rules}

theorem document_load (got : (Backend.rulesOf page.group).run.run s = (.ok d, t)) :
    (page.load s).1.document = d := by
  have shown := page.shown_load got
  rw [document]
  change (_, _, (page.load s).1.pinned.toList.map nodeOf) = _ at shown
  obtain ⟨quantifier, others⟩ := Prod.mk.inj shown
  obtain ⟨conditions, nodes⟩ := Prod.mk.inj others
  rw [quantifier, conditions, nodes]

theorem distinct_load (group : String) (masterZone : Option String) (settings : Settings)
    (s : Session) : ((new group masterZone settings).load s).1.pinned.Distinct := by
  unfold load
  rcases (Backend.rulesOf (new group masterZone settings).group).run.run s with ⟨answer, t⟩
  cases answer with
  | ok d => exact (Rows.distinct_clear _).append _
  | error e => exact Rows.distinct_empty

variable {group : String}

theorem identified_load (got : (Backend.rulesOf group).run.run s = (.ok d, t))
    (masterZone : Option String) (settings : Settings) :
    let loaded := ((new group masterZone settings).load s).1
    ((loaded.index.records loaded.nodeInput.dataset).map (·.id)).Nodup := by
  intro loaded
  have source : loaded.nodeInput = (new group masterZone settings).nodeInput :=
    (source_load _ s).1
  rw [source]
  change ((loaded.index.records Search.certnameKey).map (·.id)).Nodup
  rw [records_load (new group masterZone settings) got]
  refine identified_foldl_setNode d.nodes ?_
  rw [Search.Index.records_load]
  exact Search.firstOfEach_nodup [] _

/-- A node is not pinned yet, and the backend then lists a record of it. Of several records with one
identifier the first counts. -/
def Pinnable (d : Rules) (t : Session) (masterZone : Option String) (certname : String) : Prop :=
  certname ∉ d.nodes ∧ ∃ records u, (Backend.nodes masterZone).run.run t = (.ok records, u) ∧
    ∃ r ∈ Search.firstOfEach [] records, r.field? "certname" = some certname

/-- The nodes that can be picked on a new page are those that can be pinned. -/
theorem available_load (got : (Backend.rulesOf group).run.run s = (.ok d, t))
    (masterZone : Option String) (settings : Settings) (certname : String) :
    let loaded := ((new group masterZone settings).load s).1
    (∃ id, Available (loaded.index.records loaded.nodeInput.dataset) loaded.nodeInput.field id
      certname) ↔ Pinnable d t masterZone certname := by
  intro loaded
  unfold Pinnable
  have source : loaded.nodeInput = (new group masterZone settings).nodeInput :=
    (source_load _ s).1
  have records := records_load (new group masterZone settings) got
  have listed : ∀ id, Available (loaded.index.records loaded.nodeInput.dataset)
      loaded.nodeInput.field id certname ↔
        Available (Search.firstOfEach []
          (((Backend.nodes masterZone).run.run t).1.toOption.getD [])) "certname" id certname ∧
        certname ∉ d.nodes := by
    intro id
    rw [source]
    change Available (loaded.index.records Search.certnameKey) "certname" id certname ↔ _
    rw [records, loadNodes, available_foldl_setNode, Search.Index.records_load]
    rfl
  simp only [listed]
  rcases fetched : (Backend.nodes masterZone).run.run t with ⟨answer, u⟩
  cases answer with
  | error e =>
    constructor
    · rintro ⟨id, ⟨r, member, -⟩, -⟩
      exact absurd member List.not_mem_nil
    · rintro ⟨-, _, _, got, -⟩
      cases got
  | ok records =>
    constructor
    · rintro ⟨id, ⟨r, member, -, -, has⟩, unpinned⟩
      exact ⟨unpinned, records, u, rfl, r, member, has⟩
    · rintro ⟨unpinned, _, _, got, r, member, has⟩
      cases got
      have enabled := Backend.nodes_enabled fetched r (Search.mem_firstOfEach member).1
      exact ⟨r.id, ⟨r, member, enabled, rfl, has⟩, unpinned⟩

end Load

/-- The row of a node is the first that shows it. -/
theorem nodes_erase {page : RulesPage} (distinct : page.pinned.Distinct) {certname : String}
    {row : Handle} (found : page.pinnedRow? certname = some row) :
    (page.pinned.erase row).toList.map nodeOf = (page.pinned.toList.map nodeOf).erase certname := by
  rw [pinnedRow?, Option.map_eq_some_iff] at found
  obtain ⟨e, first, rfl⟩ := found
  obtain ⟨named, front, back, split, before⟩ := List.find?_eq_some_iff_append.mp first
  have named : nodeOf e.2 = certname := beq_iff_eq.mp named
  have apart : ∀ f ∈ front, ¬ (f.1 == e.1) = true := by
    have apart := distinct.apart
    rw [Rows.handles, split, List.map_append, List.map_cons] at apart
    intro f member same
    exact (List.nodup_append.mp apart).2.2 f.1 (List.mem_map_of_mem member) e.1
      List.mem_cons_self (beq_iff_eq.mp same)
  have erased : (page.pinned.erase e.1).entries = front ++ back := by
    have here : (e :: back).eraseP (fun f => f.1 == e.1) = back :=
      List.eraseP_cons_of_pos (beq_self_eq_true e.1)
    rw [Rows.erase, split, List.eraseP_append_right _ apart, here]
  have other : certname ∉ (front.map Prod.snd).map nodeOf := by
    rw [List.map_map]
    intro member
    obtain ⟨f, among, same⟩ := List.mem_map.mp member
    have differs := before f among
    rw [Function.comp_apply] at same
    simp [same] at differs
  rw [Rows.toList, erased, Rows.toList, split, List.map_append, List.map_append, List.map_append,
    List.map_cons, List.map_append, List.map_cons, named, List.erase_append_right _ other,
    List.erase_cons_head]

theorem handles_pinnedRow? {page : RulesPage} {certname : String} {row : Handle}
    (found : page.pinnedRow? certname = some row) : row ∈ page.pinned.handles := by
  rw [pinnedRow?, Option.map_eq_some_iff] at found
  obtain ⟨e, first, rfl⟩ := found
  exact List.mem_map_of_mem (List.mem_of_find?_eq_some first)

theorem pinnedRow?_eq_none {page : RulesPage} {certname : String} :
    page.pinnedRow? certname = none ↔ certname ∉ page.pinned.toList.map nodeOf := by
  rw [pinnedRow?, Option.map_eq_none_iff, List.find?_eq_none, Rows.toList, List.map_map]
  simp

end Page.RulesPage

namespace CommandLine

open Backend (Session writes)
open Document (Rules)
open Page (Handle RulesPage Status)
open Search (Available)

section Pick

variable {page : RulesPage} {certname : String}

/-- Why a node cannot be picked. -/
def unknownNode (certname : String) : Trace :=
  .ofNote ("node " ++ certname ++ " is unknown or already pinned")

def typedNode (page : RulesPage) (certname : String) : Picker :=
  page.nodeInput.asked .zero .zero certname page.index page.mode

theorem pickNode_eq (page : RulesPage) (certname : String) :
    pickNode page certname =
      match (typedNode page certname).list.toList.find? fun s => s.label == certname with
      | none => .error (unknownNode certname)
      | some s => .ok { page with nodeInput :=
          ((typedNode page certname).apply (.click s.recordId) page.index page.mode).1 } := rfl

theorem pickNode_of_available {id : String} (itself : Search.FindsItself page.mode certname)
    (identified : ((page.index.records page.nodeInput.dataset).map (·.id)).Nodup)
    (available : Available (page.index.records page.nodeInput.dataset) page.nodeInput.field id
      certname) :
    ∃ input s, pickNode page certname = .ok { page with nodeInput := input } ∧
      input.selection = some s ∧ s.label = certname := by
  obtain ⟨dataset, field⟩ := page.nodeInput.asked_source .zero .zero certname page.index page.mode
  have lists := page.nodeInput.listsAvailable_asked .zero .zero certname page.index page.mode
  have isOpen := page.nodeInput.isOpen_asked .zero .zero certname page.index page.mode
  have complete := page.nodeInput.listsAll_asked .zero .zero certname page.index itself id
  rw [dataset, field] at complete
  obtain ⟨s, listed, -, label⟩ := complete available
  obtain ⟨first, found⟩ : ∃ first, (typedNode page certname).list.toList.find?
      (fun s => s.label == certname) = some first :=
    Option.isSome_iff_exists.mp (List.find?_isSome.mpr ⟨s, listed, beq_iff_eq.mpr label⟩)
  have selected := lists.click isOpen (by rwa [dataset]) (List.mem_of_find?_eq_some found) page.mode
  rw [pickNode_eq, found]
  exact ⟨_, _, rfl, selected, by simpa using List.find?_some found⟩

theorem pickNode_of_unlisted
    (unlisted : ∀ s ∈ (typedNode page certname).list.toList, s.label ≠ certname) :
    pickNode page certname = .error (unknownNode certname) := by
  have none : (typedNode page certname).list.toList.find? (fun s => s.label == certname) = none :=
    List.find?_eq_none.mpr fun s listed same => unlisted s listed (beq_iff_eq.mp same)
  rw [pickNode_eq, none]

theorem pickNode_of_unavailable
    (unavailable : ¬ ∃ id, Available (page.index.records page.nodeInput.dataset)
      page.nodeInput.field id certname) :
    pickNode page certname = .error (unknownNode certname) := by
  obtain ⟨dataset, field⟩ := page.nodeInput.asked_source .zero .zero certname page.index page.mode
  have lists := page.nodeInput.listsAvailable_asked .zero .zero certname page.index page.mode
  refine pickNode_of_unlisted fun s listed same => unavailable ⟨s.recordId, ?_⟩
  have available := lists s listed
  rwa [dataset, field, same] at available

end Pick

theorem withNode_of_available {page : RulesPage} {certname id : String}
    (itself : Search.FindsItself page.mode certname)
    (identified : ((page.index.records page.nodeInput.dataset).map (·.id)).Nodup)
    (available : Available (page.index.records page.nodeInput.dataset) page.nodeInput.field id
      certname) :
    ∃ next, withNode certname page = .ok next ∧ next.group = page.group ∧
      next.status = page.status.markEdited ∧
        next.document = { page.document with nodes := page.document.nodes ++ [certname] } := by
  obtain ⟨input, s, picked, selected, label⟩ := pickNode_of_available itself identified available
  rw [withNode, picked]
  change ∃ next, unrefused (RulesPage.pin { page with nodeInput := input }) = .ok next ∧ _
  rw [RulesPage.pin]
  dsimp only
  rw [selected]
  refine ⟨_, rfl, rfl, rfl, ?_⟩
  rw [RulesPage.document, RulesPage.document]
  dsimp only
  rw [Page.Rows.toList_push, List.map_append, List.map_cons, List.map_nil,
    RulesPage.nodeOf_madeFrom, RulesPage.nodeOf_nodeRow, label]

theorem withNode_of_unpicked {page : RulesPage} {certname : String} {e : Trace}
    (unpicked : pickNode page certname = .error e) : withNode certname page = .error e := by
  rw [withNode, unpicked]
  rfl

theorem withoutNode_of_pinned {page : RulesPage} (new : page.status = .initial)
    (distinct : page.pinned.Distinct) (group : String) {certname : String}
    (pinned : certname ∈ page.document.nodes) :
    ∃ next, withoutNode group certname page = .ok next ∧ next.group = page.group ∧
      next.status.canCommit = true ∧
        next.document = { page.document with nodes := page.document.nodes.erase certname } := by
  obtain ⟨row, found⟩ : ∃ row, page.pinnedRow? certname = some row :=
    Option.ne_none_iff_exists'.mp fun none => RulesPage.pinnedRow?_eq_none.mp none pinned
  obtain ⟨r, there⟩ := Page.Rows.get?_of_mem (RulesPage.handles_pinnedRow? found)
  rw [withoutNode, found]
  dsimp only
  rw [RulesPage.unpin, there]
  refine ⟨_, rfl, rfl, ?_, ?_⟩
  · change page.status.markEdited.canCommit = true
    rw [new]
    rfl
  · rw [RulesPage.document, RulesPage.document]
    dsimp only
    rw [RulesPage.nodes_erase distinct found]

theorem withoutNode_of_unpinned {page : RulesPage} {certname : String}
    (unpinned : certname ∉ page.document.nodes) (group : String) :
    ∃ e, withoutNode group certname page = .error e := by
  rw [withoutNode, RulesPage.pinnedRow?_eq_none.mpr unpinned]
  exact ⟨_, rfl⟩

section Loaded

variable {group : String} {masterZone : Option String} {s t : Session} {d : Rules}
  {change : RulesPage → Except Trace RulesPage}

theorem amendRules_refuses {e : Trace}
    (got : (Backend.rulesOf group).run.run s = (.ok d, t)) (unwritten : writes s = [])
    (refused : change ((RulesPage.new group masterZone s.settings).load s).1 = .error e) :
    Refuses ((amend (openRules group masterZone) change (commitPage RulesPage.shape)).run.run s) :=
  amend_refuses (openRules_of_ok got masterZone).1 (RulesPage.continues_load _ s) unwritten refused

theorem amendRules_puts {next : RulesPage}
    (got : (Backend.rulesOf group).run.run s = (.ok d, t)) (unwritten : writes s = [])
    (changed : change ((RulesPage.new group masterZone s.settings).load s).1 = .ok next)
    (same : next.group = ((RulesPage.new group masterZone s.settings).load s).1.group)
    (ready : next.status.canCommit = true) :
    Puts ((amend (openRules group masterZone) change (commitPage RulesPage.shape)).run.run s)
      (s.settings.url (Backend.memberPath s.settings.paths.rules group)) next.document.toJson := by
  have path : RulesPage.writer.pathOf next s.settings.paths =
      Backend.memberPath s.settings.paths.rules group := by
    change Backend.memberPath _ next.group = _
    rw [same, RulesPage.group_load]
    rfl
  rw [← path]
  exact amend_puts RulesPage.writer (openRules_of_ok got masterZone).1
    (RulesPage.continues_load _ s) unwritten changed ready

end Loaded

section Served

variable {group : String} {s t : Session} {d : Rules}

theorem pin_spec (literal : s.settings.patternMode = .literal)
    (got : (Backend.rulesOf group).run.run s = (.ok d, t)) (unwritten : writes s = [])
    (certname : String) (masterZone : Option String) :
    let ran := (pin group certname masterZone).run.run s
    let url := s.settings.url (Backend.memberPath s.settings.paths.rules group)
    (RulesPage.Pinnable d t masterZone certname →
        Puts ran url (Rules.toJson { d with nodes := d.nodes ++ [certname] })) ∧
      (¬ RulesPage.Pinnable d t masterZone certname → Refuses ran) := by
  have new := (openRules_of_ok got masterZone).2
  have available := RulesPage.available_load got masterZone s.settings certname
  have identified := RulesPage.identified_load got masterZone s.settings
  have mode : ((RulesPage.new group masterZone s.settings).load s).1.mode = .literal :=
    (RulesPage.source_load _ s).2.trans literal
  have itself := Search.findsItself_literal certname
  rw [← mode] at itself
  have document : ((RulesPage.new group masterZone s.settings).load s).1.document = d :=
    RulesPage.document_load got
  rw [pin_eq]
  refine ⟨fun pinnable => ?_, fun unpinnable => ?_⟩
  · obtain ⟨id, there⟩ := available.mpr pinnable
    obtain ⟨next, changed, same, status, written⟩ :=
      withNode_of_available itself identified there
    have ready : next.status.canCommit = true := by
      rw [status, new]
      rfl
    rw [document] at written
    rw [← written]
    exact amendRules_puts got unwritten changed same ready
  · have refused := pickNode_of_unavailable (available.not.mpr unpinnable)
    exact amendRules_refuses got unwritten (withNode_of_unpicked refused)

theorem unpin_spec (got : (Backend.rulesOf group).run.run s = (.ok d, t))
    (unwritten : writes s = []) (certname : String) :
    let ran := (unpin group certname).run.run s
    let url := s.settings.url (Backend.memberPath s.settings.paths.rules group)
    (certname ∈ d.nodes → Puts ran url (Rules.toJson { d with nodes := d.nodes.erase certname })) ∧
      (certname ∉ d.nodes → Refuses ran) := by
  have new := (openRules_of_ok got none).2
  have distinct := RulesPage.distinct_load group none s.settings s
  have document : ((RulesPage.new group none s.settings).load s).1.document = d :=
    RulesPage.document_load got
  rw [unpin_eq]
  refine ⟨fun pinned => ?_, fun unpinned => ?_⟩
  · rw [← document] at pinned
    obtain ⟨next, changed, same, ready, written⟩ := withoutNode_of_pinned new distinct group pinned
    rw [document] at written
    rw [← written]
    exact amendRules_puts got unwritten changed same ready
  · rw [← document] at unpinned
    obtain ⟨e, refused⟩ := withoutNode_of_unpinned unpinned group
    exact amendRules_refuses got unwritten refused

end Served

end CommandLine

end NodeGroups
