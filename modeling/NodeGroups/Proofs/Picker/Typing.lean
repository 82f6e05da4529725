import Mathlib.Data.List.Nodup
import NodeGroups.Proofs.Picker.Listing
import NodeGroups.Proofs.Search.Itself

set_option autoImplicit false

namespace NodeGroups

namespace Search

/-- An enabled record has an identifier, and a field with a text. -/
def Available (records : List Record) (field id label : String) : Prop :=
  ∃ r ∈ records, r.state = .enabled ∧ r.id = id ∧ r.field? field = some label

variable {q : Query} {field : String} {records : List Record}

theorem Query.suggestion?_available {r : Record} {s : Suggestion} (member : r ∈ records)
    (found : q.suggestion? field r = some s) : Available records field s.recordId s.label := by
  have called := suggestion?_called found
  refine ⟨r, member, ?_, called⟩
  unfold suggestion? at found
  split at found
  · rename_i enabled
    exact beq_iff_eq.mp enabled
  · cases found

theorem Query.filter_available {s : Suggestion} (member : s ∈ q.filter field records) :
    Available records field s.recordId s.label := by
  obtain ⟨r, among, found⟩ := List.mem_filterMap.mp member
  exact suggestion?_available among found

theorem Query.finds {label id : String} (found : (q.fragmentsOf? label).isSome = true)
    (available : Available records field id label) :
    ∃ s ∈ q.filter field records, s.recordId = id ∧ s.label = label := by
  obtain ⟨r, member, enabled, same, has⟩ := available
  obtain ⟨fragments, marks⟩ := Option.isSome_iff_exists.mp found
  have suggested : q.suggestion? field r = some ⟨r.id, label, r.name, fragments⟩ := by
    have on : r.isEnabled = true := beq_iff_eq.mpr enabled
    rw [suggestion?, if_pos on, has]
    simp only [Option.bind_eq_bind, Option.bind_some, marks]
    rfl
  exact ⟨_, List.mem_filterMap.mpr ⟨r, member, suggested⟩, same, rfl⟩

/-- A query finds the label of every suggestion that it makes. -/
theorem Query.found_of_mem_filter {s : Suggestion} (member : s ∈ q.filter field records) :
    (q.fragmentsOf? s.label).isSome = true := by
  obtain ⟨r, -, suggested⟩ := List.mem_filterMap.mp member
  unfold suggestion? at suggested
  split at suggested
  · obtain ⟨label, -, suggested⟩ := Option.bind_eq_some_iff.mp suggested
    obtain ⟨fragments, marks, suggested⟩ := Option.bind_eq_some_iff.mp suggested
    cases suggested
    exact Option.isSome_iff_exists.mpr ⟨fragments, marks⟩
  · cases suggested

end Search

namespace Picker

open Search (Available Index Suggestion)

/-- What an input lists are enabled records of its dataset. -/
def ListsAvailable (p : Picker) (index : Index) : Prop :=
  ∀ s ∈ p.list.toList, Available (index.records p.dataset) p.field s.recordId s.label

/-- An input lists every enabled record of a label. -/
def ListsAll (p : Picker) (index : Index) (label : String) : Prop :=
  ∀ id, Available (index.records p.dataset) p.field id label →
    ∃ s ∈ p.list.toList, s.recordId = id ∧ s.label = label

variable {p : Picker} {index : Index} {mode : PatternMode} {label : String}

theorem find_of_ok {query field : String} {records : List Search.Record} {found : List Suggestion}
    (ok : Search.find mode query field records = .ok found) :
    ∃ q, Search.Query.ofText mode query = .ok q ∧ found = q.filter field records := by
  unfold Search.find at ok
  cases read : Search.Query.ofText mode query with
  | error e =>
    rw [read] at ok
    cases ok
  | ok q =>
    rw [read] at ok
    cases ok
    exact ⟨q, rfl, rfl⟩

/-- A text that is no pattern leaves the list as it was, and any other finds enabled records. -/
theorem ListsAvailable.relist (lists : p.ListsAvailable index) (query : String) :
    (p.relist query index mode).ListsAvailable index := by
  have source := relist_source p index mode query
  rw [ListsAvailable, source.1, source.2]
  rcases relist_list p index mode query with kept | ⟨found, ok, list⟩
  · rw [kept]
    exact lists
  · obtain ⟨q, -, rfl⟩ := find_of_ok ok
    rw [list, toList_ofResults]
    exact fun s => Search.Query.filter_available

theorem ListsAll.relist (lists : p.ListsAll index label) (itself : Search.FindsItself mode label) :
    (p.relist label index mode).ListsAll index label := by
  have source := relist_source p index mode label
  rw [ListsAll, source.1, source.2]
  rcases relist_list p index mode label with kept | ⟨found, ok, list⟩
  · rw [kept]
    exact lists
  · obtain ⟨q, read, rfl⟩ := find_of_ok ok
    rw [list, toList_ofResults]
    exact fun id => Search.Query.finds (itself q read)

theorem lists_onFocus (p : Picker) (index : Index) (mode : PatternMode) (box : Box)
    (scroll : Numeric.Binary) (label : String) :
    (p.onFocus box scroll index mode).ListsAvailable index ∧
      (p.onFocus box scroll index mode).ListsAll index label := by
  have list : (p.onFocus box scroll index mode).list =
      .ofResults (Search.Query.everything.filter p.field (index.records p.dataset)) := rfl
  have source : (p.onFocus box scroll index mode).dataset = p.dataset ∧
      (p.onFocus box scroll index mode).field = p.field := relist_source _ index mode ""
  rw [ListsAvailable, ListsAll, source.1, source.2, list, toList_ofResults]
  exact ⟨fun s => Search.Query.filter_available, fun id => Search.Query.finds rfl⟩

section Asked

variable (p : Picker) (box : Box) (scroll : Numeric.Binary) (label : String) (index : Index)

/-- The input right before a text that it got is looked up. -/
def looking (mode : PatternMode) : Picker :=
  { p.onFocus box scroll index mode with
    latched := false, selection := none, text := label, stage := .querying }

theorem listsAvailable_asked (mode : PatternMode) :
    (p.asked box scroll label index mode).ListsAvailable index :=
  ListsAvailable.relist (p := p.looking box scroll label index mode)
    (lists_onFocus p index mode box scroll label).1 label

theorem listsAll_asked (itself : Search.FindsItself mode label) :
    (p.asked box scroll label index mode).ListsAll index label :=
  ListsAll.relist (p := p.looking box scroll label index mode)
    (lists_onFocus p index mode box scroll label).2 itself

/-- A label that is a pattern and does not find itself is not listed once it is typed. -/
theorem ne_of_mem_asked (missed : ¬ Search.FindsItself mode label) :
    ∀ s ∈ (p.asked box scroll label index mode).list.toList, s.label ≠ label := by
  obtain ⟨q, missed⟩ := not_forall.mp missed
  obtain ⟨read, unfound⟩ := Classical.not_imp.mp missed
  let looking := p.looking box scroll label index mode
  have found : Search.find mode label looking.field (index.records looking.dataset) =
      .ok (q.filter looking.field (index.records looking.dataset)) := by
    rw [Search.find, read]
    rfl
  have list : (p.asked box scroll label index mode).list =
      .ofResults (q.filter looking.field (index.records looking.dataset)) := by
    change (looking.relist label index mode).list = _
    rw [relist, found]
  rw [list, toList_ofResults]
  intro s member same
  rw [← same] at unfound
  exact unfound (Search.Query.found_of_mem_filter member)

end Asked

/-- A click on what is listed selects it, as long as no two records have one identifier. -/
theorem ListsAvailable.click (lists : p.ListsAvailable index) (isOpen : p.isOpen = true)
    (identified : ((index.records p.dataset).map (·.id)).Nodup) {s : Suggestion}
    (listed : s ∈ p.list.toList) (mode : PatternMode) :
    (p.apply (.click s.recordId) index mode).1.selection = some ⟨s.recordId, s.label⟩ := by
  obtain ⟨r, member, enabled, same, has⟩ := lists s listed
  have there : (index.records p.dataset).any (fun r => r.id == s.recordId && r.isEnabled) = true :=
    List.any_eq_true.mpr ⟨r, member, by simp [same, Search.Record.isEnabled, enabled]⟩
  have offered : p.offered? s.recordId index =
      p.list.toList.find? fun other => other.recordId == s.recordId := by
    rw [offered?, isOpen, there]
    rfl
  obtain ⟨other, found⟩ : ∃ other,
      p.list.toList.find? (fun other => other.recordId == s.recordId) = some other :=
    Option.isSome_iff_exists.mp (List.find?_isSome.mpr ⟨s, listed, beq_self_eq_true s.recordId⟩)
  have alike : other.recordId = s.recordId := by simpa using List.find?_some found
  obtain ⟨r', member', -, same', has'⟩ := lists other (List.mem_of_find?_eq_some found)
  have one : r' = r :=
    List.inj_on_of_nodup_map identified member' member (by rw [same', alike, same])
  rw [one, has] at has'
  rw [apply, offered, found, Option.some.inj has', ← alike]
  rfl

end Picker

end NodeGroups
