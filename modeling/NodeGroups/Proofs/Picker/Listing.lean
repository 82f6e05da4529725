import NodeGroups.Picker.Basic
import NodeGroups.Proofs.Search.Index

set_option autoImplicit false

namespace NodeGroups

open Search (Index Record Suggestion)

namespace Search

theorem Query.suggestion?_called {q : Query} {field : String} {r : Record} {s : Suggestion}
    (found : q.suggestion? field r = some s) :
    r.id = s.recordId ∧ r.field? field = some s.label := by
  unfold suggestion? at found
  split at found
  · cases has : r.field? field with
    | none =>
      rw [has] at found
      cases found
    | some label =>
      rw [has] at found
      cases parts : q.fragmentsOf? label with
      | none => simp [parts] at found
      | some fragments =>
        simp [parts] at found
        rw [← found]
        exact ⟨rfl, rfl⟩
  · cases found

/-- What is found among records are records, whatever is looked for. -/
theorem find_called {mode : PatternMode} {text field : String} {records : List Record}
    {found : List Suggestion} (ok : find mode text field records = .ok found) :
    ∀ s ∈ found, Called records field s.recordId s.label := by
  intro s member
  unfold find at ok
  cases read : Query.ofText mode text with
  | error e =>
    rw [read] at ok
    cases ok
  | ok q =>
    rw [read] at ok
    cases ok
    obtain ⟨r, among, suggested⟩ := List.mem_filterMap.mp member
    exact ⟨r, among, Query.suggestion?_called suggested⟩

theorem Query.everything_filter_name (records : List Record) :
    everything.filter "name" records =
      (records.filter Record.isEnabled).map fun r => ⟨r.id, r.name, r.name, [.plain r.name]⟩ := by
  induction records with
  | nil => rfl
  | cons r records ih =>
    rw [filter] at ih ⊢
    cases enabled : r.isEnabled with
    | true =>
      have first : everything.suggestion? "name" r =
          some ⟨r.id, r.name, r.name, [.plain r.name]⟩ := by
        rw [suggestion?, enabled]
        rfl
      rw [List.filterMap_cons_some first, ih, List.filter_cons_of_pos enabled, List.map_cons]
    | false =>
      have first : everything.suggestion? "name" r = none := by
        rw [suggestion?, enabled]
        rfl
      rw [List.filterMap_cons_none first, ih, List.filter_cons_of_neg (by simp [enabled])]

end Search

namespace Picker

section Apply

variable (p : Picker) (event : Event) (index : Index) (mode : PatternMode)

theorem relist_source (query : String) : (p.relist query index mode).dataset = p.dataset ∧
    (p.relist query index mode).field = p.field := by
  unfold relist
  split <;> exact ⟨rfl, rfl⟩

theorem relist_selection (query : String) :
    (p.relist query index mode).selection = p.selection := by
  unfold relist
  split <;> rfl

theorem relist_stage (query : String) : (p.relist query index mode).stage = p.stage := by
  unfold relist
  split <;> rfl

theorem relist_list (query : String) :
    (p.relist query index mode).list = p.list ∨
      ∃ found, Search.find mode query p.field (index.records p.dataset) = .ok found ∧
        (p.relist query index mode).list = .ofResults found := by
  unfold relist
  split
  · rename_i found ok
    exact .inr ⟨found, ok, rfl⟩
  · exact .inl rfl

theorem apply_source : (p.apply event index mode).1.dataset = p.dataset ∧
    (p.apply event index mode).1.field = p.field := by
  cases event with
  | focus box scroll => exact relist_source _ index mode ""
  | keyUp text =>
    rw [apply, onKeyUp]
    dsimp only
    split
    · exact ⟨rfl, rfl⟩
    · exact relist_source _ index mode text
  | click id =>
    rw [apply]
    split <;> exact ⟨rfl, rfl⟩
  | blur =>
    rw [apply, onBlur]
    dsimp only
    split <;> exact ⟨rfl, rfl⟩
  | outsideClick => exact ⟨rfl, rfl⟩

/-- An event leaves the list alone, or fills it with what some query finds. -/
theorem apply_list : (p.apply event index mode).1.list = p.list ∨
    ∃ query found, Search.find mode query p.field (index.records p.dataset) = .ok found ∧
      (p.apply event index mode).1.list = .ofResults found := by
  cases event with
  | focus box scroll =>
    exact (relist_list _ index mode "").imp id fun listed => ⟨"", listed⟩
  | keyUp text =>
    rw [apply, onKeyUp]
    dsimp only
    split
    · exact .inl rfl
    · exact (relist_list _ index mode text).imp id fun listed => ⟨text, listed⟩
  | click id =>
    rw [apply]
    split <;> exact .inl rfl
  | blur =>
    rw [apply, onBlur]
    dsimp only
    split <;> exact .inl rfl
  | outsideClick => exact .inl rfl

/-- An event leaves the selection alone or drops it, unless it is a click on what is offered. -/
theorem apply_selection : (p.apply event index mode).1.selection = p.selection ∨
    (p.apply event index mode).1.selection = none ∨
    ∃ id s, p.offered? id index = some s ∧
      (p.apply event index mode).1.selection = some ⟨s.recordId, s.label⟩ := by
  cases event with
  | focus box scroll => exact .inl (relist_selection _ index mode "")
  | keyUp text =>
    rw [apply, onKeyUp]
    dsimp only
    split
    · exact .inr (.inl rfl)
    · exact .inr (.inl (relist_selection _ index mode text))
  | click id =>
    rw [apply]
    split
    · rename_i s offered
      exact .inr (.inr ⟨id, s, offered, rfl⟩)
    · exact .inl rfl
  | blur =>
    rw [apply, onBlur]
    dsimp only
    split
    · exact .inr (.inl rfl)
    · exact .inl rfl
  | outsideClick => exact .inl rfl

end Apply

/-- What is offered is listed, and a record of that identifier is enabled. -/
theorem offered?_spec {p : Picker} {id : String} {index : Index} {s : Suggestion}
    (offered : p.offered? id index = some s) :
    s ∈ p.list.toList ∧ s.recordId = id ∧
      ∃ r ∈ index.records p.dataset, r.id = id ∧ r.state = .enabled := by
  unfold offered? at offered
  split at offered
  · rename_i ready
    refine ⟨List.mem_of_find?_eq_some offered, ?_, ?_⟩
    · simpa using List.find?_some offered
    · obtain ⟨-, any⟩ := (Bool.and_eq_true _ _).mp ready
      obtain ⟨r, member, fits⟩ := List.any_eq_true.mp any
      obtain ⟨same, enabled⟩ := (Bool.and_eq_true _ _).mp fits
      exact ⟨r, member, beq_iff_eq.mp same, beq_iff_eq.mp enabled⟩
  · cases offered

theorem toList_ofResults (results : List Suggestion) :
    (Suggestions.ofResults results).toList = results := by
  cases results <;> rfl

/-- An input on the names of a dataset lists every enabled record when it gets the focus. -/
theorem list_onFocus {p : Picker} (onName : p.field = "name") (box : Box) (scroll : Numeric.Binary)
    (index : Index) (mode : PatternMode) :
    (p.onFocus box scroll index mode).list =
      .ofResults (((index.records p.dataset).filter Record.isEnabled).map fun r =>
        ⟨r.id, r.name, r.name, [.plain r.name]⟩) := by
  have found : Search.find mode "" p.field (index.records p.dataset) =
      .ok (((index.records p.dataset).filter Record.isEnabled).map fun r =>
        ⟨r.id, r.name, r.name, [.plain r.name]⟩) := by
    rw [onName, ← Search.Query.everything_filter_name]
    rfl
  unfold onFocus relist
  dsimp only
  rw [found]

section Asked

variable (p : Picker) (box : Box) (scroll : Numeric.Binary) (query : String) (index : Index)
  (mode : PatternMode)

/-- The input after it got the focus and then a text. -/
def asked : Picker :=
  (((p.apply (.focus box scroll) index mode).1).apply (.keyUp query) index mode).1

theorem asked_source : (p.asked box scroll query index mode).dataset = p.dataset ∧
    (p.asked box scroll query index mode).field = p.field :=
  relist_source _ index mode query

theorem isOpen_asked : (p.asked box scroll query index mode).isOpen = true := by
  have stage : (p.asked box scroll query index mode).stage = .querying :=
    relist_stage _ index mode query
  rw [isOpen, stage]
  rfl

end Asked

end Picker

end NodeGroups
