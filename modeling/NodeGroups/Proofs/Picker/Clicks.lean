import Mathlib.Data.List.Induction
import NodeGroups.Proofs.Picker.Listing
import NodeGroups.Proofs.Search.Change

set_option autoImplicit false

namespace NodeGroups

open Search (Index Record Suggestion)

namespace Search

/-- What a query finds are suggestions for some of the records, in their order. -/
theorem Query.ids_filter (q : Query) (field : String) (records : List Record) :
    ((q.filter field records).map (·.recordId)).Sublist (records.map (·.id)) := by
  induction records with
  | nil => exact .slnil
  | cons r records ih =>
    rw [filter] at ih ⊢
    cases found : q.suggestion? field r with
    | none =>
      rw [List.filterMap_cons_none found]
      exact ih.cons r.id
    | some s =>
      rw [List.filterMap_cons_some found, List.map_cons, List.map_cons,
        (suggestion?_called found).1]
      exact ih.cons_cons s.recordId

theorem find_nodup {mode : PatternMode} {text field : String} {records : List Record}
    {found : List Suggestion} (ok : find mode text field records = .ok found)
    (identified : (records.map (·.id)).Nodup) : (found.map (·.recordId)).Nodup := by
  unfold find at ok
  cases read : Query.ofText mode text with
  | error e =>
    rw [read] at ok
    cases ok
  | ok q =>
    rw [read] at ok
    cases ok
    exact identified.sublist (q.ids_filter field records)

end Search

namespace Picker

/-- What the parts of an input say of each other. -/
structure Coherent (p : Picker) : Prop where
  /-- A list of suggestions is not empty, and no two of them are for one record. -/
  items : ∀ found, p.list = .items found → found ≠ [] ∧ (found.map (·.recordId)).Nodup
  selected : p.stage = .selected → p.selection.isSome = true
  labelled : ∀ s, p.selection = some s → s.label = p.text
  latched : p.latched = true → p.selection.isSome = true

variable {p : Picker} {index : Index}

theorem coherent_onField (dataset field : String) (widthPad : Numeric.Binary) :
    (onField dataset field widthPad).Coherent where
  items := nofun
  selected := nofun
  labelled := nofun
  latched := nofun

theorem items_ofResults {results : List Suggestion}
    (distinct : (results.map (·.recordId)).Nodup) (found : List Suggestion)
    (listed : Suggestions.ofResults results = .items found) :
    found ≠ [] ∧ (found.map (·.recordId)).Nodup := by
  cases results with
  | nil => cases listed
  | cons s results =>
    cases listed
    exact ⟨List.cons_ne_nil s results, distinct⟩

theorem Coherent.relist (coherent : p.Coherent)
    (identified : ((index.records p.dataset).map (·.id)).Nodup) (query : String)
    (mode : PatternMode) : (p.relist query index mode).Coherent := by
  unfold Picker.relist
  split
  · rename_i results ok
    exact ⟨items_ofResults (Search.find_nodup ok identified), coherent.selected,
      coherent.labelled, coherent.latched⟩
  · exact ⟨coherent.items, coherent.selected, coherent.labelled, coherent.latched⟩

theorem Coherent.close (coherent : p.Coherent) : p.close.Coherent :=
  ⟨coherent.items, nofun, coherent.labelled, coherent.latched⟩

theorem Coherent.clear (coherent : p.Coherent) : p.clear.Coherent :=
  ⟨coherent.items, nofun, nofun, nofun⟩

theorem Coherent.onFocus (coherent : p.Coherent)
    (identified : ((index.records p.dataset).map (·.id)).Nodup) (box : Box)
    (scroll : Numeric.Binary) (mode : PatternMode) :
    (p.onFocus box scroll index mode).Coherent := by
  have focused : Coherent { p with
      focused := true
      latched := false
      stage := .querying
      placement := some (.below box scroll p.widthPad) } :=
    ⟨coherent.items, nofun, coherent.labelled, nofun⟩
  exact focused.relist identified "" mode

theorem Coherent.onKeyUp (coherent : p.Coherent)
    (identified : ((index.records p.dataset).map (·.id)).Nodup) (text : String)
    (mode : PatternMode) : (p.onKeyUp text index mode).Coherent := by
  unfold Picker.onKeyUp
  dsimp only
  split
  · rename_i closed
    refine ⟨coherent.items, fun selected => ?_, nofun, nofun⟩
    rw [closed] at selected
    cases selected
  · have typed : Coherent { p with
        latched := false, selection := none, text, stage := .querying } :=
      ⟨coherent.items, nofun, nofun, nofun⟩
    exact typed.relist identified text mode

/-- A loss of focus that drops the selection leaves the stage in which one is held. -/
theorem Coherent.onBlur (coherent : p.Coherent) : p.onBlur.Coherent := by
  unfold Picker.onBlur
  dsimp only
  split
  · refine ⟨coherent.items, fun selected => ?_, nofun, nofun⟩
    dsimp only at selected
    split at selected
    · cases selected
    · contradiction
  · exact ⟨coherent.items, coherent.selected, coherent.labelled, nofun⟩

theorem Coherent.select (coherent : p.Coherent) (s : Suggestion) : (p.select s).Coherent where
  items := coherent.items
  selected _ := rfl
  labelled t held := by
    cases held
    rfl
  latched _ := rfl

theorem Coherent.apply (coherent : p.Coherent)
    (identified : ((index.records p.dataset).map (·.id)).Nodup) (event : Event)
    (mode : PatternMode) : (p.apply event index mode).1.Coherent := by
  cases event with
  | focus box scroll => exact coherent.onFocus identified box scroll mode
  | keyUp text => exact coherent.onKeyUp identified text mode
  | click id =>
    rw [Picker.apply]
    split
    · exact coherent.select _
    · exact coherent
  | blur => exact coherent.onBlur
  | outsideClick => exact coherent.close

theorem isSome_offered? (p : Picker) (id : String) (index : Index) :
    (p.offered? id index).isSome = true ↔ p.stage ≠ .closed ∧
      id ∈ p.list.toList.map (·.recordId) ∧
        ∃ r ∈ index.records p.dataset, r.id = id ∧ r.state = .enabled := by
  have open_iff : p.isOpen = true ↔ p.stage ≠ .closed := bne_iff_ne
  have enabled_iff : (index.records p.dataset).any (fun r => r.id == id && r.isEnabled) = true ↔
      ∃ r ∈ index.records p.dataset, r.id = id ∧ r.state = .enabled := by
    simp [List.any_eq_true, Record.isEnabled]
  have listed_iff : (p.list.toList.find? fun s => s.recordId == id).isSome = true ↔
      id ∈ p.list.toList.map (·.recordId) := by
    simp [List.find?_isSome]
  rw [offered?, ← open_iff, ← enabled_iff, ← listed_iff]
  split
  · rename_i ready
    have both := (Bool.and_eq_true _ _).mp ready
    exact ⟨fun listed => ⟨both.1, listed, both.2⟩, fun all => all.2.1⟩
  · rename_i unready
    exact iff_of_false Bool.false_ne_true fun all =>
      unready ((Bool.and_eq_true _ _).mpr ⟨all.1, all.2.2⟩)

/-- A click selects what is offered, and otherwise leaves the input as it was. -/
theorem apply_click (p : Picker) (id : String) (index : Index) (mode : PatternMode) :
    (∃ s ∈ p.list.toList, s.recordId = id ∧ p.offered? id index = some s ∧
      p.apply (.click id) index mode = (p.select s, some ⟨id, s.label⟩)) ∨
    (p.offered? id index = none ∧ p.apply (.click id) index mode = (p, none)) := by
  cases offered : p.offered? id index with
  | none => exact .inr ⟨rfl, by rw [apply, offered]⟩
  | some s =>
    obtain ⟨listed, same, -⟩ := offered?_spec offered
    subst same
    exact .inl ⟨s, listed, rfl, rfl, by rw [apply, offered]⟩

theorem apply_answer {event : Event} (noClick : ∀ id, event ≠ .click id) (p : Picker)
    (index : Index) (mode : PatternMode) : (p.apply event index mode).2 = none := by
  cases event with
  | click id => exact absurd rfl (noClick id)
  | focus | keyUp | blur | outsideClick => rfl

/-- An input with the datasets and the mode that it searches with. -/
structure Scene where
  picker : Picker
  index : Index
  mode : PatternMode

namespace Scene

/-- What can be done to an input, to its datasets and to its mode. -/
inductive Step
  | event (event : Event)
  | close
  | clear
  | mode (mode : PatternMode)
  | index (change : Index.Change)

def next (scene : Scene) : Step → Scene
  | .event event =>
    { scene with picker := (scene.picker.apply event scene.index scene.mode).1 }
  | .close => { scene with picker := scene.picker.close }
  | .clear => { scene with picker := scene.picker.clear }
  | .mode mode => { scene with mode }
  | .index change => { scene with index := scene.index.change change }

def new (dataset field : String) (widthPad : Numeric.Binary) (mode : PatternMode) : Scene :=
  ⟨onField dataset field widthPad, .empty, mode⟩

def after (scene : Scene) (steps : List Step) : Scene := steps.foldl next scene

/-- The input is in order, and so are its datasets. -/
structure Sound (dataset : String) (scene : Scene) : Prop where
  dataset : scene.picker.dataset = dataset
  identified : scene.index.Identified
  coherent : scene.picker.Coherent

variable {dataset : String} {scene : Scene}

theorem Sound.next (sound : Sound dataset scene) (step : Step) :
    Sound dataset (scene.next step) := by
  cases step with
  | event event =>
    have source := apply_source scene.picker event scene.index scene.mode
    exact ⟨source.1.trans sound.dataset, sound.identified,
      sound.coherent.apply (sound.identified _) event scene.mode⟩
  | close => exact ⟨sound.dataset, sound.identified, sound.coherent.close⟩
  | clear => exact ⟨sound.dataset, sound.identified, sound.coherent.clear⟩
  | mode mode => exact ⟨sound.dataset, sound.identified, sound.coherent⟩
  | index change => exact ⟨sound.dataset, sound.identified.change change, sound.coherent⟩

theorem sound_after (dataset field : String) (widthPad : Numeric.Binary) (mode : PatternMode)
    (steps : List Step) : Sound dataset ((new dataset field widthPad mode).after steps) := by
  induction steps using List.reverseRecOn with
  | nil => exact ⟨rfl, Search.Index.identified_empty, coherent_onField dataset field widthPad⟩
  | append_singleton steps step ih =>
    rw [after, List.foldl_append]
    exact ih.next step

/-- Whatever was done to an input and its datasets, the input is coherent, and a click selects just
if the list is shown and the record is listed and enabled now: then the answer is that record with
the label that is listed for it, and nothing else of the input changes. Any other click changes
nothing, and nothing but a click selects. -/
theorem click_selects_offered (dataset field : String) (widthPad : Numeric.Binary)
    (mode : PatternMode) (steps : List Step) :
    let scene := (new dataset field widthPad mode).after steps
    let p := scene.picker
    p.Coherent ∧
      (∀ id,
        let clicked := p.apply (.click id) scene.index scene.mode
        (clicked.2.isSome = true ↔ p.stage ≠ .closed ∧ id ∈ p.list.toList.map (·.recordId) ∧
          ∃ r ∈ scene.index.records dataset, r.id = id ∧ r.state = .enabled) ∧
        (∀ s, clicked.2 = some s → (∃ t ∈ p.list.toList, t.recordId = id ∧ s = ⟨id, t.label⟩) ∧
          clicked.1 = { p with
            stage := .selected, selection := some s, text := s.label, latched := true }) ∧
        (clicked.2 = none → clicked.1 = p)) ∧
      ∀ event, (∀ id, event ≠ .click id) → (p.apply event scene.index scene.mode).2 = none := by
  intro scene p
  have sound : Sound dataset scene := sound_after dataset field widthPad mode steps
  refine ⟨sound.coherent, fun id => ?_, fun event noClick => apply_answer noClick p _ _⟩
  intro clicked
  have offers := p.isSome_offered? id scene.index
  rw [show p.dataset = dataset from sound.dataset] at offers
  rw [← offers]
  rcases p.apply_click id scene.index scene.mode with
    ⟨t, listed, same, offered, selects⟩ | ⟨unoffered, stays⟩
  · have answer : clicked = (p.select t, some ⟨id, t.label⟩) := selects
    rw [answer, offered]
    refine ⟨iff_of_true rfl rfl, fun s picked => ?_, nofun⟩
    cases picked
    refine ⟨⟨t, listed, same, rfl⟩, ?_⟩
    rw [select, same]
  · have answer : clicked = (p, none) := stays
    rw [answer, unoffered]
    exact ⟨iff_of_false Bool.false_ne_true Bool.false_ne_true, nofun, fun _ => rfl⟩

end Scene

end Picker

end NodeGroups
