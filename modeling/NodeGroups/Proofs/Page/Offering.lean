import Mathlib.Data.List.Induction
import Mathlib.Data.List.Nodup
import NodeGroups.Proofs.Picker.Listing
import NodeGroups.Proofs.Search.Index

set_option autoImplicit false

namespace NodeGroups.Page

open Search (Index Record Activation Called)
open Search.Index (turn)

/-- An input, the datasets that it searches, and the names that the page has taken from there. -/
structure Offering where
  index : Index
  picker : Picker
  taken : List String

namespace Offering

def records (o : Offering) : List Record := o.index.records o.picker.dataset

/-- Turns the records of a name on or off. -/
def mark (o : Offering) (name : String) (state : Activation) : Index :=
  (o.index.setStateWhere o.picker.dataset o.picker.field name state).1

inductive Move : Offering → Offering → Prop
  | stay (o : Offering) : Move o o
  | event (o : Offering) (event : Picker.Event) (mode : PatternMode) :
      Move o { o with picker := (o.picker.apply event o.index mode).1 }
  | close (o : Offering) : Move o { o with picker := o.picker.close }
  | take (o : Offering) (s : Picker.Selection) (picked : o.picker.selection = some s) :
      Move o ⟨o.mark s.label .disabled, o.picker.clear, o.taken ++ [s.label]⟩
  | giveBack (o : Offering) (front back : List String) (name : String)
      (held : o.taken = front ++ name :: back) :
      Move o ⟨o.mark name .enabled, o.picker, front ++ back⟩

/-- The records that are off are those whose names are taken, each name is taken once, and what the
input lists and holds stands for records, the latter for one that is on. -/
structure Fair (o : Offering) : Prop where
  identified : (o.records.map (·.id)).Nodup
  distinct : o.taken.Nodup
  disabled : ∀ r ∈ o.records, ∀ name, r.field? o.picker.field = some name →
    (r.state = .disabled ↔ name ∈ o.taken)
  listed : ∀ s ∈ o.picker.list.toList, Called o.records o.picker.field s.recordId s.label
  picked : ∀ s, o.picker.selection = some s →
    Called o.records o.picker.field s.recordId s.label ∧ s.label ∉ o.taken

/-- Nothing was loaded and nothing is taken. -/
structure Blank (o : Offering) : Prop where
  records : o.records = []
  taken : o.taken = []

variable {o o' : Offering}

theorem records_mark (o : Offering) (name : String) (state : Activation) :
    (o.mark name state).records o.picker.dataset =
      o.records.map (turn o.picker.field name state) :=
  Search.Index.records_setStateWhere _ _ _ _ _

/-- The records that are off are those whose names are taken, and each name is taken once. -/
structure Tidy (o : Offering) : Prop where
  distinct : o.taken.Nodup
  disabled : ∀ r ∈ o.records, ∀ name, r.field? o.picker.field = some name →
    (r.state = .disabled ↔ name ∈ o.taken)

theorem Fair.tidy (fair : o.Fair) : o.Tidy := ⟨fair.distinct, fair.disabled⟩

/-- A name that is not taken can be taken. -/
theorem Tidy.occupy (tidy : o.Tidy) {name : String} (free : name ∉ o.taken) :
    Tidy ⟨o.mark name .disabled, o.picker, o.taken ++ [name]⟩ where
  distinct := by
    refine List.nodup_append.mpr ⟨tidy.distinct, List.nodup_singleton name, ?_⟩
    intro other taken last among same
    rw [List.mem_singleton.mp among] at same
    exact free (same ▸ taken)
  disabled := by
    intro r member other has
    rw [records, records_mark] at member
    obtain ⟨r, among, rfl⟩ := List.mem_map.mp member
    rw [Search.Index.turn_field?] at has
    rw [Search.Index.turn_state, has, List.mem_append, List.mem_singleton,
      ← tidy.disabled r among other has]
    by_cases same : other = name
    · simp [same]
    · simp [same]

/-- While each name is taken once, one that is given back is taken no longer. -/
theorem Tidy.mem_release (tidy : o.Tidy) {front back : List String} {name : String}
    (held : o.taken = front ++ name :: back) (other : String) :
    other ∈ front ++ back ↔ other ∈ o.taken ∧ other ≠ name := by
  have distinct := tidy.distinct
  rw [held, List.nodup_middle, List.nodup_cons] at distinct
  rw [held]
  constructor
  · intro member
    refine ⟨?_, ?_⟩
    · rcases List.mem_append.mp member with member | member
      · exact List.mem_append_left _ member
      · exact List.mem_append_right _ (List.mem_cons_of_mem name member)
    · rintro rfl
      exact distinct.1 member
  · rintro ⟨member, different⟩
    rcases List.mem_append.mp member with member | member
    · exact List.mem_append_left _ member
    · rcases List.mem_cons.mp member with same | member
      · exact absurd same different
      · exact List.mem_append_right _ member

/-- A name that is taken can be given back. -/
theorem Tidy.release (tidy : o.Tidy) {front back : List String} {name : String}
    (held : o.taken = front ++ name :: back) :
    Tidy ⟨o.mark name .enabled, o.picker, front ++ back⟩ where
  distinct := by
    have distinct := tidy.distinct
    rw [held, List.nodup_middle, List.nodup_cons] at distinct
    exact distinct.2
  disabled := by
    intro r member other has
    rw [records, records_mark] at member
    obtain ⟨r, among, rfl⟩ := List.mem_map.mp member
    rw [Search.Index.turn_field?] at has
    rw [Search.Index.turn_state, has, tidy.mem_release held, ← tidy.disabled r among other has]
    by_cases same : other = name
    · simp [same]
    · simp [same]

theorem identified_mark (identified : (o.records.map (·.id)).Nodup) (name : String)
    (state : Activation) :
    (((o.mark name state).records o.picker.dataset).map (·.id)).Nodup := by
  rw [records_mark]
  exact Search.Index.identified_map_turn identified _ _ _

/-- A name that is not taken can be taken while nothing is picked. -/
theorem Fair.occupy (fair : o.Fair) {name : String} (free : name ∉ o.taken)
    (unpicked : o.picker.selection = none) :
    Fair ⟨o.mark name .disabled, o.picker, o.taken ++ [name]⟩ where
  identified := identified_mark fair.identified _ _
  distinct := (fair.tidy.occupy free).distinct
  disabled := (fair.tidy.occupy free).disabled
  listed := by
    intro s member
    rw [records, records_mark]
    exact (fair.listed s member).map_turn name .disabled
  picked := by
    intro s picked
    rw [unpicked] at picked
    cases picked

theorem Fair.release (fair : o.Fair) {front back : List String} {name : String}
    (held : o.taken = front ++ name :: back) :
    Fair ⟨o.mark name .enabled, o.picker, front ++ back⟩ where
  identified := identified_mark fair.identified _ _
  distinct := (fair.tidy.release held).distinct
  disabled := (fair.tidy.release held).disabled
  listed := by
    intro s member
    rw [records, records_mark]
    exact (fair.listed s member).map_turn name .enabled
  picked := by
    intro s picked
    rw [records, records_mark]
    obtain ⟨called, free⟩ := fair.picked s picked
    exact ⟨called.map_turn name .enabled,
      fun member => free ((fair.tidy.mem_release held _).mp member).1⟩

/-- An input that selects nothing new and lists nothing new stays fair. -/
theorem Fair.of_picker (fair : o.Fair) {p : Picker} (dataset : p.dataset = o.picker.dataset)
    (field : p.field = o.picker.field) (list : p.list = o.picker.list)
    (selection : p.selection = o.picker.selection ∨ p.selection = none) :
    Fair { o with picker := p } := by
  have same : records { o with picker := p } = o.records := by
    rw [records, records, dataset]
  refine ⟨?_, fair.distinct, ?_, ?_, ?_⟩
  · rw [same]
    exact fair.identified
  · rw [same, field]
    exact fair.disabled
  · rw [same, field, list]
    exact fair.listed
  · intro s picked
    rw [same, field]
    rcases selection with kept | dropped
    · exact fair.picked s (kept ▸ picked)
    · rw [dropped] at picked
      cases picked

/-- A click selects a record that is on, so its name is not taken. -/
theorem Fair.offered (fair : o.Fair) {id : String} {s : Search.Suggestion}
    (offered : o.picker.offered? id o.index = some s) :
    Called o.records o.picker.field s.recordId s.label ∧ s.label ∉ o.taken := by
  obtain ⟨listed, named, r, member, same, enabled⟩ := Picker.offered?_spec offered
  have called := fair.listed s listed
  refine ⟨called, fun taken => ?_⟩
  obtain ⟨r', member', same', has⟩ := called
  -- Two records of one identifier are one record.
  have one : r' = r :=
    List.inj_on_of_nodup_map fair.identified member' member (by rw [same', named, same])
  rw [one] at has
  rw [(fair.disabled r member s.label has).mpr taken] at enabled
  cases enabled

theorem records_event (o : Offering) (event : Picker.Event) (mode : PatternMode) :
    records { o with picker := (o.picker.apply event o.index mode).1 } = o.records := by
  rw [records, records, (Picker.apply_source o.picker event o.index mode).1]

theorem Fair.event (fair : o.Fair) (event : Picker.Event) (mode : PatternMode) :
    Fair { o with picker := (o.picker.apply event o.index mode).1 } := by
  have same := records_event o event mode
  have field := (Picker.apply_source o.picker event o.index mode).2
  refine ⟨?_, fair.distinct, ?_, ?_, ?_⟩
  · rw [same]
    exact fair.identified
  · rw [same, field]
    exact fair.disabled
  · rw [same, field]
    rcases Picker.apply_list o.picker event o.index mode with list | ⟨query, found, ok, list⟩
    · rw [list]
      exact fair.listed
    · rw [list, Picker.toList_ofResults]
      exact Search.find_called ok
  · intro s picked
    rw [same, field]
    change (o.picker.apply event o.index mode).1.selection = some s at picked
    rcases Picker.apply_selection o.picker event o.index mode with
      kept | dropped | ⟨id, t, offered, selected⟩
    · exact fair.picked s (kept ▸ picked)
    · rw [dropped] at picked
      cases picked
    · rw [selected] at picked
      cases picked
      exact fair.offered offered

theorem Move.source (move : Move o o') : o'.picker.dataset = o.picker.dataset ∧
    o'.picker.field = o.picker.field := by
  cases move with
  | stay => exact ⟨rfl, rfl⟩
  | event event mode => exact Picker.apply_source o.picker event o.index mode
  | close => exact ⟨rfl, rfl⟩
  | take s picked => exact ⟨rfl, rfl⟩
  | giveBack front back name held => exact ⟨rfl, rfl⟩

/-- Whatever a page does with its offering keeps it fair. -/
theorem Fair.move (fair : o.Fair) (move : Move o o') : o'.Fair := by
  cases move with
  | stay => exact fair
  | event event mode => exact fair.event event mode
  | close => exact fair.of_picker rfl rfl rfl (.inl rfl)
  | take s picked =>
    have cleared : Fair { o with picker := o.picker.clear } :=
      fair.of_picker rfl rfl rfl (.inr rfl)
    exact cleared.occupy (fair.picked s picked).2 rfl
  | giveBack front back name held => exact fair.release held

/-- Before anything is loaded nothing is picked. -/
theorem Fair.unpicked (fair : o.Fair) (blank : o.Blank) : o.picker.selection = none := by
  cases picked : o.picker.selection with
  | none => rfl
  | some s =>
    obtain ⟨⟨r, member, -⟩, -⟩ := fair.picked s picked
    rw [blank.records] at member
    exact absurd member List.not_mem_nil

theorem Blank.move (blank : o.Blank) (fair : o.Fair) (move : Move o o') : o'.Blank := by
  cases move with
  | stay => exact blank
  | event event mode => exact ⟨(records_event o event mode).trans blank.records, blank.taken⟩
  | close => exact ⟨blank.records, blank.taken⟩
  | take s picked =>
    rw [fair.unpicked blank] at picked
    cases picked
  | giveBack front back name held =>
    rw [blank.taken] at held
    exact absurd held.symm (List.append_ne_nil_of_right_ne_nil _ (List.cons_ne_nil _ _))

/-- The datasets after names were turned off, one after another. -/
def markAll (o : Offering) (names : List String) : Index :=
  names.foldl (fun index name =>
    (index.setStateWhere o.picker.dataset o.picker.field name .disabled).1) o.index

/-- Names that are not taken can be taken together. -/
theorem Fair.occupyAll (fair : o.Fair) (unpicked : o.picker.selection = none)
    {names : List String} (distinct : (o.taken ++ names).Nodup) :
    Fair ⟨o.markAll names, o.picker, o.taken ++ names⟩ := by
  induction names generalizing o with
  | nil =>
    rw [List.append_nil]
    exact fair
  | cons name names ih =>
    have free : name ∉ o.taken := by
      intro taken
      exact (List.nodup_append.mp distinct).2.2 name taken name List.mem_cons_self rfl
    have rest : ((o.taken ++ [name]) ++ names).Nodup := by
      rwa [List.append_assoc, List.singleton_append]
    have onward := ih (fair.occupy free unpicked) unpicked rest
    rw [List.append_assoc, List.singleton_append] at onward
    exact onward

/-- A dataset is loaded with names of which each is taken once. -/
theorem Fair.load (fair : o.Fair) (blank : o.Blank) {records : List Record}
    (enabled : ∀ r ∈ records, r.state = .enabled) {names : List String} (distinct : names.Nodup) :
    Fair ⟨markAll { o with index := o.index.load o.picker.dataset records } names, o.picker,
      names⟩ := by
  have loaded : Offering.records { o with index := o.index.load o.picker.dataset records } =
      Search.firstOfEach [] records := Search.Index.records_load _ _ _
  have fresh : Fair ⟨o.index.load o.picker.dataset records, o.picker, []⟩ := by
    refine ⟨?_, List.nodup_nil, ?_, ?_, ?_⟩
    · exact loaded ▸ Search.firstOfEach_nodup [] records
    · intro r member name has
      have kept : r ∈ Search.firstOfEach [] records := loaded ▸ member
      rw [enabled r (Search.mem_firstOfEach kept).1]
      exact iff_of_false (fun off => nomatch off) List.not_mem_nil
    · intro s listed
      obtain ⟨r, member, -⟩ := fair.listed s listed
      rw [blank.records] at member
      exact absurd member List.not_mem_nil
    · intro s picked
      rw [fair.unpicked blank] at picked
      cases picked
  exact fresh.occupyAll (fair.unpicked blank) distinct

theorem Fair.of_records (fair : o.Fair) {index : Index}
    (same : records { o with index } = o.records) : Fair { o with index } := by
  refine ⟨?_, fair.distinct, ?_, ?_, ?_⟩
  · rw [same]
    exact fair.identified
  · rw [same]
    exact fair.disabled
  · rw [same]
    exact fair.listed
  · rw [same]
    exact fair.picked

/-- An input on nothing loaded is fair. -/
theorem fair_new {p : Picker} (unlisted : p.list = .empty) (unpicked : p.selection = none) :
    Fair ⟨.empty, p, []⟩ where
  identified := List.nodup_nil
  distinct := List.nodup_nil
  disabled := fun r member => absurd member List.not_mem_nil
  listed := by
    intro s member
    rw [unlisted] at member
    exact absurd member List.not_mem_nil
  picked := by
    intro s picked
    rw [unpicked] at picked
    cases picked

end Offering

/-- On a page that is loaded once at most, what loading establishes on a page that nothing was
loaded on, and everything else preserves, holds in every state. -/
theorem run_of_load_once {Page Action : Type} (act : Page → Action → Page) (isLoad : Action → Bool)
    (Sound Blank : Page → Prop) {start : Page} (sound : Sound start) (blank : Blank start)
    (keeps : ∀ page a, isLoad a = false → Sound page →
      Sound (act page a) ∧ (Blank page → Blank (act page a)))
    {actions : List Action} (single : actions.countP isLoad ≤ 1)
    (loads : ∀ page, ∀ a ∈ actions, isLoad a = true → Sound page → Blank page →
      Sound (act page a)) :
    Sound (actions.foldl act start) := by
  -- Whether the page is still blank must be known when its loading comes.
  have both : Sound (actions.foldl act start) ∧
      (actions.countP isLoad = 0 → Blank (actions.foldl act start)) := by
    induction actions using List.reverseRecOn with
    | nil => exact ⟨sound, fun _ => blank⟩
    | append_singleton actions a ih =>
      rw [List.countP_append, List.countP_singleton] at single ⊢
      rw [List.foldl_append]
      have before : actions.countP isLoad ≤ 1 := by omega
      obtain ⟨sound, blank⟩ :=
        ih before fun page b member => loads page b (List.mem_append_left [a] member)
      cases loading : isLoad a with
      | false =>
        obtain ⟨next, still⟩ := keeps _ a loading sound
        exact ⟨next, fun never => still (blank (by omega))⟩
      | true =>
        rw [loading, if_pos rfl] at single
        have last : a ∈ actions ++ [a] := List.mem_append_right actions (List.mem_singleton_self a)
        refine ⟨loads _ a last loading sound (blank (by omega)), fun never => ?_⟩
        rw [if_pos rfl] at never
        omega
  exact both.1

end NodeGroups.Page
