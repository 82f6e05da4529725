import NodeGroups.Proofs.Page.Offering
import NodeGroups.Proofs.Picker.Clicks
import NodeGroups.Proofs.Picker.Typing

set_option autoImplicit false

namespace NodeGroups

open Search (Available Index Record Suggestion)
open Search.Index (turn)

namespace Search

/-- Records that are available stay so when records are turned on. -/
theorem Available.map_turn {records : List Record} {field id label : String}
    (available : Available records field id label) (name : String) :
    Available (records.map (turn field name .enabled)) field id label := by
  obtain ⟨r, member, enabled, same, has⟩ := available
  refine ⟨_, List.mem_map_of_mem member, ?_, ?_, ?_⟩
  · rw [Index.turn_state, enabled, ite_self]
  · rw [Index.turn_id, same]
  · rw [Index.turn_field?, has]

end Search

namespace Picker

/-- An event lists anew, or it leaves the list alone and does not open it. -/
theorem apply_isOpen (p : Picker) (event : Event) (index : Index) (mode : PatternMode) :
    (∃ query found, Search.find mode query p.field (index.records p.dataset) = .ok found ∧
      (p.apply event index mode).1.list = .ofResults found) ∨
    (p.apply event index mode).1.list = p.list ∧
      ((p.apply event index mode).1.isOpen = true → p.isOpen = true) := by
  cases event with
  | focus box scroll =>
    -- The empty query is always read.
    exact .inl ⟨"", _, rfl, rfl⟩
  | keyUp text =>
    rw [apply, onKeyUp]
    dsimp only
    split
    · rename_i closed
      exact .inr ⟨rfl, fun shown => shown⟩
    · rename_i shown
      rcases relist_list { p with latched := false, selection := none, text, stage := .querying }
        index mode text with kept | listed
      · exact .inr ⟨kept, fun _ => bne_iff_ne.mpr shown⟩
      · exact .inl ⟨text, listed⟩
  | click id =>
    rw [apply]
    split
    · rename_i s offered
      have isSome : (p.offered? id index).isSome = true := by rw [offered]; rfl
      exact .inr ⟨rfl, fun _ => bne_iff_ne.mpr ((isSome_offered? p id index).mp isSome).1⟩
    · exact .inr ⟨rfl, fun shown => shown⟩
  | blur =>
    refine .inr ?_
    rw [apply, onBlur]
    dsimp only
    split
    · refine ⟨rfl, fun shown => ?_⟩
      rw [isOpen] at shown ⊢
      dsimp only at shown
      split at shown
      · rename_i selected
        rw [selected]
        rfl
      · exact shown
    · exact ⟨rfl, fun shown => shown⟩
  | outsideClick => exact .inr ⟨rfl, fun shown => by cases shown⟩

/-- What is shown, listed once and enabled is offered. -/
theorem offered?_of_listed {p : Picker} {index : Index} {s : Suggestion} (shown : p.isOpen = true)
    (once : (p.list.toList.map (·.recordId)).Nodup) (listed : s ∈ p.list.toList) {r : Record}
    (member : r ∈ index.records p.dataset) (same : r.id = s.recordId)
    (enabled : r.state = .enabled) : p.offered? s.recordId index = some s := by
  have isSome : (p.offered? s.recordId index).isSome = true :=
    (isSome_offered? p s.recordId index).mpr
      ⟨bne_iff_ne.mp shown, List.mem_map_of_mem listed, r, member, same, enabled⟩
  obtain ⟨t, offered⟩ := Option.isSome_iff_exists.mp isSome
  obtain ⟨there, alike, -⟩ := offered?_spec offered
  rw [offered, List.inj_on_of_nodup_map once there listed alike]

end Picker

namespace Page.Offering

variable {o o' : Offering}

/-- What is picked is on offer. -/
def Fresh (o : Offering) : Prop :=
  ∀ s, o.picker.selection = some s → Available o.records o.picker.field s.recordId s.label

/-- What is picked is on offer, and what is shown is called as its records are. -/
structure UpToDate (o : Offering) : Prop where
  picked : o.Fresh
  shown : o.picker.isOpen = true → ∀ s ∈ o.picker.list.toList, ∀ r ∈ o.records,
    r.id = s.recordId → r.field? o.picker.field = some s.label

/-- An input that is closed and holds nothing is up to date with any records. -/
theorem upToDate_of_idle (unpicked : o.picker.selection = none) (closed : o.picker.isOpen = false) :
    o.UpToDate := by
  constructor
  · intro s picked
    rw [unpicked] at picked
    cases picked
  · intro shown
    rw [closed] at shown
    cases shown

/-- No two records and no two suggestions have one identifier, and the records that are off bear
names that are taken. -/
structure Grounded (o : Offering) : Prop where
  identified : (o.records.map (·.id)).Nodup
  listed : (o.picker.list.toList.map (·.recordId)).Nodup
  off : ∀ r ∈ o.records, r.state = .disabled →
    ∃ name ∈ o.taken, r.field? o.picker.field = some name

/-- The name of what is picked is not taken, if it is on offer. -/
theorem Fresh.free (fresh : o.Fresh) (tidy : o.Tidy) {s : Picker.Selection}
    (picked : o.picker.selection = some s) : s.label ∉ o.taken := by
  obtain ⟨r, member, enabled, -, has⟩ := fresh s picked
  intro taken
  rw [(tidy.disabled r member s.label has).mpr taken] at enabled
  cases enabled

/-- What is called as some record is called as every record of its identifier. -/
theorem field?_of_called {records : List Record} (identified : (records.map (·.id)).Nodup)
    {field id label : String} (called : Search.Called records field id label) {r : Record}
    (member : r ∈ records) (same : r.id = id) : r.field? field = some label := by
  obtain ⟨r', member', same', has⟩ := called
  have one : r' = r :=
    List.inj_on_of_nodup_map identified member' member (by rw [same', same])
  rw [← one, has]

theorem UpToDate.event (upToDate : o.UpToDate) (grounded : o.Grounded) (event : Picker.Event)
    (mode : PatternMode) :
    UpToDate { o with picker := (o.picker.apply event o.index mode).1 } := by
  have same := records_event o event mode
  have field := (Picker.apply_source o.picker event o.index mode).2
  constructor
  · intro s picked
    rw [same, field]
    change (o.picker.apply event o.index mode).1.selection = some s at picked
    rcases Picker.apply_selection o.picker event o.index mode with
      kept | dropped | ⟨id, t, offered, selected⟩
    · exact upToDate.picked s (kept ▸ picked)
    · rw [dropped] at picked
      cases picked
    · rw [selected] at picked
      cases picked
      obtain ⟨listed, rfl, r, member, alike, enabled⟩ := Picker.offered?_spec offered
      have isSome : (o.picker.offered? t.recordId o.index).isSome = true := by rw [offered]; rfl
      have shown : o.picker.isOpen = true :=
        bne_iff_ne.mpr ((Picker.isSome_offered? _ _ _).mp isSome).1
      exact ⟨r, member, enabled, alike, upToDate.shown shown t listed r member alike⟩
  · intro shown s listed r member alike
    rw [same] at member
    rw [field]
    rcases Picker.apply_isOpen o.picker event o.index mode with
      ⟨query, found, ok, list⟩ | ⟨list, before⟩
    · rw [list, Picker.toList_ofResults] at listed
      exact field?_of_called grounded.identified (Search.find_called ok s listed) member alike
    · rw [list] at listed
      exact upToDate.shown (before shown) s listed r member alike

/-- Whatever the page does with its offering, what is up to date stays so. -/
theorem UpToDate.move (upToDate : o.UpToDate) (grounded : o.Grounded) (move : Move o o') :
    o'.UpToDate := by
  cases move with
  | stay => exact upToDate
  | event event mode => exact upToDate.event grounded event mode
  | close => exact ⟨upToDate.picked, nofun⟩
  | take s picked => exact ⟨nofun, nofun⟩
  | giveBack front back name held =>
    constructor
    · intro s picked
      rw [records, records_mark]
      exact (upToDate.picked s picked).map_turn name
    · intro shown s listed r member alike
      rw [records, records_mark] at member
      obtain ⟨r, among, rfl⟩ := List.mem_map.mp member
      rw [Search.Index.turn_id] at alike
      rw [Search.Index.turn_field?]
      exact upToDate.shown shown s listed r among alike

theorem Grounded.move (grounded : o.Grounded) (move : Move o o') : o'.Grounded := by
  cases move with
  | stay => exact grounded
  | event event mode =>
    have same := records_event o event mode
    have field := (Picker.apply_source o.picker event o.index mode).2
    refine ⟨same ▸ grounded.identified, ?_, ?_⟩
    · dsimp only
      rcases Picker.apply_list o.picker event o.index mode with list | ⟨query, found, ok, list⟩
      · rw [list]
        exact grounded.listed
      · rw [list, Picker.toList_ofResults]
        exact Search.find_nodup ok grounded.identified
    · rw [same, field]
      exact grounded.off
  | close => exact ⟨grounded.identified, grounded.listed, grounded.off⟩
  | take s picked =>
    refine ⟨identified_mark grounded.identified _ _, grounded.listed, ?_⟩
    intro r member disabled
    change r ∈ (o.mark s.label .disabled).records o.picker.dataset at member
    rw [records_mark] at member
    obtain ⟨r, among, rfl⟩ := List.mem_map.mp member
    change ∃ name ∈ o.taken ++ [s.label], (turn _ _ _ r).field? o.picker.field = some name
    rw [Search.Index.turn_state] at disabled
    rw [Search.Index.turn_field?]
    split at disabled
    · rename_i has
      exact ⟨s.label, List.mem_append_right _ (List.mem_singleton_self _), has⟩
    · obtain ⟨name, taken, has⟩ := grounded.off r among disabled
      exact ⟨name, List.mem_append_left _ taken, has⟩
  | giveBack front back name held =>
    refine ⟨identified_mark grounded.identified _ _, grounded.listed, ?_⟩
    intro r member disabled
    rw [records, records_mark] at member
    obtain ⟨r, among, rfl⟩ := List.mem_map.mp member
    rw [Search.Index.turn_state] at disabled
    rw [Search.Index.turn_field?]
    split at disabled
    · cases disabled
    · rename_i differs
      obtain ⟨other, taken, has⟩ := grounded.off r among disabled
      have different : other ≠ name := fun same => differs (same ▸ has)
      rw [held, List.mem_append, List.mem_cons, or_iff_right different] at taken
      exact ⟨other, List.mem_append.mpr taken, has⟩

/-- A click on what is shown under another name than that of its record picks what is not on
offer. -/
theorem Grounded.stale_click (grounded : o.Grounded) (shown : o.picker.isOpen = true)
    {s : Suggestion} (listed : s ∈ o.picker.list.toList) {r : Record} (member : r ∈ o.records)
    (same : r.id = s.recordId) (enabled : r.state = .enabled)
    (differs : r.field? o.picker.field ≠ some s.label) (mode : PatternMode) :
    ¬ Fresh { o with picker := (o.picker.apply (.click s.recordId) o.index mode).1 } := by
  have offered := Picker.offered?_of_listed shown grounded.listed listed member same enabled
  have clicked : (o.picker.apply (.click s.recordId) o.index mode).1 = o.picker.select s := by
    rw [Picker.apply, offered]
  intro fresh
  rw [clicked] at fresh
  obtain ⟨r', member', -, same', has⟩ := fresh ⟨s.recordId, s.label⟩ rfl
  exact differs (field?_of_called grounded.identified ⟨r', member', same', has⟩ member same)

/-- If whatever is clicked on is on offer, also after a name was given back, all is up to date. -/
theorem Grounded.upToDate_of_clicks (grounded : o.Grounded) (mode : PatternMode) (fresh : o.Fresh)
    (clicks : ∀ id, Fresh { o with picker := (o.picker.apply (.click id) o.index mode).1 })
    (freed : ∀ name ∈ o.taken, ∀ id, Fresh { o with
      index := o.mark name .enabled
      picker := (o.picker.apply (.click id) (o.mark name .enabled) mode).1 }) : o.UpToDate := by
  refine ⟨fresh, fun shown s listed r member same => ?_⟩
  by_contra differs
  cases state : r.state with
  | enabled => exact grounded.stale_click shown listed member same state differs mode (clicks _)
  | disabled =>
    -- The name of the record is taken, and once it is given back the record is on.
    obtain ⟨name, taken, has⟩ := grounded.off r member state
    obtain ⟨front, back, held⟩ := List.append_of_mem taken
    have after := grounded.move (.giveBack o front back name held)
    have on : turn o.picker.field name .enabled r ∈
        (o.mark name .enabled).records o.picker.dataset := by
      rw [records_mark]
      exact List.mem_map_of_mem member
    refine after.stale_click shown listed on ?_ ?_ ?_ mode (freed name taken s.recordId)
    · rw [Search.Index.turn_id, same]
    · rw [Search.Index.turn_state, if_pos has]
    · rw [Search.Index.turn_field?]
      exact differs

/-- While what is picked is on offer, each name is taken once whatever the page does. -/
theorem Tidy.move (tidy : o.Tidy) (fresh : o.Fresh) (move : Move o o') : o'.Tidy := by
  cases move with
  | stay => exact tidy
  | event event mode =>
    refine ⟨tidy.distinct, ?_⟩
    rw [records_event o event mode, (Picker.apply_source o.picker event o.index mode).2]
    exact tidy.disabled
  | close => exact ⟨tidy.distinct, tidy.disabled⟩
  | take s picked =>
    have free := fresh.free tidy picked
    have occupied := tidy.occupy free
    exact ⟨occupied.distinct, occupied.disabled⟩
  | giveBack front back name held => exact tidy.release held

/-- No two records have one identifier, and those that are off are the ones of some names. -/
structure Renewed (o : Offering) (names : List String) : Prop where
  identified : (o.records.map (·.id)).Nodup
  off : ∀ r ∈ o.records,
    (r.state = .disabled ↔ ∃ name ∈ names, r.field? o.picker.field = some name)

/-- Only the records count, not how they are kept. -/
theorem Grounded.of_same (grounded : o.Grounded) (picker : o'.picker = o.picker)
    (records : o'.records = o.records) (taken : o'.taken = o.taken) : o'.Grounded := by
  constructor
  · rw [records]
    exact grounded.identified
  · rw [picker]
    exact grounded.listed
  · rw [records, picker, taken]
    exact grounded.off

theorem Tidy.of_same (tidy : o.Tidy) (picker : o'.picker = o.picker)
    (records : o'.records = o.records) (taken : o'.taken = o.taken) : o'.Tidy := by
  constructor
  · rw [taken]
    exact tidy.distinct
  · rw [records, picker, taken]
    exact tidy.disabled

theorem Renewed.of_same {names : List String} (renewed : o.Renewed names)
    (picker : o'.picker = o.picker) (records : o'.records = o.records) : o'.Renewed names := by
  constructor
  · rw [records]
    exact renewed.identified
  · rw [records, picker]
    exact renewed.off

theorem renewed_load (o : Offering) {loaded : List Record}
    (enabled : ∀ r ∈ loaded, r.state = .enabled) :
    Renewed { o with index := o.index.load o.picker.dataset loaded } [] := by
  have same : Offering.records { o with index := o.index.load o.picker.dataset loaded } =
      Search.firstOfEach [] loaded := Search.Index.records_load _ _ _
  refine ⟨same ▸ Search.firstOfEach_nodup [] loaded, fun r member => ?_⟩
  rw [same] at member
  rw [enabled r (Search.mem_firstOfEach member).1]
  simp

theorem Renewed.markAll {old : List String} (renewed : o.Renewed old) (names : List String) :
    Renewed { o with index := o.markAll names } (old ++ names) := by
  induction names generalizing o old with
  | nil =>
    rw [List.append_nil]
    exact renewed
  | cons name names ih =>
    have marked : Renewed { o with index := o.mark name .disabled } (old ++ [name]) := by
      refine ⟨identified_mark renewed.identified _ _, fun r member => ?_⟩
      rw [records, records_mark] at member
      obtain ⟨r, among, rfl⟩ := List.mem_map.mp member
      rw [Search.Index.turn_state, Search.Index.turn_field?]
      dsimp only
      split
      · rename_i has
        exact iff_of_true rfl ⟨name, List.mem_append_right _ (List.mem_singleton_self _), has⟩
      · rename_i differs
        rw [renewed.off r among]
        simp [or_and_right, exists_or, differs]
    have onward := ih marked
    rw [List.append_assoc, List.singleton_append] at onward
    exact onward

theorem Renewed.grounded {names : List String} (renewed : o.Renewed names)
    (taken : ∀ name ∈ names, name ∈ o.taken)
    (listed : (o.picker.list.toList.map (·.recordId)).Nodup) : o.Grounded where
  identified := renewed.identified
  listed := listed
  off := by
    intro r member disabled
    obtain ⟨name, among, has⟩ := (renewed.off r member).mp disabled
    exact ⟨name, taken name among, has⟩

theorem Renewed.tidy (renewed : o.Renewed o.taken) (distinct : o.taken.Nodup) : o.Tidy where
  distinct := distinct
  disabled := by
    intro r member name has
    rw [renewed.off r member, has]
    simp

end Page.Offering

namespace Page

section Runs

variable {Page Action : Type} (act : Page → Action → Page) (isLoad : Action → Bool)
  (Sound : Page → Prop) {start : Page} {actions : List Action}

/-- What holds after each load, and is preserved by everything else, holds in every state. -/
theorem run_of_loads (sound : Sound start)
    (keeps : ∀ page a, isLoad a = false → Sound page → Sound (act page a))
    (loads : ∀ front a back, actions = front ++ a :: back → isLoad a = true →
      Sound (front.foldl act start) → Sound (act (front.foldl act start) a)) :
    Sound (actions.foldl act start) := by
  induction actions using List.reverseRecOn with
  | nil => exact sound
  | append_singleton actions a ih =>
    rw [List.foldl_append]
    have before := ih fun front b back same => loads front b (back ++ [a]) (by simp [same])
    cases loading : isLoad a with
    | false => exact keeps _ a loading before
    | true => exact loads actions a [] rfl loading before

variable (offering : Page → Offering)
  (grounded : ∀ page, Sound page → (offering page).Grounded)
  (keeps : ∀ page a, isLoad a = false → Sound page →
    Sound (act page a) ∧ Offering.Move (offering page) (offering (act page a)))

include grounded keeps

/-- What is up to date is on offer for as long as nothing is loaded. -/
theorem fresh_after (sound : Sound start) (upToDate : (offering start).UpToDate)
    (others : ∀ a ∈ actions, isLoad a = false) : (offering (actions.foldl act start)).Fresh := by
  induction actions generalizing start with
  | nil => exact upToDate.picked
  | cons a actions ih =>
    obtain ⟨next, move⟩ := keeps start a (others a List.mem_cons_self) sound
    exact ih next (upToDate.move (grounded start sound) move) fun b member =>
      others b (List.mem_cons_of_mem a member)

/-- Where clicks, and giving back a name that is taken, are no loads, what is picked is on offer for
as long as nothing is loaded just if all is up to date. -/
theorem stays_fresh_iff (sound : Sound start) (mode : Page → PatternMode) (click : String → Action)
    (quiet : ∀ id, isLoad (click id) = false)
    (clicks : ∀ page id, offering (act page (click id)) = { offering page with
      picker := ((offering page).picker.apply (.click id) (offering page).index (mode page)).1 })
    (frees : ∀ name ∈ (offering start).taken, ∃ a, isLoad a = false ∧
      mode (act start a) = mode start ∧
        (offering (act start a)).index = (offering start).mark name .enabled ∧
        (offering (act start a)).picker = (offering start).picker) :
    (∀ actions : List Action, (∀ a ∈ actions, isLoad a = false) →
      (offering (actions.foldl act start)).Fresh) ↔ (offering start).UpToDate := by
  constructor
  · intro stays
    refine (grounded start sound).upToDate_of_clicks (mode start)
      (stays [] fun _ member => absurd member List.not_mem_nil) (fun id => ?_)
      fun name taken id => ?_
    · have clicked := stays [click id] (by simp [quiet])
      rw [List.foldl_cons, List.foldl_nil, clicks] at clicked
      exact clicked
    · obtain ⟨a, free, same, index, picker⟩ := frees name taken
      have clicked := stays [a, click id] (by simp [quiet, free])
      rw [List.foldl_cons, List.foldl_cons, List.foldl_nil, clicks] at clicked
      dsimp only at clicked
      rw [same, index, picker] at clicked
      exact clicked
  · intro upToDate actions others
    exact fresh_after act isLoad Sound offering grounded keeps sound upToDate others

/-- While each load leaves names taken once, and the input up to date, so does everything else. -/
theorem tidy_of_loads (sound : Sound start) (tidy : (offering start).Tidy)
    (upToDate : (offering start).UpToDate)
    (loads : ∀ front a back, actions = front ++ a :: back → isLoad a = true →
      Sound (front.foldl act start) → (offering (front.foldl act start)).Tidy →
        Sound (act (front.foldl act start) a) ∧
          (offering (act (front.foldl act start) a)).Tidy ∧
          (offering (act (front.foldl act start) a)).UpToDate) :
    Sound (actions.foldl act start) ∧ (offering (actions.foldl act start)).Tidy ∧
      (offering (actions.foldl act start)).UpToDate := by
  refine run_of_loads act isLoad
    (fun page => Sound page ∧ (offering page).Tidy ∧ (offering page).UpToDate)
    ⟨sound, tidy, upToDate⟩ ?_ ?_
  · rintro page a other ⟨sound, tidy, upToDate⟩
    obtain ⟨next, move⟩ := keeps page a other sound
    exact ⟨next, tidy.move upToDate.picked move, upToDate.move (grounded page sound) move⟩
  · rintro front a back same loading ⟨sound, tidy, -⟩
    exact loads front a back same loading sound tidy

end Runs

end Page

end NodeGroups
