import NodeGroups.Proofs.Picker.Clicks
import NodeGroups.Proofs.Picker.History
import NodeGroups.Proofs.Search.Substring

set_option autoImplicit false

namespace NodeGroups.Picker

open Search (Index Suggestion)

/-- A query, with the datasets and the mode of its moment. -/
structure Lookup where
  query : String
  index : Index
  mode : PatternMode

namespace Lookup

/-- What a look-up finds by a field of a dataset. -/
def results (l : Lookup) (dataset field : String) : Except Failure (List Suggestion) :=
  Search.find l.mode l.query field (l.index.records dataset)

/-- A look-up whose query can be read. -/
def Reads (dataset field : String) (l : Lookup) : Prop :=
  ∃ found, l.results dataset field = .ok found

/-- A literal query is read unless its pattern is too large. -/
theorem reads_literal {l : Lookup} (literal : l.mode = .literal) (dataset field : String) :
    l.Reads dataset field ∨
      Pattern.compile (Search.Query.patternText .literal l.query) = .error .tooLarge := by
  by_cases large : Pattern.compile (Search.Query.patternText .literal l.query) = .error .tooLarge
  · exact .inr large
  · obtain ⟨q, read, -⟩ := Search.Query.ofText_literal l.query large
    refine .inl ⟨q.filter field (l.index.records dataset), ?_⟩
    rw [results, literal, Search.find, read]
    rfl

end Lookup

/-- The list is shown: the input got the focus, and since then it was neither closed nor cleared. -/
def Shown (past : List Happening) : Prop :=
  Since (· = .focus) (fun h => h ≠ .closed ∧ h ≠ .cleared) past

/-- The look-up that a call asks for. The focus asks for everything, and a keystroke for its text if
the list is shown. -/
inductive Asks (past : List Happening) : Call → Lookup → Prop
  | focus (box : Box) (scroll : Numeric.Binary) (index : Index) (mode : PatternMode) :
      Asks past (.event (.focus box scroll) index mode) ⟨"", index, mode⟩
  | keyUp (text : String) (index : Index) (mode : PatternMode) (shown : Shown past) :
      Asks past (.event (.keyUp text) index mode) ⟨text, index, mode⟩

/-- The last look-up of a kind that was asked for. -/
inductive LastLookup (p : Picker) (Kind : Lookup → Prop) : List Call → Lookup → Prop
  | now {calls : List Call} {c : Call} {l : Lookup} (asks : Asks (p.history calls) c l)
      (kind : Kind l) : LastLookup p Kind (calls ++ [c]) l
  | before {calls : List Call} {c : Call} {l : Lookup} (last : LastLookup p Kind calls l)
      (others : ∀ other, Asks (p.history calls) c other → ¬ Kind other) :
      LastLookup p Kind (calls ++ [c]) l

section Past

variable {p : Picker} {Kind : Lookup → Prop} {calls : List Call} {c : Call} {l : Lookup}
  {past : List Happening}

theorem Asks.unique {other : Lookup} (asks : Asks past c l) (also : Asks past c other) :
    l = other := by
  cases asks <;> cases also <;> rfl

theorem mem_of_shown (shown : Shown past) : .focus ∈ past := by
  obtain ⟨earlier, h, since, rfl, rfl, -⟩ := shown
  exact List.mem_append_right earlier List.mem_cons_self

theorem not_lastLookup_nil : ¬ LastLookup p Kind [] l := by
  intro last
  generalize none : ([] : List Call) = calls at last
  cases last with
  | now asks kind => exact absurd none.symm (List.concat_ne_nil _ _)
  | before last others => exact absurd none.symm (List.concat_ne_nil _ _)

theorem lastLookup_concat : LastLookup p Kind (calls ++ [c]) l ↔
    (Asks (p.history calls) c l ∧ Kind l) ∨
      (LastLookup p Kind calls l ∧ ∀ other, Asks (p.history calls) c other → ¬ Kind other) := by
  constructor
  · intro last
    generalize same : calls ++ [c] = whole at last
    cases last with
    | now asks kind =>
      obtain ⟨rfl, only⟩ := List.append_inj' same rfl
      obtain ⟨rfl, -⟩ := List.cons.inj only
      exact .inl ⟨asks, kind⟩
    | before last others =>
      obtain ⟨rfl, only⟩ := List.append_inj' same rfl
      obtain ⟨rfl, -⟩ := List.cons.inj only
      exact .inr ⟨last, others⟩
  · rintro (⟨asks, kind⟩ | ⟨last, others⟩)
    · exact .now asks kind
    · exact .before last others

/-- A call that asks for a look-up of the kind asks for the last one. -/
theorem lastLookup_asked {other : Lookup} (asks : Asks (p.history calls) c l) (kind : Kind l) :
    LastLookup p Kind (calls ++ [c]) other ↔ other = l := by
  rw [lastLookup_concat]
  constructor
  · rintro (⟨also, -⟩ | ⟨-, others⟩)
    · exact also.unique asks
    · exact absurd kind (others l asks)
  · rintro rfl
    exact .inl ⟨asks, kind⟩

/-- A call that asks for no look-up of the kind leaves the last one. -/
theorem lastLookup_unasked (none : ∀ other, Asks (p.history calls) c other → ¬ Kind other) :
    LastLookup p Kind (calls ++ [c]) l ↔ LastLookup p Kind calls l := by
  rw [lastLookup_concat]
  constructor
  · rintro (⟨asks, kind⟩ | ⟨last, -⟩)
    · exact absurd kind (none l asks)
    · exact last
  · exact fun last => .inr ⟨last, none⟩

end Past

section Call

variable {p : Picker} {past : List Happening} {c : Call}

/-- A look-up that finds something fills the list, and one that fails is reported. -/
theorem relist_results (p : Picker) (l : Lookup) :
    (∃ found, l.results p.dataset p.field = .ok found ∧
      (p.relist l.query l.index l.mode).list = .ofResults found ∧
      (p.relist l.query l.index l.mode).lastError = none) ∨
    ∃ e, l.results p.dataset p.field = .error e ∧
      (p.relist l.query l.index l.mode).list = p.list ∧
      (p.relist l.query l.index l.mode).lastError = some e := by
  unfold relist
  split
  · rename_i found ok
    exact .inl ⟨found, ok, rfl, rfl⟩
  · rename_i e failed
    exact .inr ⟨e, failed, rfl, rfl⟩

theorem call_asked (shown : p.stage ≠ .closed ↔ Shown past) {l : Lookup} (asks : Asks past c l) :
    (∃ found, l.results p.dataset p.field = .ok found ∧
      (p.call c).1.list = .ofResults found ∧ (p.call c).1.lastError = none) ∨
    ∃ e, l.results p.dataset p.field = .error e ∧
      (p.call c).1.list = p.list ∧ (p.call c).1.lastError = some e := by
  cases asks with
  | focus box scroll index mode => exact relist_results _ ⟨"", index, mode⟩
  | keyUp text index mode isShown =>
    rw [call, apply, onKeyUp]
    dsimp only
    split
    · rename_i closed
      exact absurd closed (shown.mpr isShown)
    · exact relist_results { p with latched := false, selection := none, text, stage := .querying }
        ⟨text, index, mode⟩

theorem call_unasked (shown : p.stage ≠ .closed ↔ Shown past) (silent : ∀ l, ¬ Asks past c l) :
    (p.call c).1.list = p.list ∧ (p.call c).1.lastError = p.lastError := by
  cases c with
  | close => exact ⟨rfl, rfl⟩
  | clear => exact ⟨rfl, rfl⟩
  | event event index mode =>
    cases event with
    | focus box scroll => exact absurd (.focus box scroll index mode) (silent _)
    | keyUp text =>
      have closed : p.stage = .closed := by
        by_contra isOpen
        exact silent _ (.keyUp text index mode (shown.mp isOpen))
      rw [call, apply, onKeyUp]
      dsimp only
      rw [if_pos closed]
      exact ⟨rfl, rfl⟩
    | click id =>
      rw [call, apply]
      split <;> exact ⟨rfl, rfl⟩
    | blur =>
      rw [call, apply, onBlur]
      dsimp only
      split <;> exact ⟨rfl, rfl⟩
    | outsideClick => exact ⟨rfl, rfl⟩

theorem call_source (p : Picker) (c : Call) :
    (p.call c).1.dataset = p.dataset ∧ (p.call c).1.field = p.field := by
  cases c with
  | event event index mode => exact apply_source p event index mode
  | close => exact ⟨rfl, rfl⟩
  | clear => exact ⟨rfl, rfl⟩

/-- Only the focus shows the list, and only closing and clearing hide it. -/
theorem shown_step (shown : p.stage ≠ .closed ↔ Shown past) :
    (p.call c).1.stage ≠ .closed ↔ Shown (past ++ [c.happening (p.call c).2]) := by
  rw [Shown, since_concat, ← Shown, ← shown]
  cases c with
  | close => simp [call, close, Call.happening]
  | clear => simp [call, clear, Call.happening]
  | event event index mode =>
    cases event with
    | focus box scroll =>
      have stage : (p.onFocus box scroll index mode).stage = .querying := relist_stage _ _ _ _
      simp [call, apply, stage, Call.happening]
    | keyUp text =>
      rw [call, apply, onKeyUp]
      dsimp only
      split
      · rename_i closed
        simp [closed, Call.happening]
      · rename_i isOpen
        rw [relist_stage]
        simp [isOpen, Call.happening]
    | click id =>
      rw [call, apply]
      split
      · rename_i s offered
        have isOpen : p.stage ≠ .closed := by
          have offers := (p.isSome_offered? id index).mp (Option.isSome_iff_exists.mpr ⟨s, offered⟩)
          exact offers.1
        simp [select, isOpen, Call.happening]
      · simp [Call.happening]
    | blur =>
      rw [call, apply, onBlur]
      dsimp only
      split
      · split
        · rename_i selected
          simp [selected, Call.happening]
        · simp [Call.happening]
      · simp [Call.happening]
    | outsideClick => simp [call, apply, close, Call.happening]

end Call

/-- What the past of an input says that it lists: nothing before it got the focus, and since then
what was found by the last look-up whose query was read. -/
inductive Listing (p : Picker) (calls : List Call) : Suggestions → Prop
  | never (unfocused : .focus ∉ p.history calls) : Listing p calls .empty
  | found {l : Lookup} {found : List Suggestion}
      (last : p.LastLookup (Lookup.Reads p.dataset p.field) calls l)
      (ok : l.results p.dataset p.field = .ok found) : Listing p calls (.ofResults found)

/-- What the past of an input says of its error: the last look-up failed with it. -/
def Failing (p : Picker) (calls : List Call) (e : Failure) : Prop :=
  ∃ l, p.LastLookup (fun _ => True) calls l ∧ l.results p.dataset p.field = .error e

section Run

variable {start p : Picker} {calls : List Call} {c : Call} {l : Lookup}

theorem LastLookup.unique {Kind : Lookup → Prop} {other : Lookup}
    (last : start.LastLookup Kind calls l) (also : start.LastLookup Kind calls other) :
    l = other := by
  induction calls using List.reverseRecOn with
  | nil => exact absurd last not_lastLookup_nil
  | append_singleton calls c ih =>
    rcases lastLookup_concat.mp last with ⟨asks, kind⟩ | ⟨before, others⟩
    · exact ((lastLookup_asked asks kind).mp also).symm
    · exact ih before ((lastLookup_unasked others).mp also)

theorem LastLookup.focused {Kind : Lookup → Prop} (last : start.LastLookup Kind calls l) :
    .focus ∈ start.history calls := by
  induction last with
  | @now calls c l asks kind =>
    rw [history_concat]
    cases asks with
    | focus box scroll index mode =>
      exact List.mem_append_right _ (List.mem_singleton_self _)
    | keyUp text index mode shown => exact List.mem_append_left _ (mem_of_shown shown)
  | before last others ih =>
    rw [history_concat]
    exact List.mem_append_left _ ih

theorem Listing.unique {list other : Suggestions} (listing : start.Listing calls list)
    (also : start.Listing calls other) : list = other := by
  cases listing with
  | never unfocused =>
    cases also with
    | never => rfl
    | found last => exact absurd last.focused unfocused
  | found last ok =>
    cases also with
    | never unfocused => exact absurd last.focused unfocused
    | found last' ok' =>
      rw [last.unique last', ok'] at ok
      cases ok
      rfl

/-- A call that asks for no look-up that can be read is no focus, as all is found by that. -/
theorem happening_ne_focus {past : List Happening} {dataset field : String}
    (unread : ∀ l, Asks past c l → ¬ l.Reads dataset field) (answer : Option Selection) :
    c.happening answer ≠ .focus := by
  intro focus
  cases c with
  | close => cases focus
  | clear => cases focus
  | event event index mode =>
    cases event with
    | focus box scroll => exact unread _ (.focus box scroll index mode) ⟨_, rfl⟩
    | click id => cases answer <;> cases focus
    | keyUp | blur | outsideClick => cases focus

theorem Listing.unread {list : Suggestions} (listing : start.Listing calls list)
    (unread : ∀ l, Asks (start.history calls) c l → ¬ l.Reads start.dataset start.field) :
    start.Listing (calls ++ [c]) list := by
  cases listing with
  | never unfocused =>
    refine .never fun focused => ?_
    rw [history_concat] at focused
    rcases List.mem_append.mp focused with before | now
    · exact unfocused before
    · exact happening_ne_focus unread _ (List.mem_singleton.mp now).symm
  | found last ok => exact .found (.before last unread) ok

/-- An input is as its past tells. -/
structure Told (start : Picker) (calls : List Call) (p : Picker) : Prop where
  source : p.dataset = start.dataset ∧ p.field = start.field
  shown : p.stage ≠ .closed ↔ Shown (start.history calls)
  listed : start.Listing calls p.list
  failed : ∀ e, p.lastError = some e ↔ start.Failing calls e

/-- A look-up that is asked for replaces the list or is reported. -/
theorem Told.asked (told : Told start calls p) (asks : Asks (start.history calls) c l) :
    start.Listing (calls ++ [c]) (p.call c).1.list ∧
      ∀ e, (p.call c).1.lastError = some e ↔ start.Failing (calls ++ [c]) e := by
  have failing : ∀ e, start.Failing (calls ++ [c]) e ↔
      l.results start.dataset start.field = .error e := by
    intro e
    have last : ∀ other, start.LastLookup (fun _ => True) (calls ++ [c]) other ↔ other = l :=
      fun other => lastLookup_asked asks trivial
    simp only [Failing, last, exists_eq_left]
  have outcome := call_asked told.shown asks
  rw [told.source.1, told.source.2] at outcome
  rcases outcome with ⟨found, ok, list, error⟩ | ⟨e, failed, list, error⟩
  · rw [list, error]
    refine ⟨.found (.now asks ⟨found, ok⟩) ok, fun e => ?_⟩
    rw [failing, ok]
    exact iff_of_false nofun nofun
  · rw [list, error]
    refine ⟨told.listed.unread fun other also => ?_, fun other => ?_⟩
    · rw [also.unique asks]
      rintro ⟨found, ok⟩
      rw [failed] at ok
      cases ok
    · rw [failing, failed, Option.some.injEq, Except.error.injEq]

theorem Told.unasked (told : Told start calls p) (silent : ∀ l, ¬ Asks (start.history calls) c l) :
    start.Listing (calls ++ [c]) (p.call c).1.list ∧
      ∀ e, (p.call c).1.lastError = some e ↔ start.Failing (calls ++ [c]) e := by
  obtain ⟨list, error⟩ := call_unasked told.shown silent
  rw [list, error]
  refine ⟨told.listed.unread fun l asks => absurd asks (silent l), fun e => ?_⟩
  rw [told.failed e]
  refine exists_congr fun l => and_congr_left fun _ => ?_
  exact (lastLookup_unasked fun other asks => absurd asks (silent other)).symm

end Run

variable (dataset field : String) (widthPad : Numeric.Binary)

theorem told_after (calls : List Call) :
    Told (onField dataset field widthPad) calls ((onField dataset field widthPad).after calls) := by
  induction calls using List.reverseRecOn with
  | nil =>
    refine ⟨⟨rfl, rfl⟩, ?_, .never List.not_mem_nil, fun e => ?_⟩
    · exact iff_of_false (fun isOpen => isOpen rfl) (not_since_nil _ _)
    · exact iff_of_false nofun fun ⟨l, last, _⟩ => not_lastLookup_nil last
  | append_singleton calls c ih =>
    have shown := shown_step (c := c) ih.shown
    rw [← history_concat] at shown
    have source := call_source ((onField dataset field widthPad).after calls) c
    rw [after_concat]
    by_cases asked : ∃ l, Asks ((onField dataset field widthPad).history calls) c l
    · obtain ⟨l, asks⟩ := asked
      obtain ⟨listed, failed⟩ := ih.asked asks
      exact ⟨⟨source.1.trans ih.source.1, source.2.trans ih.source.2⟩, shown, listed, failed⟩
    · obtain ⟨listed, failed⟩ := ih.unasked (not_exists.mp asked)
      exact ⟨⟨source.1.trans ih.source.1, source.2.trans ih.source.2⟩, shown, listed, failed⟩

/-- Whatever was done to an input, with whatever datasets and modes, its list is empty just if it
never got the focus, and otherwise is what the last look-up found whose query was read. It has an
error just if the last look-up failed, which no literal query does unless its pattern is too large.
The list is shown just if the input got the focus and was not closed or cleared since, and a call
that asks for no look-up changes neither list nor error. -/
theorem list_after_history (calls : List Call) :
    let new := onField dataset field widthPad
    let p := new.after calls
    (p.list = .empty ↔ .focus ∉ new.history calls) ∧
      (∀ list, p.list = list ↔ new.Listing calls list) ∧
      (∀ e, p.lastError = some e ↔ new.Failing calls e) ∧
      (∀ l : Lookup, l.mode = .literal → l.Reads dataset field ∨
        Pattern.compile (Search.Query.patternText .literal l.query) = .error .tooLarge) ∧
      (p.stage ≠ .closed ↔ Shown (new.history calls)) ∧
      ∀ c, (∀ l, ¬ Asks (new.history calls) c l) →
        (p.call c).1.list = p.list ∧ (p.call c).1.lastError = p.lastError := by
  intro new p
  have told : Told new calls p := told_after dataset field widthPad calls
  have lists : ∀ list, p.list = list ↔ new.Listing calls list := fun list =>
    ⟨fun same => same ▸ told.listed, fun listing => told.listed.unique listing⟩
  refine ⟨?_, lists, told.failed, fun l literal => l.reads_literal literal dataset field,
    told.shown, fun c => call_unasked told.shown⟩
  rw [lists]
  constructor
  · intro listing
    generalize same : Suggestions.empty = list at listing
    cases listing with
    | never unfocused => exact unfocused
    | @found l found last ok => cases found <;> cases same
  · exact .never

end NodeGroups.Picker
