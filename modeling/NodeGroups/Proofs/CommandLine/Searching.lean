import NodeGroups.CommandLine.Run
import NodeGroups.Proofs.Backend.Journey
import NodeGroups.Proofs.Picker.Lookup

set_option autoImplicit false

namespace NodeGroups

open Search (Index Record Suggestion)

namespace Search

/-- The texts of fragments one after another, those that were found between marks. -/
def markedText : List Fragment → String
  | [] => ""
  | .plain text :: rest => text ++ markedText rest
  | .highlight text :: rest => "<hl>" ++ text ++ "</hl>" ++ markedText rest

theorem Suggestion.marked_eq (s : Suggestion) : s.marked = markedText s.fragments := by
  rw [marked]
  induction s.fragments with
  | nil => rfl
  | cons fragment rest ih =>
    rw [List.map_cons, String.join_cons, ih]
    cases fragment <;> rfl

end Search

namespace Picker

variable (p : Picker) (box : Box) (scroll : Numeric.Binary) (query : String) (index : Index)
  (mode : PatternMode)

/-- The focus asks for everything, which is found. -/
theorem lastError_focus : (p.apply (.focus box scroll) index mode).1.lastError = none := by
  have everything : ∃ found, Search.find mode "" p.field (index.records p.dataset) = .ok found :=
    ⟨_, rfl⟩
  obtain ⟨found, ok⟩ := everything
  rcases relist_results { p with
      focused := true
      latched := false
      stage := .querying
      placement := some (.below box scroll p.widthPad) } ⟨"", index, mode⟩ with
    ⟨_, -, -, error⟩ | ⟨e, failed, -⟩
  · exact error
  · have same : Search.find mode "" p.field (index.records p.dataset) = .error e := failed
    rw [ok] at same
    cases same

/-- A text in an input whose list is shown is looked up. -/
theorem keyUp_results {p : Picker} (shown : p.stage ≠ .closed) :
    (∃ found, Search.find mode query p.field (index.records p.dataset) = .ok found ∧
      (p.apply (.keyUp query) index mode).1.list = .ofResults found ∧
      (p.apply (.keyUp query) index mode).1.lastError = none) ∨
    ∃ e, Search.find mode query p.field (index.records p.dataset) = .error e ∧
      (p.apply (.keyUp query) index mode).1.lastError = some e := by
  rw [apply, onKeyUp]
  dsimp only
  rw [if_neg shown]
  rcases relist_results { p with
      latched := false
      selection := none
      text := query
      stage := .querying } ⟨query, index, mode⟩ with
    ⟨found, ok, list, error⟩ | ⟨e, failed, -, error⟩
  · exact .inl ⟨found, ok, list, error⟩
  · exact .inr ⟨e, failed, error⟩

/-- An input that gets the focus and then a text lists what is found, or has the failure. -/
theorem asked_results :
    (∃ found, Search.find mode query p.field (index.records p.dataset) = .ok found ∧
      (p.asked box scroll query index mode).list = .ofResults found ∧
      (p.asked box scroll query index mode).lastError = none) ∨
    ∃ e, Search.find mode query p.field (index.records p.dataset) = .error e ∧
      (p.asked box scroll query index mode).lastError = some e := by
  have source := p.apply_source (.focus box scroll) index mode
  have stage : (p.apply (.focus box scroll) index mode).1.stage = .querying :=
    relist_stage _ index mode ""
  have shown : (p.apply (.focus box scroll) index mode).1.stage ≠ .closed := by
    rw [stage]
    decide
  have results := keyUp_results query index mode shown
  rw [source.1, source.2] at results
  exact results

end Picker

namespace CommandLine

open Backend (Session)

/-- What the search command makes of an input: what it lists, or its error with a note. -/
def Dataset.shown (query : String) (p : Picker) : Except Trace (List Suggestion) :=
  match p.lastError with
  | none => .ok p.list.toList
  | some e => .error (.within ("invalid search pattern " ++ Text.Quoted.quote query) (.ofFailure e))

/-- An input on the field of a dataset that the search command looks in. -/
def Dataset.input (d : Dataset) (p : Picker) : Picker :=
  { p with dataset := d.key, field := d.field }

/-- The search command finds what an input lists, and fails as it does. -/
theorem find_agrees (d : Dataset) (mode : PatternMode) (query : String) (records : List Record)
    (p : Picker) (box : Picker.Box) (scroll : Numeric.Binary) (index : Index) :
    d.find mode query records =
      Dataset.shown query ((d.input p).asked box scroll query (index.load d.key records) mode) := by
  have loaded : (Index.empty.load d.key records).records d.key =
      (index.load d.key records).records d.key := by
    rw [Index.records_load, Index.records_load]
  rw [Dataset.find, loaded]
  rcases (d.input p).asked_results box scroll query (index.load d.key records) mode with
    ⟨found, ok, list, error⟩ | ⟨e, failed, error⟩
  · have same : Search.find mode query d.field ((index.load d.key records).records d.key) =
        .ok found := ok
    rw [same, Dataset.shown, error, list, Picker.toList_ofResults]
    rfl
  · have same : Search.find mode query d.field ((index.load d.key records).records d.key) =
        .error e := failed
    rw [same, Dataset.shown, error]
    rfl

def Dataset.lines (d : Dataset) (mode : PatternMode) (query : String) (records : List Record) :
    Except Trace (List Json) :=
  (d.find mode query records).map (List.map foundLine)

theorem run_given_map {α β : Type} (outcome : Except Trace α) (f : α → β) (s : Session) :
    (do return f (← Run.given outcome) : Run β).run.run s = (outcome.map f, s) := by
  cases outcome <;> rfl

/-- The search command looks in the records that the backend gives. -/
theorem run_search (d : Dataset) (query : String) (environment masterZone : Option String)
    (s : Session) :
    (search d query environment masterZone).run.run s =
      match (d.fetch environment masterZone).run.run s with
      | (.ok records, t) =>
        ((d.find t.settings.patternMode query records).map
          (searchReport d t.settings.patternMode query), t)
      | (.error e, t) =>
        (.error (.within ("failed to fetch dataset " ++ d.key) (.ofFailure e)), t) := by
  rcases fetched : (d.fetch environment masterZone).run.run s with ⟨outcome, t⟩
  have called : (Run.call ("failed to fetch dataset " ++ d.key)
      (d.fetch environment masterZone)).run.run s =
        (noted ("failed to fetch dataset " ++ d.key) outcome, t) := by
    change (noted _ ((d.fetch environment masterZone).run.run s).1,
      ((d.fetch environment masterZone).run.run s).2) = _
    rw [fetched]
  cases outcome with
  | error e => exact Backend.run_bind_of_error called
  | ok records =>
    rw [search, Backend.run_bind_of_ok called]
    exact run_given_map (d.find t.settings.patternMode query records) _ t

theorem ofResults_eq_nothingFound {found : List Suggestion} :
    Picker.Suggestions.ofResults found = .nothingFound ↔ found = [] := by
  cases found <;> simp [Picker.Suggestions.ofResults]

/-- The search command and an input on the same field of the same records agree. Whatever was done
to the input and to the datasets before, once it got the focus and then the query the command
reports just what it lists, each item by its id, its label and its label with marks; there is no
line just if nothing was found, and the command fails just if the query, and not the focus, left the
input with an error. -/
theorem search_agrees (d : Dataset) (query : String) (p : Picker) (box : Picker.Box)
    (scroll : Numeric.Binary) (index : Index) :
    let line (x : Suggestion) : Json :=
      .object [("id", .string x.recordId), ("label", .string x.label),
        ("marked", .string (Search.markedText x.fragments))]
    (∀ mode records,
      let loaded := index.load d.key records
      let focused := ((d.input p).apply (.focus box scroll) loaded mode).1
      let typed := (focused.apply (.keyUp query) loaded mode).1
      (∀ found, d.find mode query records = .ok found ↔
        typed.lastError = none ∧ found = typed.list.toList) ∧
      (∀ lines, d.lines mode query records = .ok lines ↔
        typed.lastError = none ∧ lines = typed.list.toList.map line) ∧
      (d.lines mode query records = .ok [] ↔
        typed.lastError = none ∧ typed.list = .nothingFound) ∧
      ((∃ trace, d.lines mode query records = .error trace) ↔
        focused.lastError = none ∧ ∃ e, typed.lastError = some e)) ∧
    ∀ environment masterZone s,
      (search d query environment masterZone).run.run s =
        match (d.fetch environment masterZone).run.run s with
        | (.ok records, t) =>
          let typed := (d.input p).asked box scroll query (index.load d.key records)
            t.settings.patternMode
          ((Dataset.shown query typed).map fun found => .object <|
            [("dataset", .string d.key), ("query", .string query),
              ("pattern_mode", .string t.settings.patternMode.name),
              ("suggestions", .array (found.map line))] ++
            if found.isEmpty then [("message", .string "Nothing found")] else [], t)
        | (.error e, t) =>
          (.error (.within ("failed to fetch dataset " ++ d.key) (.ofFailure e)), t) := by
  intro line
  have lineOf : foundLine = line := by
    funext x
    rw [foundLine, x.marked_eq]
  constructor
  · intro mode records loaded focused typed
    have focus : focused.lastError = none := Picker.lastError_focus _ box scroll loaded mode
    have agrees : d.find mode query records = Dataset.shown query typed :=
      find_agrees d mode query records p box scroll index
    rw [Dataset.lines, agrees, Dataset.shown, lineOf]
    rcases (d.input p).asked_results box scroll query loaded mode with
      ⟨found, -, list, error⟩ | ⟨e, -, error⟩
    · have listed : typed.list = .ofResults found := list
      have fine : typed.lastError = none := error
      rw [fine, listed, Picker.toList_ofResults, ofResults_eq_nothingFound]
      refine ⟨fun other => ?_, fun lines => ?_, ?_, ?_⟩
      · rw [eq_comm (a := other)]
        exact ⟨fun same => ⟨rfl, Except.ok.inj same⟩, fun same => congrArg Except.ok same.2⟩
      · rw [eq_comm (a := lines)]
        exact ⟨fun same => ⟨rfl, Except.ok.inj same⟩, fun same => congrArg Except.ok same.2⟩
      · rw [← List.map_eq_nil_iff (f := line)]
        exact ⟨fun same => ⟨rfl, Except.ok.inj same⟩, fun same => congrArg Except.ok same.2⟩
      · exact iff_of_false (fun ⟨_, same⟩ => nomatch same) (fun ⟨_, _, same⟩ => nomatch same)
    · have failed : typed.lastError = some e := error
      rw [failed]
      refine ⟨fun found => ?_, fun lines => ?_, ?_, ?_⟩
      · exact iff_of_false nofun nofun
      · exact iff_of_false nofun nofun
      · exact iff_of_false nofun nofun
      · exact iff_of_true ⟨_, rfl⟩ ⟨focus, e, rfl⟩
  · intro environment masterZone s
    rw [run_search]
    rcases (d.fetch environment masterZone).run.run s with ⟨fetched, t⟩
    cases fetched with
    | error e => rfl
    | ok records =>
      dsimp only
      rw [find_agrees d t.settings.patternMode query records p box scroll index, ← lineOf]
      rfl

end CommandLine

end NodeGroups
