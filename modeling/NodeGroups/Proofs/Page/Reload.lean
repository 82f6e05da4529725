import NodeGroups.Proofs.Backend.Storage
import NodeGroups.Proofs.Document.Decoding
import NodeGroups.Proofs.Page.Loading
import NodeGroups.Proofs.Page.Rules
import NodeGroups.Proofs.Page.Variables
import NodeGroups.Proofs.Text.Utf8

set_option autoImplicit false

namespace NodeGroups.Page

open Backend (Accepts Continues Serves Session)
open Document (Condition Configuration Quantifier Rules Variables)

theorem Row.get_ofFields (fields : List (String × String)) (key : String) :
    (Row.ofFields fields).get key = (fields.reverse.lookup key).getD "" :=
  congrArg (Option.getD · "") (Entries.find?_sort key fields)

theorem ClassPanel.parameterOf_row (parameter value : String) :
    parameterOf (row parameter value) = parameter := Row.get_ofFields _ _

theorem ClassPanel.valueOf_row (parameter value : String) :
    valueOf (row parameter value) = value := Row.get_ofFields _ _

namespace ClassesPage

/-- What the page shows of its classes: their names, each with the rows of its parameters. -/
def shown (page : ClassesPage) : List (String × List (String × String)) :=
  page.panels.toList.map fun b =>
    (b.name, b.rows.toList.map fun r => (ClassPanel.parameterOf r, ClassPanel.valueOf r))

def put (page : ClassesPage) (s : Session) : Backend.Request :=
  s.request .put (Backend.memberPath s.settings.paths.configuration page.group) []
    (some page.document.toJson)

def writer : Writer shape where
  operation := "configuration.put"
  pathOf page p := Backend.memberPath p.configuration page.group
  toJson := Configuration.toJson
  replaces _ _ := rfl

/-- The document of the page is fetched as it was committed. -/
theorem configurationOf_of_serves {page : ClassesPage} {s after t : Session}
    (same : after.settings = s.settings)
    (serves : Serves after (page.put s).url page.document.toJson) (continues : Continues after t) :
    ∃ u, (Backend.configurationOf page.group).run.run t = (.ok page.document, u) := by
  have values : ∀ a ∈ page.document.classes, ∀ p ∈ a.parameters,
      Json.Decoder.Takes .json 0 p.value p.value := by
    intro a assigned p given
    obtain ⟨b, -, rfl⟩ := List.mem_map.mp assigned
    obtain ⟨r, -, rfl⟩ := List.mem_map.mp given
    exact Json.Decoder.takes_json_string _
  exact Backend.fetch_of_serves (fun p => Backend.memberPath p.configuration page.group) same serves
    continues (Configuration.takes values) (by decide) _ []

def shownClass (a : Document.AssignedClass) : String × List (String × String) :=
  (a.className, a.parameters.map fun p => (p.parameter, p.shownValue))

theorem shown_loadAssigned (page : ClassesPage) (s : Session) (a : Document.AssignedClass) :
    (loadAssigned (page, s) a).1.shown = page.shown ++ [shownClass a] := by
  obtain ⟨classId, infos, status, added, -⟩ := loadAssigned_spec page s a
  rw [added, shown, Rows.toList_push, List.map_append]
  change page.shown ++ [(a.className, (Rows.empty.append (a.parameters.map fun p =>
    ClassPanel.row p.parameter p.shownValue)).toList.map _)] = _
  rw [Rows.toList_append, Rows.toList_empty, List.nil_append, List.map_map, shownClass]
  simp only [Function.comp_def, ClassPanel.parameterOf_row, ClassPanel.valueOf_row]

theorem shown_foldl_loadAssigned (assigned : List Document.AssignedClass)
    (p : ClassesPage × Session) :
    (assigned.foldl loadAssigned p).1.shown = p.1.shown ++ assigned.map shownClass := by
  induction assigned generalizing p with
  | nil => exact (List.append_nil _).symm
  | cons a assigned ih =>
    rw [List.foldl_cons, ih, shown_loadAssigned, List.append_assoc]
    rfl

/-- A load that gets a configuration shows it. -/
theorem shown_load (page : ClassesPage) {s t : Session} {d : Configuration}
    (got : (Backend.configurationOf page.group).run.run
      ((Backend.classes page.environment).run.run s).2 = (.ok d, t)) :
    (page.load s).1.shown = d.classes.map shownClass := by
  rw [load_of_ok got]
  exact shown_foldl_loadAssigned d.classes _

theorem shownClass_document (page : ClassesPage) :
    page.document.classes.map shownClass = page.shown := by
  rw [document, List.map_map]
  refine List.map_congr_left fun b _ => ?_
  rw [Function.comp_apply, shownClass, ClassPanel.assigned, List.map_map]
  rfl

/-- A new page that is loaded after a commit shows what was committed. -/
theorem shown_reload {page : ClassesPage} {s after t : Session}
    (same : after.settings = s.settings)
    (serves : Serves after (page.put s).url page.document.toJson) (continues : Continues after t)
    (environment : Option String) (settings : Settings) :
    ((new page.group environment settings).load t).1.shown = page.shown := by
  have reads := Continues.journey.classes environment t
  obtain ⟨u, got⟩ := configurationOf_of_serves same serves (continues.trans reads)
  exact (shown_load (new page.group environment settings) got).trans (shownClass_document page)

end ClassesPage

namespace RulesPage

/-- What the page shows of its rules: the quantifier, the conditions and the pinned nodes. -/
def shown (page : RulesPage) : Quantifier × List Condition × List String :=
  (page.quantifier, page.conditions.toList, page.nodes)

def put (page : RulesPage) (s : Session) : Backend.Request :=
  s.request .put (Backend.memberPath s.settings.paths.rules page.group) []
    (some page.document.toJson)

def writer : Writer shape where
  operation := "rules.put"
  pathOf page p := Backend.memberPath p.rules page.group
  toJson := Rules.toJson
  replaces _ _ := rfl

theorem rulesOf_of_serves {page : RulesPage} {s after t : Session}
    (same : after.settings = s.settings)
    (serves : Serves after (page.put s).url page.document.toJson) (continues : Continues after t) :
    ∃ u, (Backend.rulesOf page.group).run.run t = (.ok page.document, u) :=
  Backend.fetch_of_serves (fun p => Backend.memberPath p.rules page.group) same serves continues
    page.document.takes (by decide) _ []

theorem shown_load (page : RulesPage) {s t : Session} {d : Rules}
    (got : (Backend.rulesOf page.group).run.run s = (.ok d, t)) :
    (page.load s).1.shown = (d.quantifier, d.conditions, d.nodes) := by
  have nodes : (page.pinned.clear.append (d.nodes.map nodeRow)).toList.map nodeOf = d.nodes := by
    rw [Rows.toList_append, Rows.toList_clear, List.nil_append, List.map_map]
    exact List.map_id d.nodes
  have conditions : (page.conditions.clear.append d.conditions).toList = d.conditions := by
    rw [Rows.toList_append, Rows.toList_clear, List.nil_append]
  unfold load
  rw [got]
  change (d.quantifier, (page.conditions.clear.append d.conditions).toList,
    (page.pinned.clear.append (d.nodes.map nodeRow)).toList.map nodeOf) = _
  rw [nodes, conditions]

theorem shown_reload {page : RulesPage} {s after t : Session}
    (same : after.settings = s.settings)
    (serves : Serves after (page.put s).url page.document.toJson) (continues : Continues after t)
    (masterZone : Option String) (settings : Settings) :
    ((new page.group masterZone settings).load t).1.shown = page.shown := by
  obtain ⟨u, got⟩ := rulesOf_of_serves same serves continues
  exact shown_load (new page.group masterZone settings) got

end RulesPage

namespace VariablesPage

/-- What the page shows: its variables with their values, row by row. -/
def shown (page : VariablesPage) : List (String × String) :=
  page.rows.toList.map fun r => (keyOf r, valueOf r)

def lastValue? (page : VariablesPage) (key : String) : Option String :=
  page.shown.reverse.lookup key

def put (page : VariablesPage) (s : Session) : Backend.Request :=
  s.request .put (Backend.memberPath s.settings.paths.groupVariables page.group) []
    (some page.document.toJson)

def writer : Writer shape where
  operation := "variables.put"
  pathOf page p := Backend.memberPath p.groupVariables page.group
  toJson := Variables.toJson
  replaces _ _ := rfl

/-- A committed page has the variables of its rows in key order. -/
theorem entries_document (page : VariablesPage) :
    (OrderedMap.ofList (page.rows.toList.map fun r => (keyOf r, Json.string (valueOf r)))).entries =
      (Entries.sort page.shown).map fun e => (e.1, Json.string e.2) := by
  rw [OrderedMap.entries_ofList, ← Entries.sort_map, shown, List.map_map]
  rfl

theorem variablesOf_of_serves {page : VariablesPage} {s after t : Session}
    (same : after.settings = s.settings)
    (serves : Serves after (page.put s).url page.document.toJson) (continues : Continues after t) :
    ∃ u, (Backend.variablesOf page.group).run.run t = (.ok page.document, u) := by
  have values : ∀ e ∈ (OrderedMap.ofList (page.rows.toList.map fun r =>
      (keyOf r, Json.string (valueOf r)))).entries, Json.Decoder.Takes .json 0 e.2 e.2 := by
    intro e member
    rw [entries_document] at member
    obtain ⟨p, -, rfl⟩ := List.mem_map.mp member
    exact Json.Decoder.takes_json_string _
  exact Backend.fetch_of_serves (fun p => Backend.memberPath p.groupVariables page.group) same
    serves continues (Variables.takes fun _ data => Option.some.inj data ▸ values) (by decide) _ []

theorem keyOf_row (key value : String) : keyOf (row key value) = key := Row.get_ofFields _ _

theorem valueOf_row (key value : String) : valueOf (row key value) = value := Row.get_ofFields _ _

/-- A load that gets variables shows them in key order. -/
theorem shown_load (page : VariablesPage) {s t : Session} {d : Variables}
    (got : (Backend.variablesOf page.group).run.run s = (.ok d, t)) :
    (page.load s).1.shown = d.entries := by
  unfold load
  rw [got]
  change (page.rows.clear.append (d.entries.map fun p => row p.1 p.2)).toList.map _ = _
  rw [Rows.toList_append, Rows.toList_clear, List.nil_append, List.map_map]
  simp only [Function.comp_def, keyOf_row, valueOf_row, List.map_id']

theorem entries_shown (page : VariablesPage) :
    page.document.entries = Entries.sort page.shown := by
  change (OrderedMap.entries _).map _ = _
  rw [entries_document, List.map_map]
  exact List.map_id _

/-- A new page that is loaded after a commit shows the committed rows in key order, without those
that a later row overrides. -/
theorem shown_reload {page : VariablesPage} {s after t : Session}
    (same : after.settings = s.settings)
    (serves : Serves after (page.put s).url page.document.toJson)
    (continues : Continues after t) :
    ((new page.group).load t).1.shown = Entries.sort page.shown := by
  obtain ⟨u, got⟩ := variablesOf_of_serves same serves continues
  exact (shown_load (new page.group) got).trans page.entries_shown

end VariablesPage

end NodeGroups.Page
