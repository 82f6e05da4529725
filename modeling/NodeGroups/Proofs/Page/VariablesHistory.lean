import NodeGroups.Proofs.Page.VariableRows
import NodeGroups.Proofs.Past

set_option autoImplicit false

namespace NodeGroups.Page.VariablesPage

open Backend (Session)
open Document (Variables)
open Rows (Change)

def entryOf (r : Row) : String × String := (keyOf r, valueOf r)

/-- What an action does to the rows, by the answer of the page: nothing if it is refused, if it is a
load that fails, or if it is about anything else. -/
def change? (page : VariablesPage) : Action → Option (Change (String × String))
  | .load s =>
    ((Backend.variablesOf page.group).run.run s).1.toOption.map fun d =>
      .replaced page.rows.next d.entries
  | .addEntry => page.addEntry.1.toOption.map fun row => .added row (page.key, page.value)
  | .removeRow row => (page.removeRow row).1.toOption.map fun _ => .removed row
  | .typeKey _ | .typeValue _ | .startCommit | .endCommit _ | .commit _ | .hideBanner => none

/-- The rows that stand after actions on a new page, each with its handle, its name and its value:
what was loaded last and what was added since, without what was removed since. -/
def standing (group : String) (actions : List Action) : List (Handle × String × String) :=
  Change.standing (chronicle act change? (new group) actions)

def named (k : String) (rows : List (Handle × String × String)) :
    List (Handle × String × String) :=
  rows.filter fun row => row.2.1 = k

/-- The rows of the page are what its past tells. -/
def Recalls (page : VariablesPage) (past : List (Change (String × String))) : Prop :=
  page.rows.Tells entryOf past

section Recalls

variable {page next : VariablesPage} {past : List (Change (String × String))} {a : Action}

theorem entryOf_row (key value : String) : entryOf (row key value) = (key, value) :=
  Prod.ext (keyOf_row key value) (valueOf_row key value)

theorem Recalls.stay (recalls : page.Recalls past) (none : page.change? a = none)
    (rows : next.rows = page.rows) : next.Recalls (past ++ (page.change? a).toList) := by
  rw [none, Recalls, rows]
  exact Rows.Tells.idle recalls

theorem Recalls.load (recalls : page.Recalls past) (s : Session) :
    (page.load s).1.Recalls (past ++ (page.change? (.load s)).toList) := by
  rcases answered : (Backend.variablesOf page.group).run.run s with ⟨answer, t⟩
  unfold VariablesPage.load
  rw [answered]
  cases answer with
  | error failure =>
    have none : page.change? (.load s) = none := by
      rw [change?, answered]
      rfl
    exact recalls.stay none rfl
  | ok d =>
    have change : page.change? (.load s) = some (.replaced page.rows.next d.entries) := by
      rw [change?, answered]
      rfl
    have entries : (d.entries.map fun p => row p.1 p.2).map entryOf = d.entries := by
      simp [List.map_map, Function.comp_def, entryOf_row]
    have replaced := Rows.Tells.replace page.rows entryOf past
      (d.entries.map fun p => row p.1 p.2)
    rw [entries] at replaced
    rw [change]
    exact replaced

theorem Recalls.addEntry (recalls : page.Recalls past) :
    page.addEntry.2.Recalls (past ++ (page.change? .addEntry).toList) := by
  cases entered : page.hasEntry with
  | false =>
    have refused : page.addEntry = (.error (.validation "key and value are required"), page) := by
      rw [VariablesPage.addEntry, entered, if_neg Bool.false_ne_true]
    have none : page.change? .addEntry = none := by
      rw [change?, refused]
      rfl
    rw [refused]
    exact recalls.stay none rfl
  | true =>
    have change : page.change? .addEntry =
        some (.added page.rows.next (page.key, page.value)) := by
      rw [change?, VariablesPage.addEntry, entered]
      rfl
    have pushed := Rows.Tells.push recalls (row page.key page.value)
    rw [entryOf_row] at pushed
    rw [change, VariablesPage.addEntry, entered]
    exact pushed

theorem Recalls.removeRow (recalls : page.Recalls past) (row : Handle) :
    (page.removeRow row).2.Recalls (past ++ (page.change? (.removeRow row)).toList) := by
  cases found : page.rows.get? row with
  | none =>
    have refused : page.removeRow row = (.error (.notFound "variable row"), page) := by
      rw [VariablesPage.removeRow, found]
    have none : page.change? (.removeRow row) = none := by
      rw [change?, refused]
      rfl
    rw [refused]
    exact recalls.stay none rfl
  | some r =>
    have change : page.change? (.removeRow row) = some (.removed row) := by
      rw [change?, VariablesPage.removeRow, found]
      rfl
    rw [change, VariablesPage.removeRow, found]
    exact Rows.Tells.erase recalls found

theorem Recalls.act (recalls : page.Recalls past) (a : Action) :
    (page.act a).Recalls (past ++ (page.change? a).toList) := by
  cases a with
  | load s => exact recalls.load s
  | typeKey key => exact recalls.stay rfl rfl
  | typeValue value => exact recalls.stay rfl rfl
  | addEntry => exact recalls.addEntry
  | removeRow row => exact recalls.removeRow row
  | startCommit =>
    obtain ⟨status, begun⟩ := shape.startCommit_left page
    rw [VariablesPage.act, VariablesPage.startCommit, begun]
    exact recalls.stay rfl rfl
  | endCommit outcome => exact recalls.stay rfl rfl
  | commit s =>
    obtain ⟨status, done⟩ := shape.commit_left page s
    rw [VariablesPage.act, VariablesPage.commit, done]
    exact recalls.stay rfl rfl
  | hideBanner => exact recalls.stay rfl rfl

end Recalls

/-- After any actions on a new page, its rows are those that stand. -/
theorem entries_after (group : String) (actions : List Action) :
    (kind.after (new group) actions).rows.entries.map (fun e => (e.1, entryOf e.2)) =
      standing group actions := by
  have new : (new group).Recalls [] := Rows.tells_empty entryOf
  have recalls := recalls_chronicle act change? Recalls (fun _ _ a recalls => recalls.act a) new
    actions
  rw [List.nil_append] at recalls
  exact recalls.entries

theorem shown_after (group : String) (actions : List Action) :
    (kind.after (new group) actions).shown = (standing group actions).map Prod.snd := by
  rw [← entries_after, List.map_map]
  exact List.map_map

theorem rowsOf_after (group : String) (actions : List Action) (k : String) :
    (kind.after (new group) actions).rowsOf k =
      (named k (standing group actions)).map Prod.fst := by
  rw [← entries_after, named, List.filter_map, List.map_map, rowsOf]
  rfl

theorem lastValue?_after (group : String) (actions : List Action) (k : String) :
    (kind.after (new group) actions).lastValue? k =
      (named k (standing group actions)).getLast?.map fun row => row.2.2 := by
  rw [lastValue?, shown_after, Entries.lookup_reverse, named, List.filter_map, List.getLast?_map,
    Option.map_map]
  rfl

/-- After any actions, a commit that can begin begins with a document whose names are those of the
rows that stand, each with the value of the latest row of that name, and the rows of a name are
found under their handles in the order in which they came. -/
theorem startCommit_standing (group : String) (actions : List Action) :
    let page := kind.after (new group) actions
    let rows := standing group actions
    (∃ m : OrderedMap Json,
      page.startCommit.1 =
        (if page.status.canCommit then .ok ⟨some m⟩ else .error .commitLocked) ∧
      (∀ k, k ∈ m.keys ↔ ∃ row ∈ rows, row.2.1 = k) ∧
      ∀ k, m.find? k = (named k rows).getLast?.map fun row => .string row.2.2) ∧
    ∀ k, page.rowsOf k = (named k rows).map Prod.fst := by
  intro page rows
  obtain ⟨m, document, find⟩ := page.find?_document
  have last : ∀ k, m.find? k = (named k rows).getLast?.map fun row => .string row.2.2 := by
    intro k
    rw [find, ← Entries.lookup_eq_find?, ← VariablesPage.lastValue?, lastValue?_after,
      Option.map_map]
    rfl
  refine ⟨⟨m, ?_, fun k => ?_, last⟩, rowsOf_after group actions⟩
  · rw [← document]
    exact shape.startCommit_answer page
  · rw [OrderedMap.mem_keys_iff, last, Option.isSome_map, named]
    simp

/-- When the latest row of a name is removed, the row before it counts again. -/
example :
    let twice : List Action := [.typeKey "a", .typeValue "1", .addEntry, .typeKey "a",
      .typeValue "2", .addEntry]
    named "a" (standing "g" twice) = [(0, "a", "1"), (1, "a", "2")] ∧
      named "a" (standing "g" (twice ++ [.removeRow 1, .removeRow 1])) = [(0, "a", "1")] := by
  decide +kernel

end NodeGroups.Page.VariablesPage
