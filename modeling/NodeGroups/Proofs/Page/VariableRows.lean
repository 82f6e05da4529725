import NodeGroups.Proofs.Page.Commit
import NodeGroups.Proofs.Page.RowHistory

set_option autoImplicit false

namespace NodeGroups

namespace Document.Variables

/-- The variables that were got, as they are shown. -/
theorem entries_eq (d : Variables) :
    d.entries = ((d.data.getD ∅).map shownText).entries := by
  rw [Variables.entries]
  cases d.data <;> rfl

theorem find?_entries (d : Variables) (k : String) :
    Entries.find? k d.entries.reverse = ((d.data.getD ∅).find? k).map shownText := by
  rw [entries_eq, (OrderedMap.sorted _).find?_reverse]
  exact Entries.find?_map _ _ _

/-- The text of a value is the value just if it is a string. -/
theorem string_shownText {v : Json} :
    Json.string (shownText v) = v ↔ ∃ text, v = .string text := by
  constructor
  · intro same
    exact ⟨_, same.symm⟩
  · rintro ⟨text, rfl⟩
    rfl

end Document.Variables

namespace Page.VariablesPage

open Backend (Session)
open Document (Variables)

/-- The document of a page maps every variable to the value in its last row. -/
theorem find?_document (page : VariablesPage) :
    ∃ m, page.document = ⟨some m⟩ ∧
      ∀ k, m.find? k = (Entries.find? k page.shown.reverse).map .string := by
  refine ⟨_, rfl, fun k => ?_⟩
  rw [OrderedMap.find?, entries_document, Entries.find?_map, Entries.find?_sort,
    Entries.lookup_eq_find?]

theorem shown_push (page : VariablesPage) (key value : String) :
    { page with rows := page.rows.push (row key value) }.shown = page.shown ++ [(key, value)] := by
  simp [shown, keyOf_row, valueOf_row]

theorem mem_rowsOf {page : VariablesPage} (distinct : page.rows.Distinct) {key : String}
    {e : Handle × Row} (member : e ∈ page.rows.entries) :
    e.1 ∈ page.rowsOf key ↔ keyOf e.2 = key := by
  rw [rowsOf, List.mem_map]
  constructor
  · rintro ⟨f, among, same⟩
    obtain ⟨there, named⟩ := List.mem_filter.mp among
    rw [← List.inj_on_of_nodup_map distinct.apart there member same]
    exact beq_iff_eq.mp named
  · exact fun named => ⟨e, List.mem_filter.mpr ⟨member, beq_iff_eq.mpr named⟩, rfl⟩

theorem rowsOf_eq_nil {page : VariablesPage} {key : String} :
    page.rowsOf key = [] ↔ key ∉ page.shown.map Prod.fst := by
  rw [rowsOf, List.map_eq_nil_iff, List.filter_eq_nil_iff, shown, Rows.toList, List.map_map,
    List.map_map, List.mem_map]
  simp

/-- What an action does is within some variables: a row that it adds or removes is a row of one of
them, and a load gets nothing. -/
def Action.Within (keys : Set String) (page : VariablesPage) : Action → Prop
  | .load s => ((Backend.variablesOf page.group).run.run s).1.isOk = false
  | .addEntry => page.hasEntry = true → page.key ∈ keys
  | .removeRow handle => ∀ r, page.rows.get? handle = some r → keyOf r ∈ keys
  | .typeKey _ | .typeValue _ | .startCommit | .endCommit _ | .commit _ | .hideBanner => True

/-- What actions do one after another is within some variables. -/
def StaysWithin (keys : Set String) : VariablesPage → List Action → Prop
  | _, [] => True
  | page, a :: actions => a.Within keys page ∧ StaysWithin keys (page.act a) actions

variable {page : VariablesPage} {keys : Set String} {k : String}

theorem lastValue?_addEntry (other : page.hasEntry = true → page.key ≠ k) :
    page.addEntry.2.lastValue? k = page.lastValue? k := by
  unfold addEntry
  cases entered : page.hasEntry with
  | false => rfl
  | true =>
    rw [lastValue?, lastValue?, if_pos rfl]
    change (VariablesPage.shown { page with rows := page.rows.push _ }).reverse.lookup k = _
    rw [shown_push, Entries.lookup_reverse_of_ne (other entered), List.append_nil]

theorem lastValue?_removeRow {handle : Handle}
    (other : ∀ r, page.rows.get? handle = some r → keyOf r ≠ k) :
    (page.removeRow handle).2.lastValue? k = page.lastValue? k := by
  unfold removeRow
  cases found : page.rows.get? handle with
  | none => rfl
  | some r =>
    obtain ⟨front, back, held, erased⟩ :=
      Rows.map_toList_erase found fun r => (keyOf r, valueOf r)
    rw [lastValue?, lastValue?, shown, shown, held, erased,
      Entries.lookup_reverse_of_ne (other r found)]

/-- What is done within some variables leaves the last value of every other variable. -/
theorem lastValue?_act {a : Action} (within : a.Within keys page) (out : k ∉ keys) :
    (page.act a).lastValue? k = page.lastValue? k := by
  cases a with
  | load s =>
    rw [Action.Within] at within
    rw [act, load]
    rcases answered : (Backend.variablesOf page.group).run.run s with ⟨answer, t⟩
    rw [answered] at within
    cases answer with
    | ok d => cases within
    | error e => rfl
  | addEntry => exact lastValue?_addEntry fun entered same => out (same ▸ within entered)
  | removeRow handle => exact lastValue?_removeRow fun r found same => out (same ▸ within r found)
  | startCommit =>
    obtain ⟨status, begun⟩ := shape.startCommit_left page
    rw [act, startCommit, begun]
    rfl
  | commit s =>
    obtain ⟨status, done⟩ := shape.commit_left page s
    rw [act, commit, done]
    rfl
  | typeKey | typeValue | endCommit | hideBanner => rfl

theorem group_act (page : VariablesPage) (a : Action) : (page.act a).group = page.group := by
  cases a with
  | load s => exact page.group_load s
  | addEntry =>
    rw [act, addEntry]
    cases page.hasEntry <;> rfl
  | removeRow handle =>
    rw [act, removeRow]
    cases page.rows.get? handle <;> rfl
  | startCommit =>
    obtain ⟨status, begun⟩ := shape.startCommit_left page
    rw [act, startCommit, begun]
    rfl
  | commit s =>
    obtain ⟨status, done⟩ := shape.commit_left page s
    rw [act, commit, done]
    rfl
  | typeKey | typeValue | endCommit | hideBanner => rfl

theorem group_after (page : VariablesPage) (actions : List Action) :
    (kind.after page actions).group = page.group := by
  induction actions generalizing page with
  | nil => rfl
  | cons a actions ih => exact (ih (page.act a)).trans (page.group_act a)

theorem StaysWithin.lastValue? {actions : List Action} (within : StaysWithin keys page actions)
    (out : k ∉ keys) : (kind.after page actions).lastValue? k = page.lastValue? k := by
  induction actions generalizing page with
  | nil => rfl
  | cons a actions ih => exact (ih within.2).trans (lastValue?_act within.1 out)

/-- A page that shows a document has the text of each of its variables as the last value. -/
theorem lastValue?_load {s t : Session} {d : Variables}
    (got : (Backend.variablesOf page.group).run.run s = (.ok d, t)) (k : String) :
    (page.load s).1.lastValue? k = ((d.data.getD ∅).find? k).map Variables.shownText := by
  rw [VariablesPage.lastValue?, shown_load page got, Entries.lookup_eq_find?, d.find?_entries]

end Page.VariablesPage

end NodeGroups
