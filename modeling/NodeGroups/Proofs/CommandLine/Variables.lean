import NodeGroups.Proofs.CommandLine.Amending
import NodeGroups.Proofs.Page.VariableRows

set_option autoImplicit false

namespace NodeGroups.CommandLine

open Backend (Session writes)
open Document (Variables)
open Document.Variables (entries_eq find?_entries)
open Page (Handle Rows Status VariablesPage)
open Page.VariablesPage (keyOf valueOf)

theorem removeRow_of_mem {page : VariablesPage} {row : Handle} (there : row ∈ page.rows.handles) :
    page.removeRow row = (.ok (),
      { page with rows := page.rows.erase row, status := page.status.markEdited }) := by
  obtain ⟨r, found⟩ := Rows.get?_of_mem there
  rw [VariablesPage.removeRow, found]

/-- Rows that are on the page are removed, and all others stay. -/
theorem removeRows_of_mem (page : VariablesPage) (distinct : page.rows.Distinct)
    {rows : List Handle} (apart : rows.Nodup) (there : ∀ h ∈ rows, h ∈ page.rows.handles) :
    removeRows page rows = .ok { page with
      rows := { page.rows with entries := page.rows.entries.filter fun e => e.1 ∉ rows }
      status := if rows = [] then page.status else page.status.markEdited } := by
  induction rows generalizing page with
  | nil => simp [removeRows]
  | cons row rows ih =>
    obtain ⟨fresh, apart⟩ := List.nodup_cons.mp apart
    have first := removeRow_of_mem (there row List.mem_cons_self)
    have erased := distinct.entries_erase_eq row
    have others : ∀ h ∈ rows, h ∈ (page.rows.erase row).handles := by
      intro h member
      obtain ⟨e, among, rfl⟩ := List.mem_map.mp (there h (List.mem_cons_of_mem row member))
      have other : e.1 ≠ row := fun same => fresh (same ▸ member)
      refine List.mem_map.mpr ⟨e, ?_, rfl⟩
      rw [erased]
      exact List.mem_filter.mpr ⟨among, decide_eq_true other⟩
    have onward := ih { page with
      rows := page.rows.erase row, status := page.status.markEdited } (distinct.erase row) apart
      others
    rw [removeRows, first]
    change removeRows _ rows = _
    rw [onward]
    have both : (page.rows.erase row).entries.filter (fun e => e.1 ∉ rows) =
        page.rows.entries.filter fun e => e.1 ∉ row :: rows := by
      rw [erased, List.filter_filter]
      refine List.filter_congr fun e _ => ?_
      simp [Bool.and_comm]
    dsimp only
    rw [both, if_neg (List.cons_ne_nil row rows), Rows.next_erase]
    split <;> rfl

theorem removeRows_rowsOf {page : VariablesPage} (distinct : page.rows.Distinct) (key : String) :
    ∃ next, removeRows page (page.rowsOf key) = .ok next ∧
      next.shown = page.shown.filter (fun e => e.1 ≠ key) ∧ next.group = page.group ∧
      next.status = if page.rowsOf key = [] then page.status else page.status.markEdited := by
  have among : (page.rowsOf key).Sublist page.rows.handles := List.filter_sublist.map Prod.fst
  have removed := removeRows_of_mem page distinct (distinct.apart.sublist among) fun h => among.mem
  refine ⟨_, removed, ?_, rfl, rfl⟩
  have left : page.rows.entries.filter (fun e => e.1 ∉ page.rowsOf key) =
      page.rows.entries.filter fun e => keyOf e.2 ≠ key := by
    refine List.filter_congr fun e member => ?_
    exact decide_eq_decide.mpr (VariablesPage.mem_rowsOf distinct member).not
  rw [VariablesPage.shown, Rows.toList, left, VariablesPage.shown, Rows.toList, List.map_map,
    List.map_map, List.filter_map]
  rfl

theorem withVariable_eq {page : VariablesPage} (distinct : page.rows.Distinct)
    (new : page.status = .initial) (key value : String) :
    if key = "" ∨ value = "" then ∃ e, withVariable key value page = .error e
    else ∃ next, withVariable key value page = .ok next ∧ next.group = page.group ∧
      next.status.canCommit = true ∧
        next.shown = page.shown.filter (fun e => e.1 ≠ key) ++ [(key, value)] := by
  obtain ⟨fewer, removed, shown, group, status⟩ := removeRows_rowsOf distinct key
  have added : withVariable key value page =
      unrefused ((fewer.typeKey key).typeValue value).addEntry := by
    rw [withVariable, removed]
    rfl
  rw [added, VariablesPage.addEntry]
  split
  · rename_i blank
    have entered : ((fewer.typeKey key).typeValue value).hasEntry = false := by
      change (key != "" && value != "") = false
      rcases blank with rfl | rfl <;> simp
    rw [entered]
    exact ⟨_, rfl⟩
  · rename_i given
    have entered : ((fewer.typeKey key).typeValue value).hasEntry = true := by
      change (key != "" && value != "") = true
      simpa using given
    rw [entered, if_pos rfl]
    refine ⟨_, rfl, group, ?_, ?_⟩
    · change fewer.status.markEdited.canCommit = true
      rw [status, new]
      split <;> rfl
    · rw [← shown]
      exact VariablesPage.shown_push fewer key value

theorem withoutVariable_eq {page : VariablesPage} (distinct : page.rows.Distinct)
    (new : page.status = .initial) (group key : String) :
    if key ∈ page.shown.map Prod.fst then
      ∃ next, withoutVariable group key page = .ok next ∧ next.group = page.group ∧
        next.status.canCommit = true ∧ next.shown = page.shown.filter (fun e => e.1 ≠ key)
    else ∃ e, withoutVariable group key page = .error e := by
  obtain ⟨fewer, removed, shown, same, status⟩ := removeRows_rowsOf distinct key
  rw [withoutVariable]
  split
  · rename_i there
    have some : page.rowsOf key ≠ [] := fun none => VariablesPage.rowsOf_eq_nil.mp none there
    rw [if_neg (by simpa using some)]
    refine ⟨fewer, removed, same, ?_, shown⟩
    rw [status, if_neg some, new]
    rfl
  · rename_i absent
    rw [VariablesPage.rowsOf_eq_nil.mpr absent]
    exact ⟨_, rfl⟩

section Loaded

variable {group : String} {s t : Session} {d : Variables}

theorem distinct_load (group : String) (s : Session) :
    ((VariablesPage.new group).load s).1.rows.Distinct := by
  unfold VariablesPage.load
  rcases (Backend.variablesOf (VariablesPage.new group).group).run.run s with ⟨answer, t⟩
  cases answer with
  | ok d => exact (Rows.distinct_clear _).append _
  | error e => exact Rows.distinct_empty

theorem amendVariables_refuses {change : VariablesPage → Except Trace VariablesPage} {e : Trace}
    (got : (Backend.variablesOf group).run.run s = (.ok d, t)) (unwritten : writes s = [])
    (refused : change ((VariablesPage.new group).load s).1 = .error e) :
    Refuses ((amend (openVariables group) change (commitPage VariablesPage.shape)).run.run s) := by
  have reads := Backend.Continues.journey.variablesOf group s
  rw [got] at reads
  exact amend_refuses (openVariables_of_ok got).1 reads unwritten refused

theorem amendVariables_puts {change : VariablesPage → Except Trace VariablesPage}
    {next : VariablesPage} (got : (Backend.variablesOf group).run.run s = (.ok d, t))
    (unwritten : writes s = []) (changed : change ((VariablesPage.new group).load s).1 = .ok next)
    (same : next.group = ((VariablesPage.new group).load s).1.group)
    (ready : next.status.canCommit = true) :
    Puts ((amend (openVariables group) change (commitPage VariablesPage.shape)).run.run s)
      (s.settings.url (Backend.memberPath s.settings.paths.groupVariables group))
      next.document.toJson := by
  have reads := Backend.Continues.journey.variablesOf group s
  rw [got] at reads
  have path : VariablesPage.writer.pathOf next s.settings.paths =
      Backend.memberPath s.settings.paths.groupVariables group := by
    change Backend.memberPath _ next.group = _
    rw [same, VariablesPage.group_load]
    rfl
  rw [← path]
  exact amend_puts VariablesPage.writer (openVariables_of_ok got).1 reads unwritten changed ready

end Loaded

end NodeGroups.CommandLine
