import NodeGroups.Proofs.Page.Idempotence
import NodeGroups.Proofs.Page.RowHistory
import NodeGroups.Proofs.Past

set_option autoImplicit false

namespace NodeGroups.Page

open Backend (Session)
open Document (AssignedClass Configuration)
open Search (Record)

namespace Rows

variable {α β : Type}

namespace Change

/-- The rows that were put in a list, under their handles. -/
def put : Change α → List (Handle × α)
  | .replaced first as => numbered first as
  | .added h a => [(h, a)]
  | .removed _ => []

/-- The handles that were handed out, first things first. -/
def handed (past : List (Change α)) : List Handle := (past.flatMap put).map Prod.fst

variable {past : List (Change α)}

theorem handed_concat (c : Change α) :
    handed (past ++ [c]) = handed past ++ (put c).map Prod.fst := by
  simp [handed]

theorem mem_standing_concat {c : Change α} {e : Handle × α} (stands : e ∈ standing (past ++ [c])) :
    e ∈ standing past ∨ e ∈ put c := by
  cases c with
  | replaced first as =>
    rw [standing_replaced] at stands
    exact .inr stands
  | added h a =>
    have stays : (Change.added h a).replacement? = none := rfl
    rw [standing, gone_added, since_concat past stays, base_concat past stays,
      List.filterMap_append, ← List.append_assoc, List.filter_append, List.mem_append] at stands
    exact stands.imp_right fun new => (List.mem_filter.mp new).1
  | removed h =>
    rw [standing_removed] at stands
    exact .inl (List.mem_filter.mp stands).1

/-- What stands later stood before, or was put in the list since. -/
theorem mem_standing_append {later : List (Change α)} {e : Handle × α}
    (stands : e ∈ standing (past ++ later)) : e ∈ standing past ∨ e ∈ later.flatMap put := by
  induction later using List.reverseRecOn with
  | nil =>
    rw [List.append_nil] at stands
    exact .inl stands
  | append_singleton later c ih =>
    rw [← List.append_assoc] at stands
    rw [List.flatMap_append, List.mem_append]
    rcases mem_standing_concat stands with before | last
    · exact (ih before).imp_right .inl
    · exact .inr (.inr (List.mem_flatMap_of_mem List.mem_cons_self last))

end Change

/-- The rows of a list are told by its past, and its handles were handed out in turn. -/
structure Counts (rows : Rows β) (content : β → α) (past : List (Change α)) : Prop
    extends rows.Tells content past where
  handed : Change.handed past = List.range rows.next

/-- Handles stand for the rows of a list, as its past tells. -/
structure Named (rows : Rows β) (content : β → α) (past : List (Change α)) : Prop where
  /-- The handles were handed out in turn. -/
  handed : Change.handed past = List.range rows.next
  /-- What was put in the list and not taken out stands, in this order. -/
  stands : rows.entries.map (fun e => (e.1, content e.2)) = Change.standing past
  /-- A handle finds just the row that stands under it. -/
  found : ∀ h a, (rows.get? h).map content = some a ↔ (h, a) ∈ Change.standing past
  /-- To remove a row is to leave it out. -/
  erased : ∀ h, (rows.erase h).entries = rows.entries.filter fun e => e.1 ≠ h

section Counts

variable {rows later : Rows β} {content : β → α} {past since : List (Change α)}

theorem counts_empty (content : β → α) : (empty : Rows β).Counts content [] :=
  ⟨tells_empty content, rfl⟩

theorem Counts.idle (counts : rows.Counts content past) :
    rows.Counts content (past ++ (none : Option (Change α)).toList) := by
  rw [Option.toList_none, List.append_nil]
  exact counts

theorem Counts.push (counts : rows.Counts content past) (b : β) :
    (rows.push b).Counts content (past ++ [.added rows.next (content b)]) where
  toTells := counts.toTells.push b
  handed := by
    rw [Change.handed_concat, counts.handed, next_push, List.range_succ]
    rfl

theorem Counts.erase (counts : rows.Counts content past) {h : Handle} {b : β}
    (found : rows.get? h = some b) : (rows.erase h).Counts content (past ++ [.removed h]) where
  toTells := counts.toTells.erase found
  handed := by
    rw [Change.handed_concat, counts.handed]
    exact List.append_nil _

theorem next_append (rows : Rows β) (more : List β) :
    (rows.append more).next = rows.next + more.length := by
  induction more generalizing rows with
  | nil => rfl
  | cons b more ih =>
    rw [List.length_cons, Nat.add_comm more.length 1, ← Nat.add_assoc]
    exact ih (rows.push b)

theorem Counts.replace (counts : rows.Counts content past) (bs : List β) :
    (rows.clear.append bs).Counts content (past ++ [.replaced rows.next (bs.map content)]) where
  toTells := .replace rows content past bs
  handed := by
    have next : (rows.clear.append bs).next = rows.next + bs.length := next_append rows.clear bs
    have turns : (Change.put (.replaced rows.next (bs.map content))).map Prod.fst =
        List.range' rows.next bs.length := by
      simp [Change.put, numbered, Function.comp_def, List.zipIdx_map]
    rw [Change.handed_concat, counts.handed, next, turns, List.range_eq_range',
      List.range_eq_range', ← List.range'_append_1, Nat.zero_add]

/-- A row that is changed to one that says the same leaves what the past tells. -/
theorem Counts.modify (counts : rows.Counts content past) {h : Handle} {a b : β}
    (found : rows.get? h = some a) (same : content b = content a) :
    (rows.modify h fun _ => b).Counts content past where
  distinct := counts.distinct.modify h _
  entries := by
    obtain ⟨front, back, split, -⟩ := entries_erase found
    have place : (h, a) ∈ rows.entries := split ▸ List.mem_append_right front List.mem_cons_self
    rw [← counts.entries, Rows.modify, List.map_map]
    refine List.map_congr_left fun e member => ?_
    dsimp only [Function.comp_apply]
    split
    · rename_i here
      have only : e = (h, a) :=
        List.inj_on_of_nodup_map counts.distinct.apart member place (beq_iff_eq.mp here)
      rw [only, same]
    · rfl
  spent := counts.spent
  handed := counts.handed

/-- A handle finds just the row that stands under it. -/
theorem Counts.found (counts : rows.Counts content past) (h : Handle) (a : α) :
    (rows.get? h).map content = some a ↔ (h, a) ∈ Change.standing past := by
  rw [← counts.entries, List.mem_map, Option.map_eq_some_iff]
  constructor
  · rintro ⟨b, found, rfl⟩
    obtain ⟨front, back, split, -⟩ := entries_erase found
    exact ⟨(h, b), split ▸ List.mem_append_right front List.mem_cons_self, rfl⟩
  · rintro ⟨⟨k, b⟩, member, ⟨⟩⟩
    exact ⟨b, counts.distinct.get?_of_entry member, rfl⟩

theorem Counts.named (counts : rows.Counts content past) : rows.Named content past :=
  ⟨counts.handed, counts.entries, counts.found, counts.distinct.entries_erase_eq⟩

/-- A handle that was handed out finds nothing later but what it finds now. -/
theorem Counts.found_before (counts : rows.Counts content past)
    (onward : later.Counts content (past ++ since)) {h : Handle} (old : h < rows.next) {a : α}
    (found : (later.get? h).map content = some a) : (rows.get? h).map content = some a := by
  rw [onward.found] at found
  rw [counts.found]
  refine (Change.mem_standing_append found).resolve_right fun new => ?_
  have apart : (Change.handed past ++ Change.handed since).Nodup := by
    have whole : Change.handed past ++ Change.handed since = List.range later.next := by
      rw [← onward.handed, Change.handed, Change.handed, Change.handed, List.flatMap_append,
        List.map_append]
    rw [whole]
    exact List.nodup_range
  have first : h ∈ Change.handed past := by
    rw [counts.handed]
    exact List.mem_range.mpr old
  exact (List.nodup_append.mp apart).2.2 h first h (List.mem_map_of_mem new) rfl

end Counts

/-- A handle that finds no row removes none. -/
theorem erase_of_absent {rows : Rows α} {h : Handle} (absent : rows.get? h = none) :
    rows.erase h = rows := by
  have others : ∀ e ∈ rows.entries, ¬ (e.1 == h) = true := by
    intro e member here
    obtain ⟨row, there⟩ := get?_of_mem (rows.handles_entries member)
    rw [beq_iff_eq.mp here, absent] at there
    cases there
  rw [Rows.erase, List.eraseP_of_forall_not others]

inductive Action (α : Type)
  | push (row : α)
  | erase (h : Handle)
  | clear

def act (rows : Rows α) : Action α → Rows α
  | .push row => rows.push row
  | .erase h => rows.erase h
  | .clear => rows.clear

def after (rows : Rows α) (actions : List (Action α)) : Rows α := actions.foldl act rows

/-- What an action does to a list: nothing if it is to remove a row that is not there. -/
def change? (rows : Rows α) : Action α → Option (Change α)
  | .push row => some (.added rows.next row)
  | .erase h => (rows.get? h).map fun _ => .removed h
  | .clear => some (.replaced rows.next [])

theorem Counts.act {rows : Rows α} {past : List (Change α)} (counts : rows.Counts id past)
    (a : Action α) : (rows.act a).Counts id (past ++ (rows.change? a).toList) := by
  cases a with
  | push row => exact counts.push row
  | erase h =>
    rw [change?]
    cases found : rows.get? h with
    | none =>
      rw [Rows.act, erase_of_absent found]
      exact counts.idle
    | some row => exact counts.erase found
  | clear => exact counts.replace []

theorem counts_after {rows : Rows α} {past : List (Change α)} (counts : rows.Counts id past)
    (actions : List (Action α)) :
    (rows.after actions).Counts id (past ++ chronicle Rows.act change? rows actions) :=
  recalls_chronicle Rows.act change? (fun rows past => rows.Counts id past)
    (fun _ _ a counts => counts.act a) counts actions

end Rows

namespace ClassesPage

open Rows (Change)

variable {α : Type}

/-- Whether an action is done inside a panel. -/
def Action.isInside : Action → Bool
  | .chooseParameter _ _ | .typeValue _ _ | .addRow _ | .removeRow _ _ => true
  | _ => false

/-- What is told of a panel does not depend on its form and its rows. -/
def OfClass (content : ClassPanel → α) : Prop :=
  ∀ b form rows, content { b with form, rows } = content b

/-- What an action does to the panels, where `content` is what is told of a panel: nothing if it
fails, if there is no panel to remove, or if it is about anything else. -/
def change? (content : ClassPanel → α) (page : ClassesPage) : Action → Option (Change α)
  | .load s =>
    (page.reading.run s).1.2.map fun loaded =>
      .replaced page.panels.next (loaded.map fun c => content c.panel)
  | .addPanel s => do
    let panel ← (page.addPanel s).1.toOption
    let selection ← page.picker.selection
    let infos ← ((Backend.parametersOf selection.recordId).run.run s).1.toOption
    return .added panel (content (.ofSelection selection infos))
  | .removePanel panel => (page.removePanel panel).1.map fun _ => .removed panel
  | _ => none

section Single

variable {page : ClassesPage} {content : ClassPanel → α} {past : List (Change α)}

theorem counts_idle {next : ClassesPage} (counts : page.panels.Counts content past)
    (same : next.panels = page.panels) :
    next.panels.Counts content (past ++ (none : Option (Change α)).toList) := by
  rw [same]
  exact counts.idle

theorem removePanel_eq (page : ClassesPage) (panel : Handle) :
    (page.removePanel panel).1 = page.panels.get? panel ∧
      (page.removePanel panel).2.panels = page.panels.erase panel := by
  unfold removePanel
  split
  · rename_i absent
    exact ⟨absent.symm, (Rows.erase_of_absent absent).symm⟩
  · rename_i b found
    exact ⟨found.symm, rfl⟩

theorem counts_addPanel (counts : page.panels.Counts content past) (s : Session) :
    (page.addPanel s).2.1.panels.Counts content
      (past ++ (page.change? content (.addPanel s)).toList) := by
  unfold change? addPanel
  cases picked : page.picker.selection with
  | none => exact counts.idle
  | some selection =>
    simp only [Option.bind_eq_bind, Option.bind_some]
    rcases (Backend.parametersOf selection.recordId).run.run s with ⟨answer, t⟩
    cases answer with
    | error failure => exact counts.idle
    | ok infos => exact counts.push (.ofSelection selection infos)

theorem counts_removePanel (counts : page.panels.Counts content past) (panel : Handle) :
    (page.removePanel panel).2.panels.Counts content
      (past ++ (page.change? content (.removePanel panel)).toList) := by
  rw [change?, (page.removePanel_eq panel).1, (page.removePanel_eq panel).2]
  cases found : page.panels.get? panel with
  | none =>
    rw [Rows.erase_of_absent found]
    exact counts.idle
  | some b => exact counts.erase found

/-- A load that reads classes puts their panels in place of all others. -/
theorem counts_load (counts : page.panels.Counts content past) (s : Session) :
    (page.load s).1.panels.Counts content
      (past ++ (page.change? content (.load s)).toList) := by
  rw [page.load_eq s, change?]
  obtain ⟨records, loaded⟩ := (page.reading.run s).1
  cases loaded with
  | none => exact counts_idle counts rfl
  | some loaded =>
    rw [presented_some]
    have replaced := counts.replace (loaded.map LoadedClass.panel)
    rw [List.map_map] at replaced
    exact replaced

/-- An operation inside a panel, of which nothing is told. -/
theorem counts_onPanel {β : Type} (counts : page.panels.Counts content past)
    (ofClass : OfClass content) (panel : Handle) {f : ClassPanel → Except Failure (β × ClassPanel)}
    (inside : ∀ b a b', f b = .ok (a, b') → ∃ form rows, b' = { b with form, rows }) :
    (page.onPanel panel f).2.panels.Counts content past := by
  rcases page.onPanel_cases panel f with ⟨failure, refused⟩ | ⟨b, a, changed, found, done, next⟩
  · rw [refused]
    exact counts
  · obtain ⟨form, rows, rfl⟩ := inside b a changed done
    rw [next]
    exact counts.modify found (ofClass b form rows)

theorem panels_editedIfOk {β : Type} (r : Except Failure β × ClassesPage) :
    (editedIfOk r).2.panels = r.2.panels := by
  obtain ⟨outcome, next⟩ := r
  cases outcome <;> rfl

theorem counts_inside (counts : page.panels.Counts content past) (ofClass : OfClass content)
    {a : Action} (inside : a.isInside = true) : (page.act a).panels.Counts content past := by
  cases a with
  | chooseParameter panel name =>
    refine counts_onPanel counts ofClass panel fun b a b' changed => ?_
    cases chosen : b.form.choose name with
    | error failure =>
      rw [chosen] at changed
      cases changed
    | ok form =>
      rw [chosen] at changed
      cases changed
      exact ⟨form, b.rows, rfl⟩
  | typeValue panel raw =>
    refine counts_onPanel counts ofClass panel fun b a b' changed => ?_
    cases changed
    exact ⟨_, b.rows, rfl⟩
  | addRow panel =>
    rw [act, addRow, panels_editedIfOk]
    refine counts_onPanel counts ofClass panel fun b a b' changed => ?_
    cases taken : b.form.take with
    | error failure =>
      rw [taken] at changed
      cases changed
    | ok entry =>
      rw [taken] at changed
      cases changed
      exact ⟨_, _, rfl⟩
  | removeRow panel row =>
    rw [act, removeRow, panels_editedIfOk]
    refine counts_onPanel counts ofClass panel fun b a b' changed => ?_
    split at changed
    · cases changed
    · cases changed
      exact ⟨_, _, rfl⟩
  | _ => cases inside

theorem counts_act (counts : page.panels.Counts content past) {a : Action}
    (steady : a.isInside = true → OfClass content) :
    (page.act a).panels.Counts content (past ++ (page.change? content a).toList) := by
  cases a with
  | load s => exact counts_load counts s
  | addPanel s => exact counts_addPanel counts s
  | removePanel panel => exact counts_removePanel counts panel
  | chooseParameter panel name =>
    exact (counts_inside counts (steady rfl) (a := .chooseParameter panel name) rfl).idle
  | typeValue panel raw =>
    exact (counts_inside counts (steady rfl) (a := .typeValue panel raw) rfl).idle
  | addRow panel => exact (counts_inside counts (steady rfl) (a := .addRow panel) rfl).idle
  | removeRow panel row =>
    exact (counts_inside counts (steady rfl) (a := .removeRow panel row) rfl).idle
  | startCommit =>
    obtain ⟨status, begun⟩ := shape.startCommit_left page
    rw [act, startCommit, begun]
    exact counts_idle counts rfl
  | commit s =>
    obtain ⟨status, done⟩ := shape.commit_left page s
    rw [act, commit, done]
    exact counts_idle counts rfl
  | picker event => exact counts_idle counts rfl
  | endCommit outcome => exact counts_idle counts rfl
  | closeLists => exact counts_idle counts rfl
  | hideBanner => exact counts_idle counts rfl

theorem counts_after {actions : List Action}
    (steady : ∀ a ∈ actions, a.isInside = true → OfClass content)
    (counts : page.panels.Counts content past) :
    (page.after actions).panels.Counts content
      (past ++ chronicle act (change? content) page actions) :=
  recalls_chronicle_of_mem act (change? content) (fun page past => page.panels.Counts content past)
    (fun a member _ _ counts => counts_act counts (steady a member)) counts

theorem assigned_readingClass (known : List Record) (a : AssignedClass) (s : Session) :
    ((readingClass known a).run s).1.assigned = a := by
  unfold readingClass
  split <;> rfl

theorem assigned_mapM_readingClass (known : List Record) (assigned : List AssignedClass)
    (s : Session) : ((assigned.mapM (readingClass known)).run s).1.map LoadedClass.assigned =
      assigned := by
  induction assigned generalizing s with
  | nil => rfl
  | cons a assigned ih =>
    rw [List.mapM_cons, StateT.run_bind]
    change ((readingClass known a).run s).1.assigned :: (((assigned.mapM (readingClass known)).run
      ((readingClass known a).run s).2).1.map LoadedClass.assigned) = a :: assigned
    rw [assigned_readingClass, ih]

/-- A load replaces the panels just if it gets the configuration, by a panel for each of its
classes. -/
theorem change?_load (content : ClassPanel → α) (page : ClassesPage) (s : Session) :
    match ((Backend.configurationOf page.group).run.run
        ((Backend.classes page.environment).run.run s).2).1 with
    | .ok c => ∃ panels : List ClassPanel,
        panels.map ClassPanel.name = c.classes.map (·.className) ∧
          page.change? content (.load s) =
            some (.replaced page.panels.next (panels.map content))
    | .error _ => page.change? content (.load s) = none := by
  rcases listed : (Backend.classes page.environment).run.run s with ⟨classes, t⟩
  dsimp only
  rcases got : (Backend.configurationOf page.group).run.run t with ⟨outcome, u⟩
  rw [change?, run_reading listed got]
  cases outcome with
  | error failure => rfl
  | ok c =>
    let known := Search.firstOfEach [] (classes.toOption.getD [])
    have read := assigned_mapM_readingClass known c.classes u
    refine ⟨((c.classes.mapM (readingClass known)).run u).1.map LoadedClass.panel, ?_, ?_⟩
    · conv_rhs => rw [← read]
      rw [List.map_map, List.map_map]
      rfl
    · rw [List.map_map]
      rfl

end Single

end ClassesPage

/-- Whatever is done to a list of rows, the handles that it handed out are 0, 1, 2 and so on, and
its rows are those that were put in it, without those that were removed under their handle and those
that stood when it was cleared. A handle finds its row while that stands, and to remove a row is to
leave out that one alone. A handle that was handed out finds later what it finds now, or nothing.
The same is true of the panels of a page and what is told of them, if nothing that is done inside a
panel changes that: of whole panels if nothing is done there, and of their classes in any case. A
load clears and fills the panels just if it gets the configuration. -/
theorem handles_name_rows :
    (∀ (α : Type) (actions later : List (Rows.Action α)),
      let rows := Rows.empty.after actions
      rows.Named id (chronicle Rows.act Rows.change? Rows.empty actions) ∧
      ∀ h < rows.next, ∀ row, (rows.after later).get? h = some row → rows.get? h = some row) ∧
    ∀ (α : Type) (content : ClassPanel → α) (group : String) (environment : Option String)
      (settings : Settings) (actions later : List ClassesPage.Action),
      (∀ a ∈ actions ++ later, a.isInside = true → ClassesPage.OfClass content) →
      let start := ClassesPage.new group environment settings
      let page := start.after actions
      page.panels.Named content
        (chronicle ClassesPage.act (ClassesPage.change? content) start actions) ∧
      (∀ panel, (page.removePanel panel).1 = page.panels.get? panel ∧
        (page.removePanel panel).2.panels = page.panels.erase panel) ∧
      (∀ panel < page.panels.next, ∀ told,
        ((page.after later).panels.get? panel).map content = some told →
          (page.panels.get? panel).map content = some told) ∧
      ∀ s, match ((Backend.configurationOf page.group).run.run
          ((Backend.classes page.environment).run.run s).2).1 with
        | .ok c => ∃ panels : List ClassPanel,
            panels.map ClassPanel.name = c.classes.map (·.className) ∧
              page.change? content (.load s) =
                some (.replaced page.panels.next (panels.map content))
        | .error _ => page.change? content (.load s) = none := by
  refine ⟨fun α actions later => ?_,
    fun α content group environment settings actions later steady => ?_⟩
  · intro rows
    have counts := Rows.counts_after (Rows.counts_empty id) actions
    have onward := Rows.counts_after counts later
    refine ⟨counts.named, fun h old row found => ?_⟩
    have now := counts.found_before onward old (a := row) (by rw [found]; rfl)
    rwa [Option.map_id_fun, id] at now
  · intro start page
    have begins : ∀ a ∈ actions, a.isInside = true → ClassesPage.OfClass content :=
      fun a member => steady a (List.mem_append_left later member)
    have goes : ∀ a ∈ later, a.isInside = true → ClassesPage.OfClass content :=
      fun a member => steady a (List.mem_append_right actions member)
    have none : start.panels.Counts content [] := Rows.counts_empty content
    have counts := ClassesPage.counts_after begins none
    have onward := ClassesPage.counts_after goes counts
    exact ⟨counts.named, page.removePanel_eq, fun panel old told => counts.found_before onward old,
      ClassesPage.change?_load content page⟩

/-- A page that is loaded again after something was done in its first panel, and that panel was
removed twice. -/
theorem handles_name_rows_reloaded :
    let s := Session.start {} (Backend.inTurn
      ["[]", "\x7b\"classes\":[\x7b\"puppet_class\":\"web\"\x7d," ++
        "\x7b\"puppet_class\":\"db\"\x7d]\x7d"])
    let content := fun b : ClassPanel => (b.classId, b.name)
    let start := ClassesPage.new "g" none {}
    let actions : List ClassesPage.Action :=
      [.load s, .typeValue 0 "x", .removePanel 0, .removePanel 0]
    let page := start.after actions
    let past := chronicle ClassesPage.act (ClassesPage.change? content) start actions
    (∀ a ∈ actions ++ [.load s], a.isInside = true → ClassesPage.OfClass content) ∧
      page.panels.Named content past ∧ Rows.Change.standing past = [(1, none, "db")] ∧
      (page.removePanel 1).1 = page.panels.get? 1 ∧
      (page.after [.load s]).panels.handles = [2, 3] ∧
      ∀ told, ((page.after [.load s]).panels.get? 1).map content = some told →
        (page.panels.get? 1).map content = some told := by
  intro s content start actions page past
  have steady : ∀ a ∈ actions ++ [.load s], a.isInside = true → ClassesPage.OfClass content :=
    fun _ _ _ _ _ _ => rfl
  obtain ⟨named, removed, before, -⟩ :=
    handles_name_rows.2 (Option String × String) content "g" none {} actions [.load s] steady
  exact ⟨steady, named, by decide +kernel, (removed 1).1, by decide +kernel,
    before 1 (by decide +kernel)⟩

end NodeGroups.Page
