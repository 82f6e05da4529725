import NodeGroups.CommandLine.Run
import NodeGroups.Proofs.Page.Exchange

set_option autoImplicit false

namespace NodeGroups.CommandLine

open Backend (Continues Journey ReadsOnly Runs Session Wrote)
open Page (RulesPage Shape Status VariablesPage Writer)

section Run

variable {α : Type} {R : Session → Session → Prop} (journey : Journey R)

include journey

theorem runs_given (outcome : Except Trace α) : Runs R (Run.given outcome) := journey.refl

omit journey in
theorem runs_visit {f : Session → α × Session} (across : ∀ s, R s (f s).2) :
    Runs R (Run.visit f) := across

omit journey in
theorem runs_call {call : Backend.Call α} (runs : Runs R call) (note : String) :
    Runs R (Run.call note call) := runs

theorem runs_openClasses (group : String) (environment : Option String) :
    Runs R (openClasses group environment) :=
  journey.bind journey.refl fun _ =>
    journey.bind (runs_visit (Page.ClassesPage.across_load journey _)) fun page =>
      journey.bind (runs_given journey _) fun _ => journey.pure page

theorem runs_openRules (group : String) (masterZone : Option String) :
    Runs R (openRules group masterZone) :=
  journey.bind journey.refl fun _ =>
    journey.bind (runs_visit (RulesPage.across_load journey _)) fun page =>
      journey.bind (runs_given journey _) fun _ => journey.pure page

theorem runs_openVariables (group : String) : Runs R (openVariables group) :=
  journey.bind (runs_visit (VariablesPage.across_load journey _)) fun page =>
    journey.bind (runs_given journey _) fun _ => journey.pure page

end Run

theorem run_given_return {α : Type} (outcome : Except Trace Unit) (a : α) (s : Session) :
    (do Run.given outcome; return a : Run α).run.run s = (outcome.map fun _ => a, s) := by
  cases outcome <;> rfl

theorem run_openRules (group : String) (masterZone : Option String) (s : Session) :
    (openRules group masterZone).run.run s =
      let opened := (RulesPage.new group masterZone s.settings).load s
      ((requireLoaded opened.1.status).map fun _ => opened.1, opened.2) :=
  run_given_return _ _ _

theorem run_openVariables (group : String) (s : Session) :
    (openVariables group).run.run s =
      let opened := (VariablesPage.new group).load s
      ((requireLoaded opened.1.status).map fun _ => opened.1, opened.2) :=
  run_given_return _ _ _

section Open

variable {s t : Session} {group : String}

/-- The rules page is opened just if the rules were got. -/
theorem openRules_of_ok {d : Document.Rules}
    (got : (Backend.rulesOf group).run.run s = (.ok d, t)) (masterZone : Option String) :
    let opened := (RulesPage.new group masterZone s.settings).load s
    (openRules group masterZone).run.run s = (.ok opened.1, opened.2) ∧
      opened.1.status = .initial := by
  intro opened
  have status : opened.1.status = .initial := by
    rw [RulesPage.status_load, RulesPage.new, got]
    rfl
  refine ⟨?_, status⟩
  rw [run_openRules]
  dsimp only
  rw [show ((RulesPage.new group masterZone s.settings).load s).1.status = .initial from status]
  rfl

theorem openRules_of_error {e : Failure}
    (failed : (Backend.rulesOf group).run.run s = (.error e, t)) (masterZone : Option String) :
    ∃ trace u, (openRules group masterZone).run.run s = (.error trace, u) := by
  rw [run_openRules]
  dsimp only
  rw [RulesPage.status_load, RulesPage.new, failed]
  exact ⟨_, _, rfl⟩

/-- The variables page is opened just if the variables were got. -/
theorem openVariables_of_ok {d : Document.Variables}
    (got : (Backend.variablesOf group).run.run s = (.ok d, t)) :
    let opened := (VariablesPage.new group).load s
    (openVariables group).run.run s = (.ok opened.1, t) ∧ opened.1.status = .initial := by
  intro opened
  have status : opened.1.status = .initial := by
    rw [VariablesPage.status_load, VariablesPage.new, got]
    rfl
  have session : opened.2 = t := by
    rw [VariablesPage.session_load, VariablesPage.new, got]
  refine ⟨?_, status⟩
  rw [run_openVariables]
  dsimp only
  rw [show ((VariablesPage.new group).load s).1.status = .initial from status,
    show ((VariablesPage.new group).load s).2 = t from session]
  rfl

theorem openVariables_of_error {e : Failure}
    (failed : (Backend.variablesOf group).run.run s = (.error e, t)) :
    ∃ trace u, (openVariables group).run.run s = (.error trace, u) := by
  rw [run_openVariables]
  dsimp only
  rw [VariablesPage.status_load, VariablesPage.new, failed]
  exact ⟨_, _, rfl⟩

end Open

/-- Opens a page, changes it and commits it. -/
def amend {P : Type} (opening : Run P) (change : P → Except Trace P) (commit : P → Run Json) :
    Run Json := do
  commit (← Run.given (change (← opening)))

def withNode (certname : String) (page : RulesPage) : Except Trace RulesPage := do
  unrefused (← pickNode page certname).pin

def withoutNode (group certname : String) (page : RulesPage) : Except Trace RulesPage :=
  match page.pinnedRow? certname with
  | none => .error (.ofNote ("node " ++ certname ++ " is not pinned to " ++ group))
  | some row => unrefused (page.unpin row)

/-- The variables page with a variable in place of all rows of its name. -/
def withVariable (key value : String) (page : VariablesPage) : Except Trace VariablesPage := do
  unrefused (((← removeRows page (page.rowsOf key)).typeKey key).typeValue value).addEntry

def withoutVariable (group key : String) (page : VariablesPage) : Except Trace VariablesPage :=
  if (page.rowsOf key).isEmpty then
    .error (.ofNote ("variable " ++ key ++ " is not set on " ++ group))
  else removeRows page (page.rowsOf key)

theorem pin_eq (group certname : String) (masterZone : Option String) :
    pin group certname masterZone =
      amend (openRules group masterZone) (withNode certname) (commitPage RulesPage.shape) := by
  refine bind_congr fun page => ?_
  unfold withNode
  cases pickNode page certname <;> rfl

theorem unpin_eq (group certname : String) :
    unpin group certname =
      amend (openRules group none) (withoutNode group certname) (commitPage RulesPage.shape) := by
  refine bind_congr fun page => ?_
  unfold withoutNode
  cases page.pinnedRow? certname <;> rfl

theorem setVariable_eq (group key value : String) :
    setVariable group key value =
      amend (openVariables group) (withVariable key value) (commitPage VariablesPage.shape) := by
  refine bind_congr fun page => ?_
  unfold withVariable
  cases removeRows page (page.rowsOf key) <;> rfl

theorem unsetVariable_eq (group key : String) :
    unsetVariable group key =
      amend (openVariables group) (withoutVariable group key) (commitPage VariablesPage.shape) := by
  refine bind_congr fun page => ?_
  unfold withoutVariable
  dsimp only
  split <;> rfl

theorem isOk_commitReport (outcome : Except Failure Unit) (status : Status) :
    (commitReport outcome status).isOk = outcome.isOk := by
  cases outcome <;> rfl

section Amend

variable {P : Type} {opening : Run P} {change : P → Except Trace P} {commit : P → Run Json}
  {s t : Session} {page : P}

theorem amend_of_changed {next : P} (opened : opening.run.run s = (.ok page, t))
    (changed : change page = .ok next) :
    (amend opening change commit).run.run s = (commit next).run.run t := by
  rw [amend, Backend.run_bind_of_ok opened, changed]
  rfl

theorem amend_of_refused {e : Trace} (opened : opening.run.run s = (.ok page, t))
    (refused : change page = .error e) :
    (amend opening change commit).run.run s = (.error e, t) := by
  rw [amend, Backend.run_bind_of_ok opened, refused]
  rfl

end Amend

section Commit

variable {P D : Type} {shape : Shape P D}

theorem run_commitPage (page : P) (s : Session) :
    (commitPage shape page).run.run s =
      (commitReport (shape.commit page s).1 (shape.status (shape.commit page s).2.1),
        (shape.commit page s).2.2) := rfl

theorem wrote_commitPage (writer : Writer shape) {page : P}
    (ready : (shape.status page).canCommit = true) (s : Session) :
    let ran := (commitPage shape page).run.run s
    Wrote s ran.2 (writer.put page s) ran.1.isOk := by
  dsimp only
  rw [run_commitPage, isOk_commitReport]
  exact writer.wrote_commit page ready s

/-- A commit writes the page, or is locked and only fails. -/
theorem commitPage_cases (writer : Writer shape) (page : P) (s : Session) :
    let ran := (commitPage shape page).run.run s
    (∃ e, ran = (.error e, s)) ∨ Wrote s ran.2 (writer.put page s) ran.1.isOk := by
  cases ready : (shape.status page).canCommit with
  | true => exact .inr (wrote_commitPage writer ready s)
  | false =>
    dsimp only
    rw [run_commitPage, shape.commit_of_locked page ready]
    exact .inl ⟨_, rfl⟩

end Commit

/-- A command failed and wrote nothing. -/
def Refuses (ran : Except Trace Json × Session) : Prop :=
  ran.1.isOk = false ∧ Backend.writes ran.2 = []

/-- A command wrote one document and nothing else. -/
def Puts (ran : Except Trace Json × Session) (url : String) (document : Json) : Prop :=
  ∃ q, Backend.writes ran.2 = [q] ∧ q.method = .put ∧ q.url = url ∧ q.body = some document

section Amend

variable {P : Type} {opening : Run P} {change : P → Except Trace P} {commit : P → Run Json}
  {s t : Session} {page : P}

theorem amend_refuses {e : Trace} (opened : opening.run.run s = (.ok page, t))
    (reads : Continues s t) (unwritten : Backend.writes s = []) (refused : change page = .error e) :
    Refuses ((amend opening change commit).run.run s) := by
  rw [amend_of_refused opened refused]
  exact ⟨rfl, reads.writes.trans unwritten⟩

theorem amend_puts {D : Type} {shape : Shape P D} (writer : Writer shape) {next : P}
    (opened : opening.run.run s = (.ok page, t)) (reads : Continues s t)
    (unwritten : Backend.writes s = []) (changed : change page = .ok next)
    (ready : (shape.status next).canCommit = true) :
    Puts ((amend opening change (commitPage shape)).run.run s)
      (s.settings.url (writer.pathOf next s.settings.paths))
      (writer.toJson (shape.document next)) := by
  have wrote := wrote_commitPage writer ready t
  rw [amend_of_changed opened changed]
  refine ⟨writer.put next t, ?_, rfl, ?_, rfl⟩
  · rw [wrote.writes rfl, reads.writes, unwritten]
    rfl
  · rw [Writer.put, Session.request, reads.settings]

end Amend

end NodeGroups.CommandLine
