import NodeGroups.Proofs.Page.Commit

set_option autoImplicit false

namespace NodeGroups.Page

open Backend (Accepts Request Response Session)

/-- An operation that was tried: whether it was refused, and the page and the session after it. -/
structure Attempt (P : Type) where
  refused : Bool
  page : P
  session : Session

namespace Attempt

variable {P α : Type}

/-- An operation that may call the backend. -/
def ofCall (ran : Except Failure α × P × Session) : Attempt P := ⟨!ran.1.isOk, ran.2.1, ran.2.2⟩

/-- An operation on the page alone. -/
def ofEdit (s : Session) (edited : Except Failure α × P) : Attempt P :=
  ⟨!edited.1.isOk, edited.2, s⟩

/-- Nothing changed, and nothing was sent. -/
def Idle (page : P) (s : Session) (a : Attempt P) : Prop := a.page = page ∧ a.session = s

/-- The backend did not accept the one request that was sent, and only the state of the page
changed. -/
structure Declined (withStatus : Status → P) (s : Session) (q : Request) (a : Attempt P) :
    Prop where
  answer : ¬ Accepts s q
  sent : a.session.sent = s.sent ++ [q]
  page : ∃ status, a.page = withStatus status

theorem idle_of_error {page : P} {s : Session} {edited : Except Failure α × P}
    (kept : ∀ e, edited.1 = .error e → edited.2 = page)
    (refused : (ofEdit s edited).refused = true) : (ofEdit s edited).Idle page s := by
  obtain ⟨outcome, next⟩ := edited
  cases outcome with
  | ok a => cases refused
  | error e => exact ⟨kept e rfl, rfl⟩

/-- A commit that is refused was locked, or it was sent and not accepted. -/
theorem of_commit {D : Type} {shape : Shape P D} (writer : Writer shape) {page : P} {s : Session}
    {shown : Except Failure Response → String}
    (text : ∀ answer e, Backend.outcomeOf answer = .error e → shape.refusal e = shown answer)
    (refused : (ofCall (shape.commit page s)).refused = true) :
    (ofCall (shape.commit page s)).Idle page s ∨
      (shape.status page).canCommit = true ∧
        (ofCall (shape.commit page s)).Declined (shape.withStatus page) s (writer.put page s) := by
  cases can : (shape.status page).canCommit with
  | false =>
    rw [shape.commit_of_locked page can]
    exact .inl ⟨rfl, rfl⟩
  | true =>
    have commits := writer.commits page can s text
    refine .inr ⟨rfl, fun accepts => ?_, commits.sent, _, commits.page⟩
    have ok := (Backend.isOk_outcomeOf s _).mpr accepts
    rw [← commits.outcome] at ok
    rw [ofCall, ok] at refused
    cases refused

end Attempt

namespace ClassesPage

/-- The operations that the page may refuse. -/
inductive Operation
  | addPanel
  | removePanel (panel : Handle)
  | chooseParameter (panel : Handle) (name : String)
  | typeValue (panel : Handle) (raw : String)
  | addRow (panel : Handle)
  | removeRow (panel row : Handle)
  | startCommit
  | commit

def attempt (page : ClassesPage) (s : Session) : Operation → Attempt ClassesPage
  | .addPanel => .ofCall (page.addPanel s)
  | .removePanel panel =>
    ⟨(page.removePanel panel).1.isNone, (page.removePanel panel).2, s⟩
  | .chooseParameter panel name => .ofEdit s (page.chooseParameter panel name)
  | .typeValue panel raw => .ofEdit s (page.typeValue panel raw)
  | .addRow panel => .ofEdit s (page.addRow panel)
  | .removeRow panel row => .ofEdit s (page.removeRow panel row)
  | .startCommit => .ofEdit s page.startCommit
  | .commit => .ofCall (page.commit s)

/-- The parameters of the picked class could not be fetched by the one request that was sent, and
only the banner of the page changed. -/
structure Unfetched (page : ClassesPage) (s : Session) (a : Attempt ClassesPage) : Prop where
  picked : ∃ pick e, page.picker.selection = some pick ∧
    ((Backend.parametersOf pick.recordId).run.run s).1 = .error e
  sent : ∃ q, q.method = .get ∧ a.session.sent = s.sent ++ [q]
  page : a.page = { page with status := { page.status with
    banner := some ⟨.danger, Failure.generalMessage⟩ } }

variable {page : ClassesPage} {s : Session}

theorem addPanel_refused (refused : (page.attempt s .addPanel).refused = true) :
    (page.attempt s .addPanel).Idle page s ∨ page.Unfetched s (page.attempt s .addPanel) := by
  rw [attempt, addPanel] at refused ⊢
  cases picked : page.picker.selection with
  | none => exact .inl ⟨rfl, rfl⟩
  | some pick =>
    rw [picked] at refused
    have sent := Backend.sent_fetch (fun p => p.parameters) "parameters.list"
      [("puppet_class", pick.recordId)] (.list Document.ParameterInfo.decoder) s
    change ((Backend.parametersOf pick.recordId).run.run s).2.sent = _ at sent
    dsimp only at refused ⊢
    rcases answered : (Backend.parametersOf pick.recordId).run.run s with ⟨answer, t⟩
    rw [answered] at refused sent
    cases answer with
    | ok infos => cases refused
    | error e =>
      exact .inr ⟨⟨pick, e, picked, congrArg Prod.fst answered⟩, ⟨_, rfl, sent⟩, rfl⟩

theorem removePanel_refused {panel : Handle}
    (refused : (page.attempt s (.removePanel panel)).refused = true) :
    (page.attempt s (.removePanel panel)).Idle page s := by
  rw [attempt, removePanel] at refused ⊢
  cases found : page.panels.get? panel with
  | none => exact ⟨rfl, rfl⟩
  | some b =>
    rw [found] at refused
    cases refused

/-- An operation that a panel refuses leaves the page as it was. -/
theorem onPanel_of_error {α : Type} {panel : Handle}
    {f : ClassPanel → Except Failure (α × ClassPanel)} (e : Failure)
    (error : (page.onPanel panel f).1 = .error e) : (page.onPanel panel f).2 = page := by
  rcases page.onPanel_cases panel f with ⟨failure, refused⟩ | ⟨b, a, changed, -, -, next⟩
  · rw [refused]
  · rw [next] at error
    cases error

theorem editedIfOk_of_error {α : Type} {r : Except Failure α × ClassesPage}
    (kept : ∀ e, r.1 = .error e → r.2 = page) (e : Failure) (error : (editedIfOk r).1 = .error e) :
    (editedIfOk r).2 = page := by
  obtain ⟨outcome, next⟩ := r
  cases outcome with
  | ok a => cases error
  | error failure => exact kept failure rfl

theorem attempt_refused {op : Operation} (refused : (page.attempt s op).refused = true) :
    (page.attempt s op).Idle page s ∨
      op = .addPanel ∧ page.Unfetched s (page.attempt s op) ∨
        op = .commit ∧ page.status.canCommit = true ∧
          (page.attempt s op).Declined (fun status => { page with status }) s (page.put s) := by
  cases op with
  | addPanel => exact (addPanel_refused refused).imp_right fun unfetched => .inl ⟨rfl, unfetched⟩
  | removePanel panel => exact .inl (removePanel_refused refused)
  | chooseParameter panel name =>
    exact .inl (Attempt.idle_of_error onPanel_of_error refused)
  | typeValue panel raw => exact .inl (Attempt.idle_of_error onPanel_of_error refused)
  | addRow panel =>
    exact .inl (Attempt.idle_of_error (editedIfOk_of_error onPanel_of_error) refused)
  | removeRow panel row =>
    exact .inl (Attempt.idle_of_error (editedIfOk_of_error onPanel_of_error) refused)
  | startCommit =>
    exact .inl (Attempt.idle_of_error (fun _ => shape.kept_of_startCommit page) refused)
  | commit =>
    have sent := Attempt.of_commit writer (fun _ _ _ => rfl) refused
    exact sent.imp_right fun declined => .inr ⟨rfl, declined⟩

end ClassesPage

namespace RulesPage

inductive Operation
  | addCondition
  | removeCondition (row : Handle)
  | pin
  | unpin (row : Handle)
  | startCommit
  | commit

def attempt (page : RulesPage) (s : Session) : Operation → Attempt RulesPage
  | .addCondition => .ofEdit s page.addCondition
  | .removeCondition row => .ofEdit s (page.removeCondition row)
  | .pin => .ofEdit s page.pin
  | .unpin row => .ofEdit s (page.unpin row)
  | .startCommit => .ofEdit s page.startCommit
  | .commit => .ofCall (page.commit s)

variable {page : RulesPage} {s : Session}

theorem addCondition_of_error (e : Failure) (error : page.addCondition.1 = .error e) :
    page.addCondition.2 = page := by
  unfold addCondition at error ⊢
  cases entered : page.enteredCondition? with
  | none => rfl
  | some condition =>
    rw [entered] at error
    cases error

theorem removeCondition_of_error {row : Handle} (e : Failure)
    (error : (page.removeCondition row).1 = .error e) : (page.removeCondition row).2 = page := by
  unfold removeCondition at error ⊢
  cases found : page.conditions.get? row with
  | none => rfl
  | some condition =>
    rw [found] at error
    cases error

theorem pin_of_error (e : Failure) (error : page.pin.1 = .error e) : page.pin.2 = page := by
  unfold pin at error ⊢
  cases picked : page.nodeInput.selection with
  | none => rfl
  | some pick =>
    rw [picked] at error
    cases error

theorem unpin_of_error {row : Handle} (e : Failure) (error : (page.unpin row).1 = .error e) :
    (page.unpin row).2 = page := by
  unfold unpin at error ⊢
  cases found : page.pinned.get? row with
  | none => rfl
  | some r =>
    rw [found] at error
    cases error

theorem attempt_refused {op : Operation} (refused : (page.attempt s op).refused = true) :
    (page.attempt s op).Idle page s ∨
      op = .commit ∧ page.status.canCommit = true ∧
        (page.attempt s op).Declined (fun status => { page with status }) s (page.put s) := by
  cases op with
  | addCondition => exact .inl (Attempt.idle_of_error addCondition_of_error refused)
  | removeCondition row => exact .inl (Attempt.idle_of_error removeCondition_of_error refused)
  | pin => exact .inl (Attempt.idle_of_error pin_of_error refused)
  | unpin row => exact .inl (Attempt.idle_of_error unpin_of_error refused)
  | startCommit =>
    exact .inl (Attempt.idle_of_error (fun _ => shape.kept_of_startCommit page) refused)
  | commit =>
    have sent := Attempt.of_commit writer (fun _ _ => bannerText_of_refused) refused
    exact sent.imp_right fun declined => ⟨rfl, declined⟩

end RulesPage

namespace VariablesPage

inductive Operation
  | addEntry
  | removeRow (handle : Handle)
  | startCommit
  | commit

def attempt (page : VariablesPage) (s : Session) : Operation → Attempt VariablesPage
  | .addEntry => .ofEdit s page.addEntry
  | .removeRow handle => .ofEdit s (page.removeRow handle)
  | .startCommit => .ofEdit s page.startCommit
  | .commit => .ofCall (page.commit s)

variable {page : VariablesPage} {s : Session}

theorem addEntry_of_error (e : Failure) (error : page.addEntry.1 = .error e) :
    page.addEntry.2 = page := by
  unfold addEntry at error ⊢
  cases entered : page.hasEntry with
  | false => rfl
  | true =>
    rw [entered] at error
    cases error

theorem removeRow_of_error {handle : Handle} (e : Failure)
    (error : (page.removeRow handle).1 = .error e) : (page.removeRow handle).2 = page := by
  unfold removeRow at error ⊢
  cases found : page.rows.get? handle with
  | none => rfl
  | some r =>
    rw [found] at error
    cases error

theorem attempt_refused {op : Operation} (refused : (page.attempt s op).refused = true) :
    (page.attempt s op).Idle page s ∨
      op = .commit ∧ page.status.canCommit = true ∧
        (page.attempt s op).Declined (fun status => { page with status }) s (page.put s) := by
  cases op with
  | addEntry => exact .inl (Attempt.idle_of_error addEntry_of_error refused)
  | removeRow handle => exact .inl (Attempt.idle_of_error removeRow_of_error refused)
  | startCommit =>
    exact .inl (Attempt.idle_of_error (fun _ => shape.kept_of_startCommit page) refused)
  | commit =>
    have sent := Attempt.of_commit writer (fun _ _ => bannerText_of_refused) refused
    exact sent.imp_right fun declined => ⟨rfl, declined⟩

end VariablesPage

/-- Whatever state a page is in, an operation that it refuses changes nothing of it and sends
nothing, but for two cases: a class is not added since its parameters could not be fetched, which
changes the banner, or a commit that could begin was not accepted by the backend, which changes the
state of the page. -/
theorem refused_changes_nothing :
    (∀ (page : ClassesPage) (s : Session) (op : ClassesPage.Operation),
      let a := page.attempt s op
      a.refused = true → a.Idle page s ∨ op = .addPanel ∧ page.Unfetched s a ∨
        op = .commit ∧ page.status.canCommit = true ∧
          a.Declined (fun status => { page with status }) s (page.put s)) ∧
    (∀ (page : RulesPage) (s : Session) (op : RulesPage.Operation),
      let a := page.attempt s op
      a.refused = true → a.Idle page s ∨ op = .commit ∧ page.status.canCommit = true ∧
        a.Declined (fun status => { page with status }) s (page.put s)) ∧
    ∀ (page : VariablesPage) (s : Session) (op : VariablesPage.Operation),
      let a := page.attempt s op
      a.refused = true → a.Idle page s ∨ op = .commit ∧ page.status.canCommit = true ∧
        a.Declined (fun status => { page with status }) s (page.put s) :=
  ⟨fun _ _ _ => ClassesPage.attempt_refused, fun _ _ _ => RulesPage.attempt_refused,
    fun _ _ _ => VariablesPage.attempt_refused⟩

/-- A variable without a value, a node that is not pinned, a class whose parameters cannot be
fetched and a commit that is not accepted. -/
theorem refused_changes_nothing_tried :
    let s := Session.start {} fun _ _ => .ok ⟨500, ""⟩
    let values := (VariablesPage.new "g").typeKey "a"
    let rules := (RulesPage.new "g" none {}).chooseQuantifier .any
    let new := ClassesPage.new "g" none {}
    let classes := { new with picker := new.picker.select ⟨"7", "web", "web", []⟩ }
    (values.attempt s .addEntry).Idle values s ∧ (rules.attempt s (.unpin 3)).Idle rules s ∧
      classes.Unfetched s (classes.attempt s .addPanel) ∧
      (rules.attempt s .commit).Declined (fun status => { rules with status }) s
        (rules.put s) := by
  intro s values rules new classes
  obtain ⟨ofClasses, ofRules, ofValues⟩ := refused_changes_nothing
  have unvalued := ofValues values s .addEntry (by decide +kernel)
  have unpinned := ofRules rules s (.unpin 3) (by decide +kernel)
  have unadded := ofClasses classes s .addPanel (by decide +kernel)
  have unaccepted := ofRules rules s .commit (by decide +kernel)
  have asked : (classes.attempt s .addPanel).session.sent.length = 1 := by decide +kernel
  have wrote : (rules.attempt s .commit).session.sent.length = 1 := by decide +kernel
  refine ⟨unvalued.resolve_right fun commit => (nomatch commit.1),
    unpinned.resolve_right fun commit => (nomatch commit.1), ?_, ?_⟩
  · rcases unadded with idle | ⟨-, unfetched⟩ | ⟨commit, -⟩
    · rw [idle.2] at asked
      cases asked
    · exact unfetched
    · cases commit
  · rcases unaccepted with idle | ⟨-, -, declined⟩
    · rw [idle.2] at wrote
      cases wrote
    · exact declined

end NodeGroups.Page
