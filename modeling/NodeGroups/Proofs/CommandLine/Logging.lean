import NodeGroups.Page.Group
import NodeGroups.Proofs.Backend.Traffic
import NodeGroups.Proofs.CommandLine.Writes

set_option autoImplicit false

namespace NodeGroups.Page

open Backend (Exchanges Session)

theorem ClassesPage.exchanges_addPanel (page : ClassesPage) (s : Session) :
    Exchanges s (page.addPanel s).2.2 := by
  unfold addPanel
  split
  · exact .refl s
  · rename_i selection _
    have reads := Exchanges.journey.parametersOf selection.recordId s
    rcases answered : (Backend.parametersOf selection.recordId).run.run s with ⟨answer, t⟩
    rw [answered] at reads
    cases answer <;> exact reads

theorem GroupDraft.exchanges_chooseZone (draft : GroupDraft) (zone : String) (s : Session) :
    Exchanges s (draft.chooseZone zone s).2 := by
  unfold chooseZone
  split
  · exact .refl s
  · exact Exchanges.journey.environmentsOf zone s

theorem ZonePage.exchanges_synchronize (page : ZonePage) (zone : MasterZone) (s : Session) :
    Exchanges s (page.synchronize zone s).2.2 := Exchanges.synchronize zone.id s

end NodeGroups.Page

namespace NodeGroups.CommandLine

open Backend (Answering Exchanges Opening Runs Session)
open Page (ClassesPage GroupDraft MasterZone RulesPage VariablesPage ZonePage)

theorem exchanges_amend {P : Type} {opening : Run P} {change : P → Except Trace P}
    {commit : P → Run Json} (opens : Runs Exchanges opening)
    (commits : ∀ page, Runs Exchanges (commit page)) :
    Runs Exchanges (amend opening change commit) :=
  Exchanges.journey.bind opens fun _ =>
    Exchanges.journey.bind (runs_given Exchanges.journey _) commits

theorem exchanges_perform (command : Command) : Runs Exchanges (perform command) := by
  have onRules (masterZone : Option String) (group : String) {change} :
      Runs Exchanges (amend (openRules group masterZone) change (commitPage RulesPage.shape)) :=
    exchanges_amend (runs_openRules Exchanges.journey group masterZone) fun page =>
      RulesPage.shape.across_commit page Exchanges.journey
        (Exchanges.replaceRules page.group page.document)
  have onVariables (group : String) {change} :
      Runs Exchanges (amend (openVariables group) change (commitPage VariablesPage.shape)) :=
    exchanges_amend (runs_openVariables Exchanges.journey group) fun page =>
      VariablesPage.shape.across_commit page Exchanges.journey
        (Exchanges.replaceVariables page.group page.document)
  cases command with
  | pin group certname masterZone =>
    rw [perform, pin_eq]
    exact onRules masterZone group
  | unpin group certname =>
    rw [perform, unpin_eq]
    exact onRules none group
  | setVariable group key value =>
    rw [perform, setVariable_eq]
    exact onVariables group
  | unsetVariable group key =>
    rw [perform, unsetVariable_eq]
    exact onVariables group
  | sync masterId label => exact Exchanges.synchronize masterId
  | search | showClasses | showRules | showVariables | classify =>
    exact runs_perform_of_reads Exchanges.journey rfl

/-- What can be done with a session. Pages are in any state. -/
inductive Use
  | classes (environment : Option String)
  | nodes (masterZone : Option String)
  | facts (masterZone : Option String)
  | parametersOf (classId : String)
  | environmentsOf (masterZone : String)
  | configurationOf (group : String)
  | replaceConfiguration (group : String) (document : Document.Configuration)
  | rulesOf (group : String)
  | replaceRules (group : String) (document : Document.Rules)
  | variablesOf (group : String)
  | replaceVariables (group : String) (document : Document.Variables)
  | synchronize (masterId : String)
  | classificationOf (certname masterId : String)
  | loadClasses (page : ClassesPage)
  | addPanel (page : ClassesPage)
  | commitClasses (page : ClassesPage)
  | loadRules (page : RulesPage)
  | commitRules (page : RulesPage)
  | loadVariables (page : VariablesPage)
  | commitVariables (page : VariablesPage)
  | chooseZone (draft : GroupDraft) (masterZone : String)
  | synchronizeZone (page : ZonePage) (zone : MasterZone)
  | perform (command : Command)

namespace Use

def after (s : Session) : Use → Session
  | .classes environment => ((Backend.classes environment).run.run s).2
  | .nodes masterZone => ((Backend.nodes masterZone).run.run s).2
  | .facts masterZone => ((Backend.facts masterZone).run.run s).2
  | .parametersOf classId => ((Backend.parametersOf classId).run.run s).2
  | .environmentsOf masterZone => ((Backend.environmentsOf masterZone).run.run s).2
  | .configurationOf group => ((Backend.configurationOf group).run.run s).2
  | .replaceConfiguration group document =>
    ((Backend.replaceConfiguration group document).run.run s).2
  | .rulesOf group => ((Backend.rulesOf group).run.run s).2
  | .replaceRules group document => ((Backend.replaceRules group document).run.run s).2
  | .variablesOf group => ((Backend.variablesOf group).run.run s).2
  | .replaceVariables group document => ((Backend.replaceVariables group document).run.run s).2
  | .synchronize masterId => ((Backend.synchronize masterId).run.run s).2
  | .classificationOf certname masterId =>
    ((Backend.classificationOf certname masterId).run.run s).2
  | .loadClasses page => (page.load s).2
  | .addPanel page => (page.addPanel s).2.2
  | .commitClasses page => (page.commit s).2.2
  | .loadRules page => (page.load s).2
  | .commitRules page => (page.commit s).2.2
  | .loadVariables page => (page.load s).2
  | .commitVariables page => (page.commit s).2.2
  | .chooseZone draft masterZone => (draft.chooseZone masterZone s).2
  | .synchronizeZone page zone => (page.synchronize zone s).2.2
  | .perform command => ((CommandLine.perform command).run.run s).2

/-- The uses that are refused before anything is sent: commits that are locked, an addition without
a pick, and a choice of no zone. -/
inductive Refused : Use → Prop
  | commitClasses {page : ClassesPage} (locked : page.status.canCommit = false) :
      Refused (.commitClasses page)
  | commitRules {page : RulesPage} (locked : page.status.canCommit = false) :
      Refused (.commitRules page)
  | commitVariables {page : VariablesPage} (locked : page.status.canCommit = false) :
      Refused (.commitVariables page)
  | addPanel {page : ClassesPage} (unpicked : page.hasPick = false) : Refused (.addPanel page)
  | chooseZone (draft : GroupDraft) : Refused (.chooseZone draft "")

theorem exchanges (use : Use) (s : Session) : Exchanges s (use.after s) := by
  have journey := Exchanges.journey
  cases use with
  | classes environment => exact journey.classes environment s
  | nodes masterZone => exact journey.nodes masterZone s
  | facts masterZone => exact journey.facts masterZone s
  | parametersOf classId => exact journey.parametersOf classId s
  | environmentsOf masterZone => exact journey.environmentsOf masterZone s
  | configurationOf group => exact journey.configurationOf group s
  | replaceConfiguration group document => exact Exchanges.replaceConfiguration group document s
  | rulesOf group => exact journey.rulesOf group s
  | replaceRules group document => exact Exchanges.replaceRules group document s
  | variablesOf group => exact journey.variablesOf group s
  | replaceVariables group document => exact Exchanges.replaceVariables group document s
  | synchronize masterId => exact Exchanges.synchronize masterId s
  | classificationOf certname masterId => exact journey.classificationOf certname masterId s
  | loadClasses page => exact page.across_load journey s
  | addPanel page => exact page.exchanges_addPanel s
  | commitClasses page =>
    exact ClassesPage.shape.across_commit page journey
      (Exchanges.replaceConfiguration page.group page.document) s
  | loadRules page => exact page.across_load journey s
  | commitRules page =>
    exact RulesPage.shape.across_commit page journey
      (Exchanges.replaceRules page.group page.document) s
  | loadVariables page => exact page.across_load journey s
  | commitVariables page =>
    exact VariablesPage.shape.across_commit page journey
      (Exchanges.replaceVariables page.group page.document) s
  | chooseZone draft masterZone => exact draft.exchanges_chooseZone masterZone s
  | synchronizeZone page zone => exact page.exchanges_synchronize zone s
  | perform command => exact exchanges_perform command s

theorem Refused.after_eq {use : Use} (refused : use.Refused) (s : Session) : use.after s = s := by
  cases refused with
  | commitClasses locked =>
    rw [after, ClassesPage.commit, ClassesPage.shape.commit_of_locked _ locked]
  | commitRules locked =>
    rw [after, RulesPage.commit, RulesPage.shape.commit_of_locked _ locked]
  | commitVariables locked =>
    rw [after, VariablesPage.commit, VariablesPage.shape.commit_of_locked _ locked]
  | addPanel unpicked =>
    rw [ClassesPage.hasPick, Option.isSome_eq_false_iff, Option.isNone_iff_eq_none] at unpicked
    rw [after, ClassesPage.addPanel, unpicked]
  | chooseZone draft => rfl

theorem exchanges_foldl (uses : List Use) (s : Session) : Exchanges s (uses.foldl after s) := by
  induction uses generalizing s with
  | nil => exact .refl s
  | cons use uses ih => exact Exchanges.journey.trans (use.exchanges s) (ih _)

end Use

/-- After whatever was done with a new session, however the backend answered and whenever the log
file opened, the log tells of the latest requests and how each of them was answered, and its file of
those at which it opened. A use that sends nothing logs nothing, and one that is refused sends
nothing. -/
theorem log_mirrors (settings : Settings) (answering : Answering) (opening : Opening)
    (uses : List Use) :
    let s := uses.foldl Use.after (Session.start settings answering opening)
    s.Mirrors settings answering opening ∧
      ∀ use : Use, ((use.after s).sent = s.sent → (use.after s).log = s.log) ∧
        (use.Refused → (use.after s).sent = s.sent) := by
  intro s
  refine ⟨(Use.exchanges_foldl uses _).mirrors, fun use => ⟨fun silent => ?_, fun refused => ?_⟩⟩
  · rw [(use.exchanges s).eq_of_sent silent]
  · rw [refused.after_eq]

/-- A request that is accepted, one that is refused and one that is not answered; the file opens at
the last one only. -/
example :
    let answering : Answering := fun sent _ => match sent.length with
      | 0 => .ok ⟨200, "[]"⟩
      | 1 => .ok ⟨502, ""⟩
      | _ => .error .http
    let s := [.nodes none, .commitClasses (.new "g" none {}), .facts none, .classes none].foldl
      Use.after (Session.start { logPath := some "/var/log/calls" } answering
        fun sent _ => sent.length == 2)
    s.log.recent.map (fun e => (e.operation, e.status, e.httpStatus, e.errorCode)) =
      [("nodes.list", "ok", some 200, none), ("facts.list", "error", some 502, some "REJECTED"),
        ("classes.list", "error", none, some "HTTP_ERROR")] ∧
      s.log.lines = ["\x7b\"request_id\":\"\",\"operation\":\"classes.list\",\"method\":\"GET\"," ++
        "\"path\":\"api/classes/\",\"status\":\"error\",\"latency_ms\":0,\"created_at\":\"\"," ++
        "\"error_code\":\"HTTP_ERROR\",\"error_message\":\"HTTP request failed\"\x7d"] := by
  decide +kernel

end NodeGroups.CommandLine
