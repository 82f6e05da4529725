import NodeGroups.Proofs.CommandLine.Amending
import NodeGroups.Proofs.Json.Syntax

set_option autoImplicit false

namespace NodeGroups.CommandLine

open Backend (Accepts Continues Found Journey ReadsOnly Request Runs Session Wrote)
open Document (Rules Variables)
open Json.Grammar (IsJson)
open Page (RulesPage Shape VariablesPage Writer)

/-- What a command may do to the backend. -/
inductive Effect
  | reads
  /-- It changes the document of a group. -/
  | amends
  | synchronizes
  deriving DecidableEq

namespace Command

def effect : Command → Effect
  | .search .. | .showClasses .. | .showRules .. | .showVariables .. | .classify .. => .reads
  | .pin .. | .unpin .. | .setVariable .. | .unsetVariable .. => .amends
  | .sync .. => .synchronizes

/-- Whether a text is a document that the command can change. -/
def Decodes (command : Command) (text : String) : Prop :=
  match command with
  | .pin .. | .unpin .. => (Rules.decoder.ofText? text).isSome
  | .setVariable .. | .unsetVariable .. => (Variables.decoder.ofText? text).isSome
  | _ => False

end Command

section Reads

variable {R : Session → Session → Prop} (journey : Journey R)

include journey

theorem runs_search (d : Dataset) (query : String) (environment masterZone : Option String) :
    Runs R (search d query environment masterZone) := by
  have fetches : Runs R (d.fetch environment masterZone) := by
    cases d with
    | classes => exact journey.classes environment
    | nodes => exact journey.nodes masterZone
    | facts => exact journey.facts masterZone
  exact journey.bind (runs_call fetches _) fun records =>
    journey.bind journey.refl fun _ =>
      journey.bind (runs_given journey _) fun _ => journey.pure _

theorem runs_perform_of_reads {command : Command} (reads : command.effect = .reads) :
    Runs R (perform command) := by
  cases command with
  | search d query environment masterZone =>
    exact runs_search journey d query environment masterZone
  | showClasses group environment =>
    exact journey.bind (runs_openClasses journey group environment) fun _ => journey.pure _
  | showRules group =>
    exact journey.bind (runs_openRules journey group none) fun _ => journey.pure _
  | showVariables group =>
    exact journey.bind (runs_openVariables journey group) fun _ => journey.pure _
  | classify certname masterId =>
    exact journey.bind (runs_call (journey.classificationOf certname masterId) _) fun _ =>
      journey.pure _
  | pin | unpin | setVariable | unsetVariable | sync => nomatch reads

end Reads

/-- A command ran: it only read and failed, or it found a document and then wrote in its place. -/
inductive Amended (command : Command) (s : Session) : Except Trace Json × Session → Prop
  | refused {e : Trace} {t : Session} (reads : Continues s t) : Amended command s (.error e, t)
  | written {outcome : Except Trace Json} {t u : Session} {q : Request} (reads : Continues s t)
      (found : Found s t q.url command.Decodes) (method : q.method = .put)
      (wrote : Wrote t u q outcome.isOk) : Amended command s (outcome, u)

section Amended

variable {command : Command} {group : String} {s t : Session}

/-- A command amends if what it opens and changes is committed behind a URL where a document was
found. -/
theorem amended_commit {P D : Type} {shape : Shape P D} (writer : Writer shape) {opening : Run P}
    {change : P → Except Trace P} (reads : ReadsOnly opening)
    (opens : ∀ page next t, opening.run.run s = (.ok page, t) → change page = .ok next →
      t.settings = s.settings ∧
        Found s t (s.settings.url (writer.pathOf next s.settings.paths)) command.Decodes) :
    Amended command s ((amend opening change (commitPage shape)).run.run s) := by
  have continues := reads s
  rcases opened : opening.run.run s with ⟨answer, t⟩
  rw [opened] at continues
  cases answer with
  | error e =>
    rw [amend, Backend.run_bind_of_error opened]
    exact .refused continues
  | ok page =>
    cases changed : change page with
    | error e =>
      rw [amend_of_refused opened changed]
      exact .refused continues
    | ok next =>
      obtain ⟨settings, found⟩ := opens page next t opened changed
      rw [amend_of_changed opened changed]
      rcases commitPage_cases writer next t with ⟨e, locked⟩ | wrote
      · rw [locked]
        exact .refused continues
      · refine .written continues ?_ rfl wrote
        rw [Writer.put, Session.request, settings]
        exact found

theorem openRules_found {masterZone : Option String} {page : RulesPage}
    (opened : (openRules group masterZone).run.run s = (.ok page, t)) :
    page.group = group ∧ t.settings = s.settings ∧
      Found s t (s.settings.url (Backend.memberPath s.settings.paths.rules group)) fun text =>
        (Rules.decoder.ofText? text).isSome := by
  have reads := runs_openRules Continues.journey group masterZone s
  rcases answered : (Backend.rulesOf group).run.run s with ⟨answer, u⟩
  cases answer with
  | error e =>
    obtain ⟨trace, v, failed⟩ := openRules_of_error answered masterZone
    rw [failed] at opened
    cases opened
  | ok d =>
    obtain ⟨ran, -⟩ := openRules_of_ok answered masterZone
    rw [ran] at opened reads
    cases opened
    have onward := RulesPage.continues_load_of_ok
      (RulesPage.new group masterZone s.settings) answered
    refine ⟨RulesPage.group_load _ s, reads.settings, ?_⟩
    exact ((Backend.found_of_fetch answered).onward onward).weaken fun text decoded => by
      rw [decoded]; rfl

theorem openVariables_found {page : VariablesPage}
    (opened : (openVariables group).run.run s = (.ok page, t)) :
    page.group = group ∧ t.settings = s.settings ∧
      Found s t (s.settings.url (Backend.memberPath s.settings.paths.groupVariables group))
        fun text => (Variables.decoder.ofText? text).isSome := by
  have reads := runs_openVariables Continues.journey group s
  rcases answered : (Backend.variablesOf group).run.run s with ⟨answer, u⟩
  cases answer with
  | error e =>
    obtain ⟨trace, v, failed⟩ := openVariables_of_error answered
    rw [failed] at opened
    cases opened
  | ok d =>
    obtain ⟨ran, -⟩ := openVariables_of_ok answered
    rw [ran] at opened reads
    cases opened
    refine ⟨VariablesPage.group_load _ s, reads.settings, ?_⟩
    exact (Backend.found_of_fetch answered).weaken fun text decoded => by rw [decoded]; rfl

theorem amended_rules {masterZone : Option String} {change : RulesPage → Except Trace RulesPage}
    (decodes : ∀ text, (Rules.decoder.ofText? text).isSome → command.Decodes text)
    (keeps : ∀ page next, change page = .ok next → next.group = page.group) (s : Session) :
    Amended command s
      ((amend (openRules group masterZone) change (commitPage RulesPage.shape)).run.run s) := by
  refine amended_commit RulesPage.writer (runs_openRules Continues.journey group masterZone)
    fun page next t opened changed => ?_
  obtain ⟨same, settings, found⟩ := openRules_found opened
  have path : RulesPage.writer.pathOf next s.settings.paths =
      Backend.memberPath s.settings.paths.rules group := by
    rw [← same, ← keeps page next changed]
    rfl
  rw [path]
  exact ⟨settings, found.weaken decodes⟩

theorem amended_variables {change : VariablesPage → Except Trace VariablesPage}
    (decodes : ∀ text, (Variables.decoder.ofText? text).isSome → command.Decodes text)
    (keeps : ∀ page next, change page = .ok next → next.group = page.group) (s : Session) :
    Amended command s
      ((amend (openVariables group) change (commitPage VariablesPage.shape)).run.run s) := by
  refine amended_commit VariablesPage.writer (runs_openVariables Continues.journey group)
    fun page next t opened changed => ?_
  obtain ⟨same, settings, found⟩ := openVariables_found opened
  have path : VariablesPage.writer.pathOf next s.settings.paths =
      Backend.memberPath s.settings.paths.groupVariables group := by
    rw [← same, ← keeps page next changed]
    rfl
  rw [path]
  exact ⟨settings, found.weaken decodes⟩

end Amended

theorem unrefused_ok {α P : Type} {outcome : Except Failure α × P} {page : P}
    (ok : unrefused outcome = .ok page) : ∃ a, outcome = (.ok a, page) := by
  obtain ⟨answer, after⟩ := outcome
  cases answer with
  | error e => cases ok
  | ok a =>
    cases ok
    exact ⟨a, rfl⟩

theorem group_pickNode {certname : String} {page next : RulesPage}
    (picked : pickNode page certname = .ok next) : next.group = page.group := by
  unfold pickNode at picked
  dsimp only at picked
  split at picked
  · cases picked
  · cases picked
    rfl

theorem group_withNode {certname : String} {page next : RulesPage}
    (changed : withNode certname page = .ok next) : next.group = page.group := by
  unfold withNode at changed
  cases picked : pickNode page certname with
  | error e =>
    rw [picked] at changed
    cases changed
  | ok typed =>
    rw [picked] at changed
    obtain ⟨row, pinned⟩ := unrefused_ok changed
    rw [← group_pickNode picked]
    unfold RulesPage.pin at pinned
    split at pinned
    · cases pinned
    · cases pinned
      rfl

theorem group_withoutNode {group certname : String} {page next : RulesPage}
    (changed : withoutNode group certname page = .ok next) : next.group = page.group := by
  unfold withoutNode at changed
  split at changed
  · cases changed
  · obtain ⟨row, unpinned⟩ := unrefused_ok changed
    unfold RulesPage.unpin at unpinned
    split at unpinned
    · cases unpinned
    · cases unpinned
      rfl

theorem group_removeRows {rows : List Page.Handle} {page next : VariablesPage}
    (removed : removeRows page rows = .ok next) : next.group = page.group := by
  induction rows generalizing page with
  | nil =>
    cases removed
    rfl
  | cons row rows ih =>
    cases first : unrefused (page.removeRow row) with
    | error e =>
      rw [removeRows, first] at removed
      cases removed
    | ok fewer =>
      rw [removeRows, first] at removed
      obtain ⟨_, erased⟩ := unrefused_ok first
      rw [ih removed]
      unfold VariablesPage.removeRow at erased
      split at erased
      · cases erased
      · cases erased
        rfl

theorem group_withVariable {key value : String} {page next : VariablesPage}
    (changed : withVariable key value page = .ok next) : next.group = page.group := by
  unfold withVariable at changed
  cases removed : removeRows page (page.rowsOf key) with
  | error e =>
    rw [removed] at changed
    cases changed
  | ok fewer =>
    rw [removed] at changed
    obtain ⟨row, added⟩ := unrefused_ok changed
    rw [← group_removeRows removed]
    unfold VariablesPage.addEntry at added
    split at added
    · cases added
      rfl
    · cases added

theorem group_withoutVariable {group key : String} {page next : VariablesPage}
    (changed : withoutVariable group key page = .ok next) : next.group = page.group := by
  unfold withoutVariable at changed
  split at changed
  · cases changed
  · exact group_removeRows changed

theorem amended_perform {command : Command} (amends : command.effect = .amends) (s : Session) :
    Amended command s ((perform command).run.run s) := by
  cases command with
  | pin group certname masterZone =>
    rw [perform, pin_eq]
    exact amended_rules (fun _ => id) (fun _ _ => group_withNode) s
  | unpin group certname =>
    rw [perform, unpin_eq]
    exact amended_rules (fun _ => id) (fun _ _ => group_withoutNode) s
  | setVariable group key value =>
    rw [perform, setVariable_eq]
    exact amended_variables (fun _ => id) (fun _ _ => group_withVariable) s
  | unsetVariable group key =>
    rw [perform, unsetVariable_eq]
    exact amended_variables (fun _ => id) (fun _ _ => group_withoutVariable) s
  | search | showClasses | showRules | showVariables | classify | sync => nomatch amends

theorem wrote_syncZone (zone : Page.MasterZone) (s : Session) :
    let ran := (syncZone zone).run.run s
    Wrote s ran.2 (s.request .post s.settings.paths.synchronization []
      (some (.object [("master_id", .string zone.id)]))) ran.1.isOk := by
  have wrote := Page.ZonePage.wrote_synchronize .new zone s
  have same : ((syncZone zone).run.run s).1.isOk =
      (Page.ZonePage.new.synchronize zone s).1.isOk := by
    change (syncReport (Page.ZonePage.new.synchronize zone s).1 _).isOk = _
    cases (Page.ZonePage.new.synchronize zone s).1 <;> rfl
  rw [← same] at wrote
  exact wrote

/-- A request that changes something is the only one of its kind if it is followed by nothing else
that does. -/
theorem eq_of_last_write {reads before after : List Request} {q p : Request}
    (gets : ∀ r ∈ reads, r.method = .get) (same : reads ++ [q] = before ++ p :: after)
    (changes : p.method ≠ .get) : before = reads ∧ p = q ∧ after = [] := by
  rcases List.eq_nil_or_concat after with rfl | ⟨front, last, rfl⟩
  · obtain ⟨front, last⟩ := List.append_inj' same rfl
    exact ⟨front.symm, (List.cons.inj last).1.symm, rfl⟩
  · rw [List.concat_eq_append, ← List.cons_append, ← List.append_assoc] at same
    have inside := (List.append_inj' same rfl).1
    exact absurd (gets p (by rw [inside]; simp)) changes

/-- The requests that an amending command sent: every one that changes something is the last one,
and replaces a document that was read. -/
theorem Amended.replaces {settings : Settings} {answering : Backend.Answering}
    {opening : Backend.Opening} {command : Command} {ran : Except Trace Json × Session}
    (amended : Amended command (Session.start settings answering opening) ran)
    {before after : List Request} {q : Request} (split : ran.2.sent = before ++ q :: after)
    (changes : q.method ≠ .get) :
    (q.method = .put ∧ after = [] ∧ (∀ p ∈ before, p.method = .get) ∧
      ∃ earlier get later r, before = earlier ++ get :: later ∧ get.method = .get ∧
        get.url = q.url ∧ answering earlier get = .ok r ∧ r.isSuccess = true ∧
          command.Decodes r.body) ∧
    (ran.1.isOk = true ↔ ∃ r, answering before q = .ok r ∧ r.isSuccess = true) := by
  cases amended with
  | refused continues =>
    obtain ⟨reads, sent, gets⟩ := continues.sent
    exact absurd (gets q (by rw [← show _ = reads from sent, split]; simp)) changes
  | @written outcome t u p continues found method wrote =>
    obtain ⟨reads, sent, gets⟩ := continues.sent
    have sent : t.sent = reads := sent
    have same := wrote.sent
    rw [sent, split] at same
    obtain ⟨rfl, rfl, rfl⟩ := eq_of_last_write gets same.symm changes
    obtain ⟨earlier, get, later, r, parts, read, url, answer, success, decodes⟩ := found
    refine ⟨⟨method, rfl, gets, earlier, get, later, r, ?_, read, url, ?_, success, decodes⟩, ?_⟩
    · rw [← sent]
      exact parts
    · rw [continues.answering] at answer
      exact answer
    · rw [wrote.decided, Accepts, continues.answering, sent]
      rfl

/-- Whatever a command is and whatever the backend answers: a command that shows something sends
nothing but reads, and one that synchronizes sends one request. One that changes a group writes at
most once and as its last request, and before that it read a document from the URL that it writes
to. A command that writes succeeds just if its write was accepted. A command that succeeds prints
one JSON value, and one that fails prints nothing. -/
theorem perform_sends (settings : Settings) (answering : Backend.Answering)
    (opening : Backend.Opening) (command : Command) :
    let ran := (perform command).run.run (Session.start settings answering opening)
    (match command.effect with
      | .reads => ∀ q ∈ ran.2.sent, q.method = .get
      | .synchronizes => ∃ q, ran.2.sent = [q] ∧ q.method = .post
      | .amends => ∀ before q after, ran.2.sent = before ++ q :: after → q.method ≠ .get →
          q.method = .put ∧ after = [] ∧ (∀ p ∈ before, p.method = .get) ∧
          ∃ earlier get later r, before = earlier ++ get :: later ∧ get.method = .get ∧
            get.url = q.url ∧ answering earlier get = .ok r ∧ r.isSuccess = true ∧
              command.Decodes r.body) ∧
    (∀ before q after, ran.2.sent = before ++ q :: after → q.method ≠ .get →
      (ran.1.isOk = true ↔ ∃ r, answering before q = .ok r ∧ r.isSuccess = true)) ∧
    (ran.1.isOk = true → IsJson (printed ran.1)) ∧ (ran.1.isOk = false → printed ran.1 = "") := by
  intro ran
  have prints : (ran.1.isOk = true → IsJson (printed ran.1)) ∧
      (ran.1.isOk = false → printed ran.1 = "") := by
    cases ran.1 with
    | ok report => exact ⟨fun _ => Json.isJson_pretty report, nofun⟩
    | error e => exact ⟨nofun, fun _ => rfl⟩
  cases effect : command.effect with
  | reads =>
    obtain ⟨reads, sent, gets⟩ := (runs_perform_of_reads Continues.journey effect
      (Session.start settings answering opening)).sent
    have all : ∀ q ∈ ran.2.sent, q.method = .get := by
      intro q member
      exact gets q (by rwa [show ran.2.sent = reads from sent] at member)
    refine ⟨all, fun before q after split changes => ?_, prints⟩
    exact absurd (all q (by rw [split]; simp)) changes
  | synchronizes =>
    obtain ⟨masterId, label, rfl⟩ : ∃ masterId label, command = .sync masterId label := by
      cases command with
      | sync masterId label => exact ⟨masterId, label, rfl⟩
      | _ => nomatch effect
    have wrote := wrote_syncZone ⟨masterId, label.getD masterId⟩
      (Session.start settings answering opening)
    refine ⟨⟨_, wrote.sent, rfl⟩, fun before q after split changes => ?_, prints⟩
    have gets : ∀ r ∈ (Session.start settings answering opening).sent, r.method = .get :=
      fun r member => absurd member List.not_mem_nil
    obtain ⟨rfl, rfl, rfl⟩ := eq_of_last_write gets (wrote.sent.symm.trans split) changes
    exact wrote.decided
  | amends =>
    have amended := amended_perform effect (Session.start settings answering opening)
    exact ⟨fun _ _ _ split changes => (amended.replaces split changes).1,
      fun _ _ _ split changes => (amended.replaces split changes).2, prints⟩

/-- A node is unpinned from a group: two reads follow the one of the rules before they are
written. -/
theorem perform_sends_unpin :
    let answering := Backend.inTurn ["\x7b\"nodes\":[\"n\"]\x7d", "[]", "[]", ""]
    let ran := (perform (.unpin "g" "n")).run.run (Session.start {} answering)
    ∃ before q, ran.2.sent = before ++ [q] ∧ before.length = 3 ∧ q.method = .put ∧
      (∀ p ∈ before, p.method = .get) ∧ (∃ get ∈ before, get.url = q.url) ∧ ran.1.isOk = true ∧
      (∃ r, answering before q = .ok r ∧ r.isSuccess = true) ∧ IsJson (printed ran.1) := by
  intro answering ran
  obtain ⟨count, write, ok⟩ : ran.2.sent.length = 4 ∧
      (∀ q ∈ ran.2.sent.drop 3, q.method ≠ .get) ∧ ran.1.isOk = true := by
    decide +kernel
  obtain ⟨q, last⟩ : ∃ q, ran.2.sent.drop 3 = [q] :=
    List.length_eq_one_iff.mp (by rw [List.length_drop, count])
  have split : ran.2.sent = ran.2.sent.take 3 ++ [q] := by rw [← last, List.take_append_drop]
  have changes : q.method ≠ .get := write q (by rw [last]; exact List.mem_singleton_self q)
  obtain ⟨amends, accepted, prints, -⟩ :=
    perform_sends {} answering (fun _ => Directory.empty.opens) (.unpin "g" "n")
  obtain ⟨put, -, gets, earlier, get, later, r, parts, -, url, -⟩ :=
    amends (ran.2.sent.take 3) q [] split changes
  have taken := (accepted (ran.2.sent.take 3) q [] split changes).mp ok
  refine ⟨ran.2.sent.take 3, q, split, ?_, put, gets, ⟨get, ?_, url⟩, ok, taken, prints ok⟩
  · rw [List.length_take, count]
    rfl
  · rw [parts]
    simp

end NodeGroups.CommandLine
