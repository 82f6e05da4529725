import NodeGroups.Proofs.CommandLine.Nodes

set_option autoImplicit false

namespace NodeGroups

namespace Backend

/-- The session, but with another mode for queries. -/
def Session.inMode (s : Session) (mode : PatternMode) : Session :=
  { s with settings := { s.settings with patternMode := mode } }

theorem Session.writes_inMode (s : Session) (mode : PatternMode) :
    writes (s.inMode mode) = writes s := rfl

/-- A computation goes the same way in every mode. -/
def Blind {ε α : Type} (c : ExceptT ε (StateM Session) α) : Prop :=
  ∀ (s : Session) (mode : PatternMode),
    c.run.run (s.inMode mode) = ((c.run.run s).1, (c.run.run s).2.inMode mode)

section Blind

variable {ε α β : Type}

theorem blind_pure (a : α) : Blind (pure a : ExceptT ε (StateM Session) α) := fun _ _ => rfl

theorem blind_throw (e : ε) : Blind (throw e : ExceptT ε (StateM Session) α) := fun _ _ => rfl

theorem Blind.bind {c : ExceptT ε (StateM Session) α} {f : α → ExceptT ε (StateM Session) β}
    (first : Blind c) (onward : ∀ a, Blind (f a)) : Blind (c >>= f) := by
  intro s mode
  have there := first s mode
  rcases here : c.run.run s with ⟨answer, t⟩
  rw [here] at there
  cases answer with
  | ok a => rw [run_bind_of_ok here, run_bind_of_ok there, onward a t mode]
  | error e => rw [run_bind_of_error here, run_bind_of_error there]

theorem blind_paths : Blind paths := fun _ _ => rfl

theorem blind_send (operation : String) (method : Method) (path : String)
    (query : List (String × String)) (body : Option Json) :
    Blind (send operation method path query body) := fun _ _ => rfl

theorem blind_fetch (operation path : String) (query : List (String × String))
    (decoder : Json.Decoder α) : Blind (fetch operation path query decoder) := by
  refine (blind_send operation .get path query none).bind fun body => ?_
  split
  · exact blind_pure _
  · exact blind_throw _

theorem blind_fetchDataset (operation path : String) (query : List (String × String))
    (labelField : String) : Blind (fetchDataset operation path query labelField) := by
  refine (blind_fetch operation path query _).bind fun entries => ?_
  split
  · exact blind_pure _
  · exact blind_throw _

theorem blind_rulesOf (group : String) : Blind (rulesOf group) :=
  blind_paths.bind fun p => blind_fetch "rules.get" (memberPath p.rules group) [] _

theorem blind_nodes (masterZone : Option String) : Blind (nodes masterZone) :=
  blind_paths.bind fun p => blind_fetchDataset "nodes.list" p.nodes _ "certname"

theorem blind_facts (masterZone : Option String) : Blind (facts masterZone) :=
  blind_paths.bind fun p => blind_fetchDataset "facts.list" p.facts _ "name"

theorem blind_replaceRules (group : String) (d : Document.Rules) :
    Blind (replaceRules group d) :=
  blind_paths.bind fun p =>
    (blind_send "rules.put" .put (memberPath p.rules group) [] (some d.toJson)).bind fun _ =>
      blind_pure ()

end Blind

end Backend

namespace Page.RulesPage

open Backend (Session)

def inMode (page : RulesPage) (mode : PatternMode) : RulesPage := { page with mode }

theorem load_inMode (page : RulesPage) (s : Session) (mode : PatternMode) :
    (page.inMode mode).load (s.inMode mode) =
      ((page.load s).1.inMode mode, (page.load s).2.inMode mode) := by
  have rules := Backend.blind_rulesOf page.group s mode
  rcases got : (Backend.rulesOf page.group).run.run s with ⟨answer, t⟩
  rw [got] at rules
  unfold load
  dsimp only [inMode]
  rw [rules, got]
  cases answer with
  | ok d =>
    have nodes := Backend.blind_nodes page.masterZone t mode
    rcases listed : (Backend.nodes page.masterZone).run.run t with ⟨found, u⟩
    rw [listed] at nodes
    have facts := Backend.blind_facts page.masterZone u mode
    dsimp only
    rw [nodes, listed]
    dsimp only [showDocument]
    rw [facts]
    rfl
  | error e =>
    have facts := Backend.blind_facts page.masterZone t mode
    dsimp only
    rw [facts]
    rfl

end Page.RulesPage

namespace CommandLine

open Backend (Blind Continues Session Wrote writes)
open Document (Rules)
open Page (RulesPage Shape)
open Search (Available FindsItself)

theorem run_openRules_inMode (group : String) (masterZone : Option String) (s : Session)
    (mode : PatternMode) :
    let opened := (openRules group masterZone).run.run s
    (openRules group masterZone).run.run (s.inMode mode) =
      (opened.1.map fun page => page.inMode mode, opened.2.inMode mode) := by
  intro opened
  have here : opened = _ := run_openRules group masterZone s
  have new : RulesPage.new group masterZone (s.inMode mode).settings =
      (RulesPage.new group masterZone s.settings).inMode mode := rfl
  rw [here, run_openRules, new, RulesPage.load_inMode]
  rcases (RulesPage.new group masterZone s.settings).load s with ⟨page, t⟩
  dsimp only
  change ((requireLoaded page.status).map _, _) = _
  cases requireLoaded page.status <;> rfl

theorem blind_commitPage {P D : Type} {shape : Shape P D} {page : P}
    (blind : Blind (shape.replace page (shape.document page))) :
    Blind (commitPage shape page) := by
  intro s mode
  rw [run_commitPage, run_commitPage]
  cases start : (shape.status page).startCommit with
  | ok begun =>
    rw [shape.commit_of_begun page start, shape.commit_of_begun page start, blind s mode]
  | error e =>
    unfold Shape.commit Shape.startCommit
    rw [start]

/-- What a page commits depends on the write of its document and on its state only. -/
theorem commitPage_congr {P D : Type} {shape : Shape P D} {p q : P}
    (replace : shape.replace p (shape.document p) = shape.replace q (shape.document q))
    (status : shape.status p = shape.status q) : commitPage shape p = commitPage shape q := by
  funext s
  change (commitPage shape p).run.run s = (commitPage shape q).run.run s
  rw [run_commitPage, run_commitPage]
  cases start : (shape.status q).startCommit with
  | ok begun =>
    rw [shape.commit_of_begun p (status ▸ start), shape.commit_of_begun q start, replace]
    unfold Shape.endCommit
    simp only [shape.status_withStatus]
  | error e =>
    unfold Shape.commit Shape.startCommit
    rw [status, start]
    exact congrArg (fun state => (commitReport (.error e) state, s)) status

/-- A node that cannot be picked is refused in every mode, and one that can be in those in which its
name does not find itself. -/
theorem withNode_inMode {page : RulesPage} (certname : String)
    (identified : ((page.index.records page.nodeInput.dataset).map (·.id)).Nodup) :
    (∀ mode, withNode certname (page.inMode mode) = .error (unknownNode certname)) ∨
      ∀ mode,
        (FindsItself mode certname →
          ∃ next, withNode certname (page.inMode mode) = .ok next ∧ next.group = page.group ∧
            next.status = page.status.markEdited ∧
              next.document = { page.document with nodes := page.document.nodes ++ [certname] }) ∧
        (¬ FindsItself mode certname →
          withNode certname (page.inMode mode) = .error (unknownNode certname)) := by
  by_cases available : ∃ id, Available (page.index.records page.nodeInput.dataset)
      page.nodeInput.field id certname
  · obtain ⟨id, available⟩ := available
    refine .inr fun mode => ⟨fun itself => ?_, fun missed => ?_⟩
    · have itself : FindsItself (page.inMode mode).mode certname := itself
      exact withNode_of_available itself identified available
    · exact withNode_of_unpicked (pickNode_of_unlisted
        ((page.inMode mode).nodeInput.ne_of_mem_asked _ _ _ _ missed))
  · exact .inl fun mode => withNode_of_unpicked (pickNode_of_unavailable available)

/-- How pinning a node comes out in each mode, when a session is at `s`. Either no mode pins it, or
those do in which its name finds itself. -/
inductive Pinning (certname : String) (s : Session)
    (ran : PatternMode → Except Trace Json × Session) : Prop
  | fails {e : Trace} {t : Session} (reads : Continues s t)
      (all : ∀ mode, ran mode = (.error e, t.inMode mode)) : Pinning certname s ran
  | commits {outcome : Except Trace Json} {t u : Session} {q : Backend.Request}
      (reads : Continues s t) (wrote : Wrote t u q outcome.isOk) (put : q.method = .put)
      (found : ∀ mode, FindsItself mode certname → ran mode = (outcome, u.inMode mode))
      (missed : ∀ mode, ¬ FindsItself mode certname →
        ran mode = (.error (unknownNode certname), t.inMode mode)) : Pinning certname s ran

namespace Pinning

variable {certname : String} {s : Session} {ran : PatternMode → Except Trace Json × Session}
  {mode : PatternMode}

/-- A name that finds itself is pinned as in literal mode. -/
theorem eq_literal (pins : Pinning certname s ran) (itself : FindsItself mode certname) :
    ran mode = ((ran .literal).1, (ran .literal).2.inMode mode) := by
  cases pins with
  | fails reads all =>
    rw [all mode, all .literal]
    rfl
  | commits reads wrote put found missed =>
    rw [found mode itself, found .literal (Search.findsItself_literal certname)]
    rfl

/-- Literal mode writes one request, unless no mode pins the node. -/
theorem writes_literal (pins : Pinning certname s ran) (unwritten : writes s = []) :
    (∃ e t, ∀ mode, ran mode = (.error e, Session.inMode t mode)) ∨
      ∃ q, writes (ran .literal).2 = [q] := by
  cases pins with
  | fails reads all => exact .inl ⟨_, _, all⟩
  | @commits outcome t u q reads wrote put found missed =>
    refine .inr ⟨q, ?_⟩
    rw [found .literal (Search.findsItself_literal certname), Session.writes_inMode,
      wrote.writes (by rw [put]; rfl), reads.writes, unwritten, List.nil_append]

/-- A name that does not find itself is refused, and what literal mode writes is left unsent. -/
theorem refuses (pins : Pinning certname s ran) (unwritten : writes s = [])
    (missed : ¬ FindsItself mode certname) :
    Refuses (ran mode) ∧
      (ran .literal).2.sent = (ran mode).2.sent ++ writes (ran .literal).2 := by
  cases pins with
  | fails reads all =>
    have none := reads.writes.trans unwritten
    rw [all mode, all .literal, Session.writes_inMode, none, List.append_nil]
    exact ⟨⟨rfl, none⟩, rfl⟩
  | commits reads wrote put found lost =>
    have none := reads.writes.trans unwritten
    rw [lost mode missed, found .literal (Search.findsItself_literal certname),
      Session.writes_inMode, wrote.writes (by rw [put]; rfl), none]
    exact ⟨⟨rfl, none⟩, wrote.sent⟩

end Pinning

theorem pinning (group certname : String) (masterZone : Option String) (s : Session) :
    Pinning certname s fun mode => (pin group certname masterZone).run.run (s.inMode mode) := by
  rw [pin_eq]
  have reads : Continues s ((openRules group masterZone).run.run s).2 :=
    runs_openRules Continues.journey group masterZone s
  have opens := run_openRules_inMode group masterZone s
  rcases got : (Backend.rulesOf group).run.run s with ⟨answer, v⟩
  cases answer with
  | error e =>
    obtain ⟨trace, t, failed⟩ := openRules_of_error got masterZone
    rw [failed] at reads opens
    exact .fails reads fun mode => Backend.run_bind_of_error (opens mode)
  | ok d =>
    obtain ⟨opened, new⟩ := openRules_of_ok got masterZone
    have identified := RulesPage.identified_load got masterZone s.settings
    rcases loaded : (RulesPage.new group masterZone s.settings).load s with ⟨page, t⟩
    rw [loaded] at opened new identified
    rw [opened] at reads opens
    rcases withNode_inMode certname identified with refused | decided
    -- Pages of two modes differ in what their inputs list, but not in what they commit.
    · exact .fails reads fun mode => amend_of_refused (opens mode) (refused mode)
    · obtain ⟨next, -, sameGroup, status, document⟩ :=
        (decided .literal).1 (Search.findsItself_literal certname)
      have ready : next.status.canCommit = true := by
        rw [status, new]
        rfl
      refine .commits reads (wrote_commitPage RulesPage.writer ready t) rfl (fun mode itself => ?_)
        fun mode missed => amend_of_refused (opens mode) ((decided mode).2 missed)
      obtain ⟨other, changed, otherGroup, otherStatus, otherDocument⟩ := (decided mode).1 itself
      have writes : Backend.replaceRules other.group other.document =
          Backend.replaceRules next.group next.document := by
        rw [otherGroup, sameGroup, otherDocument, document]
      have alike : commitPage RulesPage.shape other = commitPage RulesPage.shape next :=
        commitPage_congr writes (otherStatus.trans status.symm)
      rw [amend_of_changed (opens mode) changed, alike]
      exact blind_commitPage (Backend.blind_replaceRules next.group next.document) t mode

/-- Pinning in raw mode goes as in literal mode if the name of the node finds itself as a pattern.
Otherwise it fails once the page is loaded, and what is written in literal mode is not sent. So the
two send the same and come out alike just if the name finds itself, which plain names do, or there
is nothing to write in either. -/
theorem pin_agrees_iff (settings : Settings) (answering : Backend.Answering)
    (opening : Backend.Opening) (group certname : String) (masterZone : Option String) :
    let ran (mode : PatternMode) := (perform (.pin group certname masterZone)).run.run
      (Session.start { settings with patternMode := mode } answering opening)
    ((ran .raw).2.sent = (ran .literal).2.sent ∧ (ran .raw).1.isOk = (ran .literal).1.isOk ↔
        FindsItself .raw certname ∨ writes (ran .literal).2 = []) ∧
      (FindsItself .raw certname → ran .raw = ((ran .literal).1, (ran .literal).2.inMode .raw)) ∧
      (¬ FindsItself .raw certname → Refuses (ran .raw) ∧
        (ran .literal).2.sent = (ran .raw).2.sent ++ writes (ran .literal).2) ∧
      ((∀ c ∈ certname.toList, Pattern.Plain c) → FindsItself .raw certname) := by
  intro ran
  have pins : Pinning certname (Session.start settings answering opening) ran :=
    pinning group certname masterZone (Session.start settings answering opening)
  refine ⟨?_, pins.eq_literal, pins.refuses rfl, Search.findsItself_of_plain⟩
  by_cases itself : FindsItself .raw certname
  · refine iff_of_true ?_ (.inl itself)
    rw [pins.eq_literal itself]
    exact ⟨rfl, rfl⟩
  · rw [or_iff_right itself]
    constructor
    · rintro ⟨same, -⟩
      have sent := (pins.refuses rfl itself).2
      rw [same] at sent
      exact List.self_eq_append_right.mp sent
    · intro none
      rcases pins.writes_literal rfl with ⟨e, t, all⟩ | ⟨q, written⟩
      · rw [all .raw, all .literal]
        exact ⟨rfl, rfl⟩
      · rw [none] at written
        cases written

/-- A node that has a plain name, and one that has a sum for a name. -/
theorem pin_agrees_iff_sum :
    let rules := "\x7b\"nodes\":[]\x7d"
    let nodes := "[\x7b\"id\":\"1\",\"certname\":\"web-1.lan\"\x7d," ++
      "\x7b\"id\":\"2\",\"certname\":\"1+1\"\x7d]"
    let ran (certname : String) (mode : PatternMode) := (perform (.pin "g" certname none)).run.run
      (Session.start { patternMode := mode } (Backend.inTurn [rules, nodes]))
    ran "web-1.lan" .raw =
        ((ran "web-1.lan" .literal).1, (ran "web-1.lan" .literal).2.inMode .raw) ∧
      Refuses (ran "1+1" .raw) ∧
        (ran "1+1" .literal).2.sent = (ran "1+1" .raw).2.sent ++ writes (ran "1+1" .literal).2 := by
  intro rules nodes ran
  obtain ⟨-, agrees, -, plain⟩ := pin_agrees_iff {} (Backend.inTurn [rules, nodes])
    (fun _ => Directory.empty.opens) "g" "web-1.lan" none
  obtain ⟨-, -, differs, -⟩ := pin_agrees_iff {} (Backend.inTurn [rules, nodes])
    (fun _ => Directory.empty.opens) "g" "1+1" none
  have named : "web-1.lan".toList.all (fun c => decide (Pattern.Plain c)) = true := by decide
  have plainly := fun c member => of_decide_eq_true (List.all_eq_true.mp named c member)
  exact ⟨agrees (plain plainly), differs Search.not_findsItself_sum⟩

/-- A node that literal mode pins is unknown to raw mode, although the backend lists it. -/
theorem pin_misses_sum :
    let rules := "\x7b\"nodes\":[]\x7d"
    let nodes := "[\x7b\"id\":\"1\",\"certname\":\"1+1\"\x7d]"
    let ran (mode : PatternMode) := (perform (.pin "g" "1+1" none)).run.run
      (Session.start { patternMode := mode } (Backend.inTurn [rules, nodes]))
    (ran .literal).1.isOk = true ∧
      Puts (ran .literal) (Settings.url {} "api/rules/g/") (Rules.toJson ⟨.all, [], ["1+1"]⟩) ∧
      Refuses (ran .raw) := by
  intro rules nodes ran
  let s := Session.start {} (Backend.inTurn [rules, nodes])
  have served : ((Backend.rulesOf "g").run.run s).1 = .ok ⟨.all, [], []⟩ := by decide +kernel
  have listed : ((Backend.nodes none).run.run ((Backend.rulesOf "g").run.run s).2).1 =
      .ok [⟨"1", "1+1", .ofList [("certname", "1+1")], .enabled⟩] := by
    decide +kernel
  have pinnable : RulesPage.Pinnable ⟨.all, [], []⟩ ((Backend.rulesOf "g").run.run s).2 none
      "1+1" := by
    refine ⟨List.not_mem_nil, _, _, Prod.ext listed rfl, ?_⟩
    decide +kernel
  have path : Backend.memberPath s.settings.paths.rules "g" = "api/rules/g/" := by decide +kernel
  have pins : Pinning "1+1" s ran := pinning "g" "1+1" none s
  have puts : Puts (ran .literal) (s.settings.url (Backend.memberPath s.settings.paths.rules "g"))
      (Rules.toJson ⟨.all, [], ["1+1"]⟩) :=
    (pin_spec rfl (Prod.ext served rfl) rfl "1+1" none).1 pinnable
  rw [path] at puts
  refine ⟨?_, puts, (pins.refuses rfl Search.not_findsItself_sum).1⟩
  obtain ⟨q, written, -⟩ := puts
  cases pins with
  | fails reads all =>
    rw [all .literal, Session.writes_inMode, reads.writes] at written
    cases written
  | commits reads wrote put found missed =>
    rw [found .literal (Search.findsItself_literal _)]
    exact wrote.decided.mpr ⟨_, by rw [reads.answering]; rfl, rfl⟩

end CommandLine

end NodeGroups
