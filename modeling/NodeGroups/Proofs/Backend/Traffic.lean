import NodeGroups.Proofs.Backend.Exchange
import NodeGroups.Proofs.Json.Rereading

set_option autoImplicit false

namespace NodeGroups.Backend

/-- Requests, oldest first, each with the answer that it gets after those before it. -/
def traffic (answering : Answering) (sent : List Request) :
    List (Request × Except Failure Response) :=
  sent.mapIdx fun i q => (q, answering (sent.take i) q)

theorem length_traffic (answering : Answering) (sent : List Request) :
    (traffic answering sent).length = sent.length := List.length_mapIdx

/-- A request adds itself and its answer. -/
theorem traffic_append (answering : Answering) (sent : List Request) (q : Request) :
    traffic answering (sent ++ [q]) = traffic answering sent ++ [(q, answering sent q)] := by
  have before : sent.mapIdx (fun i p => (p, answering ((sent ++ [q]).take i) p)) =
      traffic answering sent := by
    refine List.ext_getElem (by simp [length_traffic]) fun i inside _ => ?_
    rw [List.length_mapIdx] at inside
    simp [traffic, List.take_append_of_le_length (Nat.le_of_lt inside)]
  rw [traffic, List.mapIdx_append, before]
  simp

/-- Of the requests with their answers, those at which the file at a path opens. -/
def recorded (answering : Answering) (opening : Opening) (path : String) (sent : List Request) :
    List (Request × Except Failure Response) :=
  ((traffic answering sent).zipIdx.filter fun x => opening (sent.take x.2) path).map Prod.fst

theorem recorded_append (answering : Answering) (opening : Opening) (path : String)
    (sent : List Request) (q : Request) :
    recorded answering opening path (sent ++ [q]) = recorded answering opening path sent ++
      if opening sent path then [(q, answering sent q)] else [] := by
  have before : (traffic answering sent).zipIdx.filter
        (fun x => opening ((sent ++ [q]).take x.2) path) =
      (traffic answering sent).zipIdx.filter fun x => opening (sent.take x.2) path := by
    apply List.filter_congr
    intro x member
    have inside := List.snd_lt_of_mem_zipIdx member
    rw [length_traffic] at inside
    rw [List.take_append_of_le_length (by omega)]
  rw [recorded, traffic_append, List.zipIdx_append, List.filter_append, List.map_append, before]
  by_cases opens : opening sent path = true <;> simp [recorded, length_traffic, opens]

theorem recorded_of_opens {answering : Answering} {opening : Opening} {path : String}
    {sent : List Request} (opens : ∀ i < sent.length, opening (sent.take i) path = true) :
    recorded answering opening path sent = traffic answering sent := by
  have all : (traffic answering sent).zipIdx.filter (fun x => opening (sent.take x.2) path) =
      (traffic answering sent).zipIdx := by
    apply List.filter_eq_self.mpr
    intro x member
    have inside := List.snd_lt_of_mem_zipIdx member
    rw [length_traffic] at inside
    exact opens x.2 (by omega)
  rw [recorded, all, List.zipIdx_map_fst]

/-- The status that an answer has. A transport answers with a response; one that reports a rejection
by itself has an answer behind it. -/
inductive Answered : Except Failure Response → (status : Nat) → Prop
  | response (r : Response) : Answered (.ok r) r.status
  | rejection (status : Nat) (messages : String) :
      Answered (.error (.rejected status messages)) status

/-- What an entry of the log has to say of a request and its answer. -/
structure LogEntry.Describes (settings : Settings) (x : Request × Except Failure Response)
    (e : LogEntry) : Prop where
  endpoint : Endpoint settings.paths e.operation x.1.method e.path
  method : e.method = x.1.method.name
  url : settings.url e.path = x.1.url
  ok_iff : e.status = "ok" ↔ ∃ r, x.2 = .ok r ∧ r.isSuccess = true
  succeeded : e.status = "ok" → e.errorCode = none ∧ e.errorMessage = none
  /-- Otherwise the entry has the failure that the call ended with. -/
  failed : e.status ≠ "ok" → e.status = "error" ∧
    ∃ f, outcomeOf x.2 = .error f ∧ e.errorCode = some f.code ∧ e.errorMessage = some f.message
  answered : ∀ status, e.httpStatus = some status ↔ Answered x.2 status

theorem answered_ofCall {operation path : String} {method : Method}
    {answer : Except Failure Response} {outcome : Except Failure String} (status : Nat) :
    (LogEntry.ofCall operation method path answer outcome).httpStatus = some status ↔
      Answered answer status := by
  cases answer with
  | ok r =>
    constructor
    · rintro ⟨⟩
      exact .response r
    · rintro ⟨⟩
      rfl
  | error f =>
    constructor
    · intro known
      cases f with
      | rejected status messages =>
        cases known
        exact .rejection _ _
      | _ => cases known
    · rintro ⟨⟩
      rfl

theorem accepted_iff (answer : Except Failure Response) :
    (∃ body, (answer >>= Response.accepted) = .ok body) ↔
      ∃ r, answer = .ok r ∧ r.isSuccess = true := by
  constructor
  · rintro ⟨body, ok⟩
    cases answer with
    | error f => cases ok
    | ok r => exact ⟨r, rfl, (accepted_ok ok).1⟩
  · rintro ⟨r, rfl, success⟩
    exact ⟨r.body, if_pos success⟩

/-- The entry that a request leaves describes it. -/
theorem LogEntry.describes_ofCall {s : Session} {operation path : String} {method : Method}
    (endpoint : Endpoint s.settings.paths operation method path) (query : List (String × String))
    (body : Option Json) (answer : Except Failure Response) :
    LogEntry.Describes s.settings (s.request method path query body, answer)
      (.ofCall operation method path answer (answer >>= Response.accepted)) := by
  have came : outcomeOf answer = (answer >>= Response.accepted).map (Function.const String ()) :=
    (map_accepted answer).symm
  have accepted := accepted_iff answer
  cases outcome : answer >>= Response.accepted with
  | ok text =>
    rw [outcome] at accepted
    exact {
      endpoint, method := rfl, url := rfl, answered := answered_ofCall
      ok_iff := iff_of_true rfl (accepted.mp ⟨text, rfl⟩)
      succeeded := fun _ => ⟨rfl, rfl⟩
      failed := fun other => absurd rfl other }
  | error f =>
    rw [outcome] at accepted came
    have refused : "error" ≠ "ok" := by decide
    exact {
      endpoint, method := rfl, url := rfl, answered := answered_ofCall
      ok_iff := iff_of_false refused fun success => nomatch accepted.mpr success
      succeeded := fun ok => absurd ok refused
      failed := fun _ => ⟨rfl, f, came, rfl, rfl⟩ }

/-- How a session goes on by calls: one request after another, each to an endpoint. -/
inductive Exchanges : Session → Session → Prop
  | refl (s : Session) : Exchanges s s
  | step {s t : Session} (earlier : Exchanges s t) {operation path : String} {method : Method}
      (endpoint : Endpoint t.settings.paths operation method path)
      (query : List (String × String)) (body : Option Json) :
      Exchanges s ((send operation method path query body).run.run t).2

theorem Exchanges.journey : Journey Exchanges where
  refl := .refl
  trans first second := by
    induction second with
    | refl => exact first
    | step _ endpoint query body ih => exact ih.step endpoint query body
  get endpoint query := (Exchanges.refl _).step endpoint query none

theorem Exchanges.write {pathOf : Paths → String} {operation : String} {method : Method}
    (endpoint : ∀ p, Endpoint p operation method (pathOf p)) (document : Json) :
    Runs Exchanges (paths >>= fun p => Backend.write operation method (pathOf p) document) := by
  intro s
  have sends : (paths >>= fun p => Backend.write operation method (pathOf p) document).run.run s =
      (Function.const String () <$>
        send operation method (pathOf s.settings.paths) [] (some document)).run.run s := rfl
  rw [sends, ExceptT.run_map, StateT.run_map]
  exact (Exchanges.refl s).step (endpoint s.settings.paths) [] (some document)

theorem Exchanges.replaceConfiguration (group : String) (c : Document.Configuration) :
    Runs Exchanges (replaceConfiguration group c) :=
  Exchanges.write (fun _ => .putConfiguration group) _

theorem Exchanges.replaceRules (group : String) (r : Document.Rules) :
    Runs Exchanges (replaceRules group r) :=
  Exchanges.write (fun _ => .putRules group) _

theorem Exchanges.replaceVariables (group : String) (v : Document.Variables) :
    Runs Exchanges (replaceVariables group v) :=
  Exchanges.write (fun _ => .putVariables group) _

theorem Exchanges.synchronize (masterId : String) : Runs Exchanges (synchronize masterId) :=
  Exchanges.write (fun _ => .synchronization) _

theorem Exchanges.length_le {s t : Session} (exchanges : Exchanges s t) :
    s.sent.length ≤ t.sent.length := by
  induction exchanges with
  | refl => exact Nat.le_refl _
  | @step t _ operation path method _ query body ih =>
    refine Nat.le_trans ih ?_
    change _ ≤ (t.sent ++ [t.request method path query body]).length
    rw [List.length_append]
    exact Nat.le_add_right _ _

/-- A session that sends nothing stays as it is. -/
theorem Exchanges.eq_of_sent {s t : Session} (exchanges : Exchanges s t)
    (silent : t.sent = s.sent) : t = s := by
  cases exchanges with
  | refl => rfl
  | @step t earlier operation path method _ query body =>
    have before := earlier.length_le
    have longer := congrArg List.length silent
    change (t.sent ++ [t.request method path query body]).length = _ at longer
    rw [List.length_append, List.length_singleton] at longer
    omega

/-- Of the latest items with one more behind them, the latest ones are the latest of all. -/
theorem drop_append_last {α : Type} (room : Nat) (xs : List α) (x : α) :
    let kept := xs.drop (xs.length - room) ++ [x]
    kept.drop (kept.length - room) = (xs ++ [x]).drop ((xs ++ [x]).length - room) := by
  intro kept
  have front : kept = (xs ++ [x]).drop (xs.length - room) :=
    (List.drop_append_of_le_length (Nat.sub_le _ _)).symm
  have amount : xs.length - room + ((xs ++ [x]).length - (xs.length - room) - room) =
      (xs ++ [x]).length - room := by
    rw [List.length_append, List.length_singleton]
    omega
  rw [front, List.drop_drop, List.length_drop, amount]

theorem CallLog.keepRecent_append (entries : List LogEntry) (e : LogEntry) :
    keepRecent (keepRecent entries ++ [e]) = keepRecent (entries ++ [e]) :=
  drop_append_last capacity entries e

theorem CallLog.path_record (log : CallLog) (opens : String → Bool) (e : LogEntry) :
    (log.record opens e).path = log.path := by
  rw [record]

theorem CallLog.recent_record (log : CallLog) (opens : String → Bool) (e : LogEntry) :
    (log.record opens e).recent = keepRecent (log.recent ++ [e]) := by
  rw [record]

theorem CallLog.written_record {log : CallLog} {path : String} (named : log.path = some path)
    (opens : String → Bool) (e : LogEntry) :
    (log.record opens e).written = log.written ++ if opens path then [e] else [] := by
  simp only [record, named]
  by_cases opened : opens path = true <;> simp [opened]

theorem CallLog.written_record_of_unnamed {log : CallLog} (unnamed : log.path = none)
    (opens : String → Bool) (e : LogEntry) : (log.record opens e).written = log.written := by
  simp only [record, unnamed]

/-- The members of the line of an entry, in order. A number stands by its decimal digits, and what
is not known is left out. -/
def LogEntry.said (e : LogEntry) : List (String × Json.Source) :=
  let text (s : String) : Json.Source := .string (some s)
  let numeral (n : Nat) : Json.Source := .number ⟨false, Nat.toDigits 10 n, none, none⟩
  [("request_id", text e.requestId), ("operation", text e.operation), ("method", text e.method),
    ("path", text e.path), ("status", text e.status)] ++
  e.httpStatus.toList.map (fun n => ("http_status", numeral n)) ++
  [("latency_ms", numeral e.latencyMs), ("created_at", text e.createdAt)] ++
  e.errorCode.toList.map (fun code => ("error_code", text code)) ++
  e.errorMessage.toList.map fun message => ("error_message", text message)

/-- What the file has for an entry: one line, in which a reader of JSON finds an object. -/
structure LogEntry.Line (e : LogEntry) (line : String) : Prop where
  single : '\n' ∉ line.toList
  members : Json.Source.parse? line = some (.object (e.said.map fun m => (some m.1, m.2)))

theorem LogEntry.ofMembers_toJson (e : LogEntry) :
    Json.Source.ofJson e.toJson = .object (e.said.map fun m => (some m.1, m.2)) := by
  have numeral (n : Nat) :
      Json.Source.ofJson (.nat n) = .number ⟨false, Nat.toDigits 10 n, none, none⟩ := by
    rw [Json.nat, Json.Source.ofJson, Json.Source.ofNumber_int]
    simp [Json.Number.natChars]
  cases status : e.httpStatus <;> cases code : e.errorCode <;> cases message : e.errorMessage <;>
    simp [toJson, said, member?, Json.Source.ofJson, Json.Source.ofMembers, numeral, status, code,
      message]

theorem LogEntry.line_spec (e : LogEntry) : e.Line e.line where
  single := by
    rw [line, Json.compact, String.toList_ofList]
    exact Json.newline_not_mem_compactChars e.toJson
  members := by
    rw [line, Json.Source.parse?_compact, ofMembers_toJson]

/-- A line tells of a request and its answer. -/
def LogEntry.Tells (settings : Settings) (x : Request × Except Failure Response) (line : String) :
    Prop :=
  ∃ e : LogEntry, e.Describes settings x ∧ e.Line line

/-- The log of a session tells of its traffic. -/
structure Session.Mirrors (settings : Settings) (answering : Answering) (opening : Opening)
    (s : Session) : Prop where
  count : s.log.recent.length = min s.sent.length 256
  recent : List.Forall₂ (LogEntry.Describes settings)
    ((traffic answering s.sent).drop (s.sent.length - 256)) s.log.recent
  /-- A file has a line for each request at which it opened. -/
  file : ∀ path, settings.logPath = some path → List.Forall₂ (LogEntry.Tells settings)
    (recorded answering opening path s.sent) s.log.lines
  /-- So one that opened every time has a line for each request. -/
  whole : ∀ path, settings.logPath = some path →
    (∀ i < s.sent.length, opening (s.sent.take i) path = true) →
    List.Forall₂ (LogEntry.Tells settings) (traffic answering s.sent) s.log.lines
  unnamed : settings.logPath = none → s.log.lines = []

/-- A session that has this log so far has these settings and these surroundings still. -/
structure Session.Logged (known : Settings) (backend : Answering) (disk : Opening) (s : Session)
    (entries : List LogEntry) : Prop where
  settings : s.settings = known
  answering : s.answering = backend
  opening : s.opening = disk
  path : s.log.path = known.logPath
  recent : s.log.recent = CallLog.keepRecent entries
  describes : List.Forall₂ (LogEntry.Describes known) (traffic backend s.sent) entries
  written : ∀ path, known.logPath = some path → List.Forall₂ (LogEntry.Describes known)
    (recorded backend disk path s.sent) s.log.written
  unnamed : known.logPath = none → s.log.written = []

section Logged

variable {known : Settings} {backend : Answering} {disk : Opening} {s t : Session}
  {entries : List LogEntry}

theorem Session.logged_start (known : Settings) (backend : Answering) (disk : Opening) :
    (Session.start known backend disk).Logged known backend disk [] where
  settings := rfl
  answering := rfl
  opening := rfl
  path := rfl
  recent := rfl
  describes := .nil
  written _ _ := .nil
  unnamed _ := rfl

/-- A request is described by the entry that it leaves, in the file too if that opens. -/
theorem Session.Logged.send (logged : s.Logged known backend disk entries)
    {operation path : String} {method : Method}
    (endpoint : Endpoint s.settings.paths operation method path)
    (query : List (String × String)) (body : Option Json) :
    ∃ e, ((Backend.send operation method path query body).run.run s).2.Logged known backend disk
      (entries ++ [e]) := by
  obtain ⟨rfl, rfl, rfl, named, recent, describes, written, unnamed⟩ := logged
  let q := s.request method path query body
  let e := LogEntry.ofCall operation method path (s.answering s.sent q)
    (s.answering s.sent q >>= Response.accepted)
  have described : e.Describes s.settings (q, s.answering s.sent q) :=
    LogEntry.describes_ofCall endpoint query body _
  have sends : ((Backend.send operation method path query body).run.run s).2 =
      { s with sent := s.sent ++ [q], log := s.log.record (s.opening s.sent) e } := rfl
  rw [sends]
  refine ⟨e, rfl, rfl, rfl, ?_, ?_, ?_, fun file given => ?_, fun none => ?_⟩ <;> dsimp only
  · rw [CallLog.path_record, named]
  · rw [CallLog.recent_record, recent, CallLog.keepRecent_append]
  · rw [traffic_append]
    exact List.rel_append describes (.cons described .nil)
  · rw [recorded_append, CallLog.written_record (named.trans given)]
    apply List.rel_append (written file given)
    by_cases opens : s.opening s.sent file = true
    · simp only [opens, if_true]
      exact .cons described .nil
    · simp only [opens]
      exact .nil
  · rw [CallLog.written_record_of_unnamed (named.trans none), unnamed none]

/-- Every request of a session has left its entry. -/
theorem Exchanges.logged (exchanges : Exchanges s t)
    (logged : s.Logged known backend disk entries) :
    ∃ more, t.Logged known backend disk more := by
  induction exchanges with
  | refl => exact ⟨entries, logged⟩
  | step _ endpoint query body ih =>
    obtain ⟨before, logged⟩ := ih
    obtain ⟨e, next⟩ := logged.send endpoint query body
    exact ⟨before ++ [e], next⟩

theorem Session.Logged.mirrors (logged : s.Logged known backend disk entries) :
    s.Mirrors known backend disk := by
  have count : entries.length = s.sent.length := by
    rw [← logged.describes.length_eq, length_traffic]
  have kept : s.log.recent = entries.drop (s.sent.length - 256) := by
    rw [logged.recent, CallLog.keepRecent, count, CallLog.capacity]
  have file (path : String) (named : known.logPath = some path) : List.Forall₂
      (LogEntry.Tells known) (recorded backend disk path s.sent) s.log.lines := by
    apply List.forall₂_map_right_iff.mpr
    apply (logged.written path named).imp
    intro x e described
    exact ⟨e, described, e.line_spec⟩
  refine ⟨?_, ?_, file, fun path named opens => ?_, fun none => ?_⟩
  · rw [kept, List.length_drop, count]
    omega
  · rw [kept]
    exact List.forall₂_drop _ logged.describes
  · rw [← recorded_of_opens opens]
    exact file path named
  · rw [CallLog.lines, logged.unnamed none, List.map_nil]

theorem Exchanges.mirrors (exchanges : Exchanges (Session.start known backend disk) t) :
    t.Mirrors known backend disk := by
  obtain ⟨entries, logged⟩ := exchanges.logged (Session.logged_start known backend disk)
  exact logged.mirrors

end Logged

end NodeGroups.Backend
