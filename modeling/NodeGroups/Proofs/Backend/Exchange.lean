import NodeGroups.Proofs.Backend.Storage

set_option autoImplicit false

namespace NodeGroups.Backend

open Search (Record)

/-- The requests of a session that change something, oldest first. -/
def writes (s : Session) : List Request := s.sent.filter fun q => q.method.isWrite

/-- Since a session was at `s`, a request for a URL was answered with success and a fitting text. -/
def Found (s t : Session) (url : String) (Fits : String → Prop) : Prop :=
  ∃ earlier get later r, t.sent = s.sent ++ (earlier ++ get :: later) ∧ get.method = .get ∧
    get.url = url ∧ t.answering (s.sent ++ earlier) get = .ok r ∧ r.isSuccess = true ∧ Fits r.body

variable {s t u : Session}

theorem isWrite_eq_false {q : Request} : q.method.isWrite = false ↔ q.method = .get := by
  rw [Method.isWrite, bne_eq_false_iff_eq]

theorem Continues.writes (continues : Continues s t) : writes t = writes s := by
  obtain ⟨reads, sent, gets⟩ := continues.sent
  have none : reads.filter (fun q => q.method.isWrite) = [] := by
    refine List.filter_eq_nil_iff.mpr fun q member => ?_
    rw [isWrite_eq_false.mpr (gets q member)]
    exact Bool.false_ne_true
  rw [Backend.writes, sent, List.filter_append, none, List.append_nil]
  rfl

/-- What was found stays found while a session only reads. -/
theorem Found.onward {url : String} {Fits : String → Prop} (found : Found s t url Fits)
    (continues : Continues t u) : Found s u url Fits := by
  obtain ⟨earlier, get, later, r, sent, method, same, answer, success, fits⟩ := found
  obtain ⟨reads, sentOn, -⟩ := continues.sent
  refine ⟨earlier, get, later ++ reads, r, ?_, method, same, ?_, success, fits⟩
  · rw [sentOn, sent, List.append_assoc, List.append_assoc, List.cons_append]
  · rw [continues.answering]
    exact answer

theorem Found.weaken {url : String} {Fits Also : String → Prop} (found : Found s t url Fits)
    (also : ∀ text, Fits text → Also text) : Found s t url Also := by
  obtain ⟨earlier, get, later, r, sent, method, same, answer, success, fits⟩ := found
  exact ⟨earlier, get, later, r, sent, method, same, answer, success, also _ fits⟩

theorem accepted_ok {r : Response} {body : String} (ok : r.accepted = .ok body) :
    r.isSuccess = true ∧ r.body = body := by
  unfold Response.accepted at ok
  split at ok
  · rename_i success
    cases ok
    exact ⟨success, rfl⟩
  · cases ok

/-- A request that gives a body was answered with success and that body. -/
theorem send_ok {operation path body : String} {method : Method} {query : List (String × String)}
    {given : Option Json}
    (ok : (send operation method path query given).run.run s = (.ok body, t)) :
    ∃ r, s.answering s.sent (s.request method path query given) = .ok r ∧ r.isSuccess = true ∧
      r.body = body ∧ t.sent = s.sent ++ [s.request method path query given] ∧
        t.answering = s.answering := by
  have outcome : (s.answering s.sent (s.request method path query given) >>= Response.accepted) =
      .ok body := congrArg Prod.fst ok
  obtain rfl := congrArg Prod.snd ok
  cases answer : s.answering s.sent (s.request method path query given) with
  | error e =>
    rw [answer] at outcome
    cases outcome
  | ok r =>
    rw [answer] at outcome
    obtain ⟨success, same⟩ := accepted_ok outcome
    exact ⟨r, rfl, success, same, rfl, rfl⟩

theorem found_of_fetch {α : Type} {decoder : Json.Decoder α} {pathOf : Paths → String}
    {operation : String} {query : List (String × String)} {a : α}
    (got : (paths >>= fun p => fetch operation (pathOf p) query decoder).run.run s = (.ok a, t)) :
    Found s t (s.settings.url (pathOf s.settings.paths)) fun text =>
      decoder.ofText? text = some a := by
  obtain ⟨p, v, here, got⟩ := bind_ok got
  cases here
  obtain ⟨body, v, sent, read⟩ := bind_ok got
  obtain ⟨r, answer, success, rfl, sentOn, answering⟩ := send_ok sent
  split at read
  · rename_i b decoded
    cases read
    refine ⟨[], _, [], r, sentOn, rfl, rfl, ?_, success, decoded⟩
    rw [answering, List.append_nil]
    exact answer
  · cases read

/-- The document in an answer, if the response reports success and its body is one. -/
def documentIn? {α : Type} (decoder : Json.Decoder α) : Except Failure Response → Option α
  | .ok r => if r.isSuccess then decoder.ofText? r.body else none
  | .error _ => none

/-- Fetching a document sends one request and comes out as the answer says. -/
theorem run_fetch {α : Type} (pathOf : Paths → String) (operation : String)
    (query : List (String × String)) (decoder : Json.Decoder α) (s : Session) :
    let q := s.request .get (pathOf s.settings.paths) query none
    ∃ outcome log, (paths >>= fun p => fetch operation (pathOf p) query decoder).run.run s =
        (outcome, { s with sent := s.sent ++ [q], log }) ∧
      outcome.toOption = documentIn? decoder (s.answering s.sent q) := by
  intro q
  have here : paths.run.run s = (.ok s.settings.paths, s) := rfl
  rw [run_bind_of_ok here, fetch]
  rcases ran : (send operation .get (pathOf s.settings.paths) query none).run.run s with ⟨body, t⟩
  have decided : body = (s.answering s.sent q >>= Response.accepted) :=
    (congrArg Prod.fst ran).symm
  have onward : ∃ log, t = { s with sent := s.sent ++ [q], log } :=
    ⟨_, (congrArg Prod.snd ran).symm⟩
  obtain ⟨log, rfl⟩ := onward
  cases answer : s.answering s.sent q with
  | error e =>
    rw [answer] at decided
    cases decided
    exact ⟨_, log, run_bind_of_error ran, rfl⟩
  | ok r =>
    rw [answer] at decided
    change body = r.accepted at decided
    rw [documentIn?]
    cases success : r.isSuccess with
    | false =>
      rw [Response.accepted, success] at decided
      cases decided
      exact ⟨_, log, run_bind_of_error ran, rfl⟩
    | true =>
      rw [Response.accepted, success] at decided
      cases decided
      rw [run_bind_of_ok ran, if_pos rfl]
      cases decoder.ofText? r.body with
      | some a => exact ⟨_, log, rfl, rfl⟩
      | none => exact ⟨_, log, rfl, rfl⟩

theorem sent_fetch {α : Type} (pathOf : Paths → String) (operation : String)
    (query : List (String × String)) (decoder : Json.Decoder α) (s : Session) :
    ((paths >>= fun p => fetch operation (pathOf p) query decoder).run.run s).2.sent =
      s.sent ++ [s.request .get (pathOf s.settings.paths) query none] := by
  obtain ⟨outcome, log, ran, -⟩ := run_fetch pathOf operation query decoder s
  rw [ran]

/-- The records in an answer, if it holds a list of records. -/
def recordsIn? (labelField : String) (answer : Except Failure Response) : Option (List Record) :=
  (documentIn? (.list .json) answer).bind fun entries =>
    (entries.mapM fun entry => Record.ofJson entry labelField).toOption

theorem run_fetchDataset (pathOf : Paths → String) (operation : String)
    (query : List (String × String)) (labelField : String) (s : Session) :
    let q := s.request .get (pathOf s.settings.paths) query none
    ∃ outcome log,
      (paths >>= fun p => fetchDataset operation (pathOf p) query labelField).run.run s =
        (outcome, { s with sent := s.sent ++ [q], log }) ∧
      outcome.toOption = recordsIn? labelField (s.answering s.sent q) := by
  intro q
  obtain ⟨entries, log, ran, decoded⟩ := run_fetch pathOf operation query (.list .json) s
  unfold fetchDataset
  rw [← bind_assoc, recordsIn?, ← decoded]
  cases entries with
  | error e => exact ⟨_, log, run_bind_of_error ran, rfl⟩
  | ok entries =>
    rw [run_bind_of_ok ran, Except.toOption, Option.bind_some]
    cases entries.mapM fun entry => Record.ofJson entry labelField with
    | ok records => exact ⟨_, log, rfl, rfl⟩
    | error e => exact ⟨_, log, rfl, rfl⟩

/-- A session went on by one request, which succeeded just if it was accepted. -/
structure Wrote (s t : Session) (q : Request) (succeeded : Bool) : Prop where
  settings : t.settings = s.settings
  answering : t.answering = s.answering
  sent : t.sent = s.sent ++ [q]
  decided : succeeded = true ↔ Accepts s q

theorem Wrote.writes {q : Request} {succeeded : Bool} (wrote : Wrote s t q succeeded)
    (changes : q.method.isWrite = true) : writes t = writes s ++ [q] := by
  simp [Backend.writes, wrote.sent, changes]

/-- How a write comes out, by how it was answered. -/
def outcomeOf : Except Failure Response → Except Failure Unit
  | .ok r =>
    if r.isSuccess then .ok ()
    else .error (.rejected r.status (((Json.parse? r.body).map Failure.messagesOf).getD ""))
  | .error e => .error e

theorem map_accepted (answer : Except Failure Response) :
    (answer >>= Response.accepted).map (Function.const String ()) = outcomeOf answer := by
  cases answer with
  | error e => rfl
  | ok r =>
    change Except.map _ r.accepted = _
    rw [Response.accepted, outcomeOf]
    cases r.isSuccess <;> rfl

theorem isOk_outcomeOf (s : Session) (q : Request) :
    (outcomeOf (s.answering s.sent q)).isOk = true ↔ Accepts s q := by
  unfold Accepts
  cases s.answering s.sent q with
  | error e => exact iff_of_false Bool.false_ne_true (fun ⟨r, ok, _⟩ => nomatch ok)
  | ok r =>
    have same : (outcomeOf (.ok r)).isOk = r.isSuccess := by
      rw [outcomeOf]
      cases r.isSuccess <;> rfl
    rw [same]
    constructor
    · intro success
      exact ⟨r, rfl, success⟩
    · rintro ⟨_, ok, success⟩
      cases ok
      exact success

theorem run_write {method : Method} (pathOf : Paths → String) (operation : String)
    (document : Json) (s : Session) :
    let q := s.request method (pathOf s.settings.paths) [] (some document)
    ∃ log, (paths >>= fun p => write operation method (pathOf p) document).run.run s =
      (outcomeOf (s.answering s.sent q), { s with sent := s.sent ++ [q], log }) := by
  intro q
  have sends : (paths >>= fun p => write operation method (pathOf p) document).run.run s =
      (Function.const String () <$>
        send operation method (pathOf s.settings.paths) [] (some document)).run.run s := rfl
  rw [sends, ExceptT.run_map, StateT.run_map]
  exact ⟨_, Prod.ext (map_accepted _) rfl⟩

theorem wrote_write {method : Method} (pathOf : Paths → String) (operation : String)
    (document : Json) :
    let ran := (paths >>= fun p => write operation method (pathOf p) document).run.run s
    Wrote s ran.2 (s.request method (pathOf s.settings.paths) [] (some document)) ran.1.isOk := by
  intro ran
  obtain ⟨log, ran_eq⟩ := run_write pathOf operation document s
  have here : ran = _ := ran_eq
  rw [here]
  exact ⟨rfl, rfl, rfl, isOk_outcomeOf s _⟩

end NodeGroups.Backend
