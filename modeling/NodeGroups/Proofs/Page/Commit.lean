import NodeGroups.Proofs.Page.Exchange

set_option autoImplicit false

namespace NodeGroups.Page

open Backend (Response Session outcomeOf)

/-- What a page that shows the messages of the backend says of a write that was answered as given
and did not succeed: the messages in the body of the answer, if it is JSON with any. A connection
that breaks has no messages; a failure that already is a rejection has its own. -/
def refusalText : Except Failure Response → String
  | .ok r =>
    match Json.parse? r.body with
    | some body =>
      if Failure.messagesOf body = "" then Failure.generalMessage else Failure.messagesOf body
    | none => Failure.generalMessage
  | .error (.rejected _ messages) =>
    if messages = "" then Failure.generalMessage else messages
  | .error _ => Failure.generalMessage

theorem bannerText_of_refused {answer : Except Failure Response} {e : Failure}
    (refused : outcomeOf answer = .error e) : e.bannerText = refusalText answer := by
  cases answer with
  | error failure =>
    cases refused
    cases e <;> rfl
  | ok r =>
    rw [outcomeOf] at refused
    split at refused
    · cases refused
    · cases refused
      rw [refusalText, Failure.bannerText]
      cases Json.parse? r.body <;> rfl

namespace Status

/-- The state of a page after a commit whose request was answered as given. After a refusal the page
says `refusal`, and the commit action can be used at once if `rearm` says so. -/
def settled (status : Status) (rearm : Bool) (updated refusal : String)
    (answer : Except Failure Response) : Status :=
  match outcomeOf answer with
  | .ok _ =>
    { edited := false, armed := false, committing := false, busy := false
      banner := some ⟨.success, updated⟩ }
  | .error _ =>
    { edited := status.edited, armed := rearm, committing := false, busy := false
      banner := some ⟨.danger, refusal⟩ }

/-- A commit that begins and is finished by what was answered settles the page. -/
theorem endCommit_of_begun {status begun : Status} (start : status.startCommit = .ok begun)
    (rearm : Bool) (updated : String) {refusal : Failure → String} {shown : String}
    {answer : Except Failure Response}
    (text : ∀ e, outcomeOf answer = .error e → refusal e = shown) :
    begun.endCommit rearm (match outcomeOf answer with
      | .ok _ => .ok updated
      | .error e => .error (refusal e)) = status.settled rearm updated shown answer := by
  unfold startCommit at start
  split at start
  · cases start
    rw [settled]
    cases came : outcomeOf answer with
    | ok done => rfl
    | error e =>
      rw [← text e came]
      rfl
  · cases start

end Status

/-- A commit sent one request and came out as the backend answered it, and the page went on as
`next` says of the answer. -/
structure Commits {P : Type} (s : Session) (q : Backend.Request)
    (next : Except Failure Response → P) (ran : Except Failure Unit × P × Session) : Prop where
  sent : ran.2.2.sent = s.sent ++ [q]
  outcome : ran.1 = outcomeOf (s.answering s.sent q)
  page : ran.2.1 = next (s.answering s.sent q)

/-- A commit that can begin writes the document of the page and is finished by what came of it. -/
theorem Writer.commits {P D : Type} {shape : Shape P D} (writer : Writer shape) (page : P)
    (ready : (shape.status page).canCommit = true) (s : Session)
    {shown : Except Failure Response → String}
    (text : ∀ answer e, outcomeOf answer = .error e → shape.refusal e = shown answer) :
    Commits s (writer.put page s)
      (fun answer => shape.withStatus page
        ((shape.status page).settled shape.rearm shape.updated (shown answer) answer))
      (shape.commit page s) := by
  obtain ⟨begun, start⟩ := Status.startCommit_of_canCommit ready
  obtain ⟨log, written⟩ := Backend.run_write (writer.pathOf page) writer.operation
    (writer.toJson (shape.document page)) s
  rw [shape.commit_of_begun page start, writer.replaces, written]
  refine ⟨rfl, rfl, ?_⟩
  dsimp only
  rw [Shape.endCommit.eq_def, shape.withStatus_withStatus, shape.status_withStatus]
  exact congrArg (shape.withStatus page)
    (Status.endCommit_of_begun start shape.rearm shape.updated (text (s.answering s.sent _)))

end NodeGroups.Page
