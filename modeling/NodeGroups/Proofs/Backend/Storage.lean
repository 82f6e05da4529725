import NodeGroups.Proofs.Backend.Journey
import NodeGroups.Proofs.Json.Decoding
import NodeGroups.Proofs.Json.Printing

set_option autoImplicit false

namespace NodeGroups.Backend

open Json.Grammar (TextOf)

/-- A session went on with the same backend, and nothing was written meanwhile. -/
structure Continues (s t : Session) : Prop where
  settings : t.settings = s.settings
  answering : t.answering = s.answering
  sent : ∃ reads, t.sent = s.sent ++ reads ∧ ∀ q ∈ reads, q.method = .get

/-- Until something is written, the backend answers requests for a URL with success and with a text
of a document. -/
def Serves (s : Session) (url : String) (document : Json) : Prop :=
  ∀ t, Continues s t → ∀ q : Request, q.method = .get → q.url = url →
    ∃ r, t.answering t.sent q = .ok r ∧ r.isSuccess = true ∧ TextOf document r.body

/-- The backend answers a request with success. -/
def Accepts (s : Session) (q : Request) : Prop :=
  ∃ r, s.answering s.sent q = .ok r ∧ r.isSuccess = true

theorem Continues.refl (s : Session) : Continues s s :=
  ⟨rfl, rfl, [], (List.append_nil _).symm, fun _ member => absurd member List.not_mem_nil⟩

theorem Continues.trans {s t u : Session} (first : Continues s t) (second : Continues t u) :
    Continues s u := by
  obtain ⟨reads, sent, gets⟩ := first.sent
  obtain ⟨more, sentMore, getsMore⟩ := second.sent
  refine ⟨second.settings.trans first.settings, second.answering.trans first.answering,
    reads ++ more, ?_, fun q member => ?_⟩
  · rw [sentMore, sent, List.append_assoc]
  · rcases List.mem_append.mp member with early | late
    · exact gets q early
    · exact getsMore q late

theorem Continues.journey : Journey Continues where
  refl := .refl
  trans := .trans
  get _ _ := by
    refine ⟨rfl, rfl, [_], rfl, fun q member => ?_⟩
    rw [List.mem_singleton.mp member]
    rfl

/-- A computation in a session only reads. -/
def ReadsOnly {ε α : Type} (call : ExceptT ε (StateM Session) α) : Prop :=
  ∀ s, Continues s (call.run.run s).2

section Served

variable {s after t : Session} {document : Json}

theorem send_of_answer {method : Method} {path : String} {query : List (String × String)}
    {body : Option Json} {r : Response}
    (answer : s.answering s.sent (s.request method path query body) = .ok r)
    (success : r.isSuccess = true) (operation : String) :
    ∃ u, (send operation method path query body).run.run s = (.ok r.body, u) ∧
      u.settings = s.settings ∧ u.answering = s.answering ∧
        u.sent = s.sent ++ [s.request method path query body] := by
  refine ⟨_, Prod.ext ?_ rfl, rfl, rfl, rfl⟩
  change (s.answering s.sent (s.request method path query body) >>= Response.accepted) = .ok r.body
  rw [answer]
  exact if_pos success

/-- A document that is served is fetched, from the path that the session has for it. -/
theorem fetch_of_serves {α : Type} {decoder : Json.Decoder α} {depth : Nat} {a : α}
    (pathOf : Paths → String) (same : after.settings = s.settings)
    (serves : Serves after (s.settings.url (pathOf s.settings.paths)) document)
    (continues : Continues after t) (takes : decoder.Takes depth document a)
    (shallow : depth ≤ Json.maxNesting) (operation : String) (query : List (String × String)) :
    ∃ u, (paths >>= fun p => fetch operation (pathOf p) query decoder).run.run t = (.ok a, u) := by
  have settings : t.settings = s.settings := continues.settings.trans same
  have url : (t.request .get (pathOf t.settings.paths) query none).url =
      s.settings.url (pathOf s.settings.paths) :=
    congrArg (fun known : Settings => known.url (pathOf known.paths)) settings
  obtain ⟨r, answer, success, text⟩ := serves t continues _ rfl url
  obtain ⟨u, sent, -⟩ := send_of_answer answer success operation
  refine ⟨u, ?_⟩
  change (fetch operation (pathOf t.settings.paths) query decoder).run.run t = _
  rw [fetch, run_bind_of_ok sent, takes.ofText? shallow text]
  rfl

theorem write_of_accepts {method : Method} (pathOf : Paths → String)
    (accepts : Accepts s (s.request method (pathOf s.settings.paths) [] (some document)))
    (operation : String) :
    ∃ u, (paths >>= fun p => write operation method (pathOf p) document).run.run s = (.ok (), u) ∧
      u.settings = s.settings ∧ u.answering = s.answering ∧
        u.sent = s.sent ++ [s.request method (pathOf s.settings.paths) [] (some document)] := by
  obtain ⟨r, answer, success⟩ := accepts
  obtain ⟨u, sent, same⟩ := send_of_answer answer success operation
  refine ⟨u, ?_, same⟩
  change (Function.const String () <$>
    send operation method (pathOf s.settings.paths) [] (some document)).run.run s = _
  rw [ExceptT.run_map, StateT.run_map, sent]
  rfl

end Served

/-- Whether a request wrote a document under a URL. -/
def wroteTo (url : String) (q : Request) : Bool := q.method != .get && q.url == url

/-- A backend that keeps what is written last under a URL and answers with its compact text. -/
def keeping : Answering := fun sent q =>
  .ok ⟨200, (((sent.reverse.find? (wroteTo q.url)).bind Request.body).map Json.compact).getD "[]"⟩

theorem accepts_keeping {s : Session} (keeps : s.answering = keeping) (q : Request) :
    Accepts s q := by
  rw [Accepts, keeps]
  exact ⟨_, rfl, rfl⟩

/-- What was written last is served. -/
theorem serves_keeping {s : Session} {before : List Request} {q : Request} {document : Json}
    (keeps : s.answering = keeping) (sent : s.sent = before ++ [q]) (writes : q.method ≠ .get)
    (body : q.body = some document) (exact : document.isIntegral = true) :
    Serves s q.url document := by
  intro t continues p _ url
  obtain ⟨reads, sentOn, gets⟩ := continues.sent
  have found : t.sent.reverse.find? (wroteTo p.url) = some q := by
    have passed : reads.reverse.find? (wroteTo p.url) = none := by
      refine List.find?_eq_none.mpr fun r member => ?_
      rw [wroteTo, gets r (List.mem_reverse.mp member)]
      exact Bool.false_ne_true
    have here : wroteTo p.url q = true := by
      rw [wroteTo, url, bne_iff_ne.mpr writes, beq_self_eq_true]
      rfl
    rw [sentOn, sent, List.reverse_append, List.find?_append, passed, List.reverse_append,
      List.reverse_singleton]
    exact List.find?_cons_of_pos here
  refine ⟨⟨200, Json.compact document⟩, ?_, rfl, Json.textOf_compact exact⟩
  rw [continues.answering, keeps, keeping, found, Option.bind_some, body]
  rfl

end NodeGroups.Backend
