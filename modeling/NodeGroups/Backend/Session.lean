import NodeGroups.Backend.Request
import NodeGroups.Backend.CallLog
import NodeGroups.Directory
import NodeGroups.Settings
import NodeGroups.Text.Quoted

set_option autoImplicit false

namespace NodeGroups.Backend

/-- Whether the file at a path opens and takes one more line, after these requests. -/
abbrev Opening := List Request → String → Bool

/-- A session with the backend: what it was told to be, what was sent, and the log. Times and
identifiers of log entries come from outside and are left blank. -/
structure Session where
  settings : Settings
  answering : Answering
  opening : Opening
  /-- The requests that were sent, oldest first. -/
  sent : List Request
  log : CallLog

/-- A computation that may call the backend. What was sent stays sent when it fails. -/
abbrev Call := ExceptT Failure (StateM Session)

namespace Session

/-- A new session. Its log file stands in an empty directory unless told otherwise. -/
def start (settings : Settings) (answering : Answering)
    (opening : Opening := fun _ => Directory.empty.opens) : Session :=
  ⟨settings, answering, opening, [], .new settings.logPath⟩

/-- How a session introduces itself, if its settings are valid. -/
def describe (settings : Settings) : Except Failure String := do
  settings.validate
  return "ConsoleClient \x7b base_url: " ++ Text.Quoted.quote settings.baseUrl ++ ", .. \x7d"

/-- The header that proves that a write is meant. -/
def tokenHeader : String := "X-CSRFToken"

def request (s : Session) (method : Method) (path : String) (query : List (String × String))
    (body : Option Json) : Request where
  method := method
  url := s.settings.url path
  query := query
  headers := ("Accept", "application/json") ::
    match method.isWrite, s.settings.csrfToken with
    | true, some token => [(tokenHeader, token)]
    | _, _ => []
  body := body

end Session

/-- The body of a response that reports success; any other is a rejection with the messages in its
body. -/
def Response.accepted (r : Response) : Except Failure String :=
  if r.isSuccess then .ok r.body
  else .error (.rejected r.status (((Json.parse? r.body).map Failure.messagesOf).getD ""))

/-- The log entry of a call that was answered as given and came out as given. -/
def LogEntry.ofCall (operation : String) (method : Method) (path : String)
    (answer : Except Failure Response) (outcome : Except Failure String) : LogEntry where
  requestId := ""
  operation := operation
  method := method.name
  path := path
  status := match outcome with
    | .ok _ => "ok"
    | .error _ => "error"
  httpStatus := match answer with
    | .ok r => some r.status
    | .error e => e.status?
  latencyMs := 0
  createdAt := ""
  errorCode := match outcome with
    | .ok _ => none
    | .error e => some e.code
  errorMessage := match outcome with
    | .ok _ => none
    | .error e => some e.message

/-- Sends a request and gives the body of the response. -/
def send (operation : String) (method : Method) (path : String)
    (query : List (String × String)) (body : Option Json) : Call String := fun s =>
  let request := s.request method path query body
  let answer := s.answering s.sent request
  let outcome := answer >>= Response.accepted
  (outcome, { s with
    sent := s.sent ++ [request]
    log := s.log.record (s.opening s.sent) (.ofCall operation method path answer outcome) })

end NodeGroups.Backend
