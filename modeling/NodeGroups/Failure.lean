import NodeGroups.Json.Printer

set_option autoImplicit false

namespace NodeGroups

/-- What can go wrong. A failure has a code for programs, a message for logs, and a text for the
banner of a page. -/
inductive Failure
  /-- A search query is no pattern: the query, and why. -/
  | invalidPattern (detail : String)
  /-- Input that breaks a rule. -/
  | validation (reason : String)
  /-- Something named does not exist. -/
  | notFound (what : String)
  /-- There is nothing to commit, or a commit is under way. -/
  | commitLocked
  /-- The backend answered with a status other than success, and with these messages. -/
  | rejected (status : Nat) (messages : String)
  | configuration (reason : String)
  | io (reason : String)
  | json
  | yaml
  | toml
  | http
  deriving DecidableEq, Inhabited

namespace Failure

def code : Failure → String
  | .invalidPattern _ => "INVALID_PATTERN"
  | .validation _ => "VALIDATION_FAILED"
  | .notFound _ => "NOT_FOUND"
  | .commitLocked => "COMMIT_LOCKED"
  | .rejected .. => "REJECTED"
  | .configuration _ => "CONFIG_ERROR"
  | .io _ => "IO_ERROR"
  | .json => "JSON_ERROR"
  | .yaml => "YAML_ERROR"
  | .toml => "TOML_ERROR"
  | .http => "HTTP_ERROR"

/-- The message for logs. -/
def message : Failure → String
  | .invalidPattern detail => "invalid search pattern: " ++ detail
  | .validation reason => "validation failed: " ++ reason
  | .notFound what => "not found: " ++ what
  | .commitLocked => "commit action is disabled"
  | .rejected status messages =>
    "backend rejected request with status " ++ toString status ++ ": " ++ messages
  | .configuration reason => "invalid configuration: " ++ reason
  | .io reason => reason
  | .json => "malformed JSON document"
  | .yaml => "malformed YAML document"
  | .toml => "malformed TOML document"
  | .http => "HTTP request failed"

/-- The status of the backend's answer, where it answered. -/
def status? : Failure → Option Nat
  | .rejected status _ => some status
  | _ => none

/-- What a page says when there is nothing more precise to say. -/
def generalMessage : String := "A problem ocurred, try again later!"

def bannerText : Failure → String
  | .rejected _ messages => if messages = "" then generalMessage else messages
  | _ => generalMessage

/-- The text of one message: a string is its own, `null` has none. -/
def messageText : Json → String
  | .string s => s
  | .null => ""
  | v => Json.compact v

/-- The line for one member of a backend answer; several messages are joined by commas. -/
def messageLine : Json → String
  | .array items => ",".intercalate (items.map messageText)
  | v => messageText v

/-- The messages in a backend answer: one line for each member that has text, in key order. An
answer that is no object has none. -/
def messagesOf : Json → String
  | .object members =>
    "\n".intercalate ((members.map fun m => messageLine m.2).filter (· ≠ ""))
  | _ => ""

end Failure

end NodeGroups
