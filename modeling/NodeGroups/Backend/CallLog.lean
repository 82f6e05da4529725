import NodeGroups.Json.Decoder
import NodeGroups.Json.Printer

set_option autoImplicit false

namespace NodeGroups.Backend

structure LogEntry where
  requestId : String
  operation : String
  method : String
  path : String
  status : String
  httpStatus : Option Nat
  latencyMs : Nat
  createdAt : String
  errorCode : Option String
  errorMessage : Option String
  deriving DecidableEq

namespace LogEntry

/-- The names of the members of an entry, in order. -/
def keys : List String :=
  ["request_id", "operation", "method", "path", "status", "http_status", "latency_ms",
    "created_at", "error_code", "error_message"]

def decoder : Json.Decoder LogEntry := fun levels s => do
  let f ← Json.Decoder.fields? keys levels s
  return {
    requestId := ← f.required "request_id" .string
    operation := ← f.required "operation" .string
    method := ← f.required "method" .string
    path := ← f.required "path" .string
    status := ← f.required "status" .string
    httpStatus := ← f.withDefault "http_status" none (.optional (.natUpTo 65535))
    latencyMs := ← f.required "latency_ms" .wideNat
    createdAt := ← f.required "created_at" .string
    errorCode := ← f.withDefault "error_code" none (.optional .string)
    errorMessage := ← f.withDefault "error_message" none (.optional .string) }

/-- A member that is left out when it has no value. -/
def member? {α : Type} (key : String) (f : α → Json) : Option α → List (String × Json)
  | none => []
  | some a => [(key, f a)]

/-- An entry as a document, with its members in order. -/
def toJson (e : LogEntry) : Json :=
  .object <|
    [("request_id", .string e.requestId), ("operation", .string e.operation),
      ("method", .string e.method), ("path", .string e.path), ("status", .string e.status)] ++
    member? "http_status" .nat e.httpStatus ++
    [("latency_ms", .nat e.latencyMs), ("created_at", .string e.createdAt)] ++
    member? "error_code" .string e.errorCode ++ member? "error_message" .string e.errorMessage

def line (e : LogEntry) : String := e.toJson.compact

end LogEntry

/-- The log of backend calls: the most recent ones in memory and, if a file is named, every one as a
line of that file whenever it opens. A file that does not open never disturbs a call. -/
structure CallLog where
  /-- The file for the lines of entries, if one is named. -/
  path : Option String
  /-- The latest entries, oldest first. -/
  recent : List LogEntry
  /-- The entries written to the file, oldest first. -/
  written : List LogEntry

namespace CallLog

/-- How many entries are kept in memory. -/
def capacity : Nat := 256

def new (path : Option String) : CallLog := ⟨path, [], []⟩

/-- Keeps the latest entries, as many as there is room for. -/
def keepRecent (entries : List LogEntry) : List LogEntry :=
  entries.drop (entries.length - capacity)

/-- Adds an entry, to the file too if there is one and it `opens` at its path. -/
def record (log : CallLog) (opens : String → Bool) (e : LogEntry) : CallLog :=
  { log with
    recent := keepRecent (log.recent ++ [e])
    written := match log.path with
      | some path => if opens path then log.written ++ [e] else log.written
      | none => log.written }

def lines (log : CallLog) : List String := log.written.map LogEntry.line

end CallLog

end NodeGroups.Backend
