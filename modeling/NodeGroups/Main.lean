import NodeGroups.CommandLine.Layers
import NodeGroups.CommandLine.Reader
import NodeGroups.CommandLine.Run

/-!
The program. It reads the command line, the settings file and the environment, runs the command, and
prints the report or says why there is none.

The process that started it carries its requests: every request is a line on standard error, and its
response, an object with `status` and `body`, is the next line on standard input.
-/

set_option autoImplicit false

namespace NodeGroups.CommandLine

open Backend (Answering Request Response Session)

def usageText : String :=
  "Usage: nodegroups [--config FILE] [--base-url URL] [--csrf-token TOKEN] [--raw-patterns]" ++
  " COMMAND\n" ++
  "Commands: search, classes show, rules show|pin|unpin, variables show|set|unset, sync, classify"

def versionText : String := "nodegroups 0.3.0"

/-- A request as it is handed to the carrier. -/
def requestLine (r : Request) : Json :=
  let pairs := Json.ofList fun p : String × String => .array [.string p.1, .string p.2]
  .object [("method", .string r.method.name), ("url", .string r.url), ("query", pairs r.query),
    ("headers", pairs r.headers), ("body", .ofOption id r.body)]

def responseDecoder : Json.Decoder Response := fun levels s => do
  let f ← Json.Decoder.fields? ["status", "body"] levels s
  return { status := ← f.required "status" (.natUpTo 999), body := ← f.required "body" .string }

/-- Has a request carried. A line that is no response means that the connection failed. -/
def carry (r : Request) : IO (Except Failure Response) := do
  IO.eprintln (requestLine r).compact
  let line ← (← IO.getStdin).getLine
  match responseDecoder.ofText? line with
  | some response => return .ok response
  | none => return .error .http

/-- Runs a command, given the responses to its first requests. As long as it sends a request that
has no response yet, this one is carried and the command run again: up to there it does the same.
The log keeps every line, since the file shows only then whether it opens. -/
partial def converse (settings : Settings) (command : Command)
    (responses : List (Except Failure Response)) : IO (Except Trace Json × Session) := do
  let answering : Answering := fun sent _ => responses[sent.length]?.getD (.error .http)
  let (outcome, last) := (perform command).run.run (.start settings answering fun _ _ => true)
  match last.sent[responses.length]? with
  | none => return (outcome, last)
  | some request => converse settings command (responses ++ [← carry request])

/-- Reads the settings file, if the flags name one. -/
def readFile (path : String) : IO (Except Failure String) := do
  match ← (IO.FS.readFile path).toBaseIO with
  | .ok text => return .ok text
  | .error (.noFileOrDirectory ..) => return .error Directory.Fault.absent.failure
  | .error e => return .error (.io (toString e))

/-- What the run sees of its surroundings. -/
def look (flags : Flags) : IO Surroundings := do
  let text ← match flags.file with
    | some path => readFile path
    | none => pure (.ok "")
  let values ← Variable.all.mapM fun v => do return (v.name, ← IO.getEnv v.name)
  return ⟨fun _ => text, fun name => (values.lookup name).join⟩

/-- Appends a line to a file. A file that does not open is passed over. -/
def appendLine (path line : String) : IO Unit := do
  try
    (← IO.FS.Handle.mk path .append).putStrLn line
  catch _ => return

def complain (t : Trace) : IO UInt32 := do
  IO.eprintln ("Error: " ++ ": ".intercalate t.texts)
  return 1

def runCommand (invocation : Invocation) : IO UInt32 := do
  match invocation.flags.settings (← look invocation.flags) with
  | .error t => complain t
  | .ok settings =>
    let (outcome, last) ← converse settings invocation.command []
    if let some path := settings.logPath then
      last.log.lines.forM (appendLine path)
    IO.print (printed outcome)
    match outcome with
    | .ok _ => return 0
    | .error t => complain t

def program (args : List String) : IO UInt32 := do
  match Invocation.ofArguments args with
  | .ok invocation => runCommand invocation
  | .error .help => do
    IO.println usageText
    return 0
  | .error .version => do
    IO.println versionText
    return 0
  | .error _ => do
    IO.eprintln usageText
    return 2

end NodeGroups.CommandLine

def main (args : List String) : IO UInt32 := NodeGroups.CommandLine.program args
