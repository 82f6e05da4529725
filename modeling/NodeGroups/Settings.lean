import NodeGroups.Failure
import NodeGroups.Json.Decoder
import NodeGroups.Numeric.Reading
import NodeGroups.Text.Blank

set_option autoImplicit false

namespace NodeGroups

/-- How a search query is read. -/
inductive PatternMode
  /-- As a regular expression. -/
  | raw
  /-- As the text to look for. -/
  | literal
  deriving DecidableEq, Inhabited

/-- The environment variables that override settings. -/
inductive Variable
  | baseUrl
  | csrfToken
  | timeoutMs
  | patternMode
  | listWidthPad
  | logFile
  deriving DecidableEq

def Variable.all : List Variable :=
  [.baseUrl, .csrfToken, .timeoutMs, .patternMode, .listWidthPad, .logFile]

def Variable.name : Variable → String
  | .baseUrl => "GRUA_BASE_URL"
  | .csrfToken => "GRUA_CSRF_TOKEN"
  | .timeoutMs => "GRUA_TIMEOUT_MS"
  | .patternMode => "GRUA_PATTERN_MODE"
  | .listWidthPad => "GRUA_LIST_WIDTH_PAD"
  | .logFile => "GRUA_REQUEST_LOG"

/-- A variable holds no valid value. -/
def Variable.invalid (v : Variable) (detail : String) : Failure :=
  .configuration ("invalid " ++ v.name ++ ": " ++ detail)

namespace PatternMode

def name : PatternMode → String
  | .raw => "raw"
  | .literal => "literal"

/-- Reads the name of a mode, in any case and with blanks around it; each mode has a second name. -/
def ofText (text : String) : Except Failure PatternMode :=
  let word := (Text.trim text).toLower
  if word = "raw" ∨ word = "regex" then .ok .raw
  else if word = "literal" ∨ word = "escaped" then .ok .literal
  else .error (Variable.patternMode.invalid (word ++ " (expected raw|literal)"))

def names : List (String × PatternMode) := [("raw", .raw), ("literal", .literal)]

end PatternMode

structure Paths where
  classes : String := "api/classes/"
  parameters : String := "api/parameters/"
  nodes : String := "api/nodes/"
  facts : String := "api/facts/"
  configuration : String := "api/configuration/"
  rules : String := "api/rules/"
  groupVariables : String := "api/variables/"
  environments : String := "api/environments/"
  synchronization : String := "api/master_zones/refresh_info/"
  classification : String := "api/nodes/node_classifier/"
  deriving DecidableEq

namespace Paths

def keys : List String :=
  ["classes", "parameters", "nodes", "facts", "configuration", "rules", "variables",
    "environments", "master_zone_refresh", "node_classifier"]

/-- Reads paths; one left out has its default. -/
def decoder : Json.Decoder Paths := fun levels s => do
  let f ← Json.Decoder.fields? keys levels s
  let d : Paths := {}
  return {
    classes := ← f.withDefault "classes" d.classes .string
    parameters := ← f.withDefault "parameters" d.parameters .string
    nodes := ← f.withDefault "nodes" d.nodes .string
    facts := ← f.withDefault "facts" d.facts .string
    configuration := ← f.withDefault "configuration" d.configuration .string
    rules := ← f.withDefault "rules" d.rules .string
    groupVariables := ← f.withDefault "variables" d.groupVariables .string
    environments := ← f.withDefault "environments" d.environments .string
    synchronization := ← f.withDefault "master_zone_refresh" d.synchronization .string
    classification := ← f.withDefault "node_classifier" d.classification .string }

def toJson (e : Paths) : Json :=
  .object [("classes", .string e.classes), ("parameters", .string e.parameters),
    ("nodes", .string e.nodes), ("facts", .string e.facts),
    ("configuration", .string e.configuration), ("rules", .string e.rules),
    ("variables", .string e.groupVariables), ("environments", .string e.environments),
    ("master_zone_refresh", .string e.synchronization),
    ("node_classifier", .string e.classification)]

end Paths

/-- The settings of the console. They start from defaults or a file, and environment variables
override them; a blank variable counts as not set. -/
structure Settings where
  baseUrl : String := "http://127.0.0.1:8000"
  csrfToken : Option String := none
  timeoutMs : Nat := 10000
  patternMode : PatternMode := .literal
  /-- How much wider a list of suggestions is than its input, in single precision. -/
  listWidthPad : Numeric.Binary := Numeric.binary32.ofInt 100
  logPath : Option String := none
  paths : Paths := {}
  deriving DecidableEq

namespace Settings

open Numeric

def keys : List String :=
  ["base_url", "csrf_token", "timeout_ms", "pattern_mode", "list_width_pad", "request_log_path",
    "endpoints"]

def maxTimeout : Nat := Nat.pow 2 64 - 1

/-- Reads settings; one left out has its default. -/
def decoder : Json.Decoder Settings := fun levels s => do
  let f ← Json.Decoder.fields? keys levels s
  let d : Settings := {}
  return {
    baseUrl := ← f.withDefault "base_url" d.baseUrl .string
    csrfToken := ← f.withDefault "csrf_token" d.csrfToken (.optional .string)
    timeoutMs := ← f.withDefault "timeout_ms" d.timeoutMs (.natUpTo maxTimeout)
    patternMode := ← f.withDefault "pattern_mode" d.patternMode (.variant PatternMode.names)
    listWidthPad := ← f.withDefault "list_width_pad" d.listWidthPad .single
    logPath := ← f.withDefault "request_log_path" d.logPath (.optional .string)
    paths := ← f.withDefault "endpoints" d.paths Paths.decoder }

def toJson (s : Settings) : Json :=
  .object [("base_url", .string s.baseUrl), ("csrf_token", .ofText? s.csrfToken),
    ("timeout_ms", .nat s.timeoutMs), ("pattern_mode", .string s.patternMode.name),
    ("list_width_pad", .ofBinary s.listWidthPad), ("request_log_path", .ofText? s.logPath),
    ("endpoints", s.paths.toJson)]

/-- Whether a base URL, without blanks around it, has a scheme for the web. -/
def hasWebScheme (base : List Char) : Bool :=
  "http://".toList.isPrefixOf base || "https://".toList.isPrefixOf base

/-- Checks the base URL and then the time limit. -/
def validate (s : Settings) : Except Failure Unit :=
  let base := Text.trim s.baseUrl
  if !hasWebScheme base.toList then
    .error (.configuration ("base_url must be an http(s) URL: " ++ base))
  else if s.timeoutMs = 0 then
    .error (.configuration "timeout_ms must be greater than zero")
  else .ok ()

/-- The text of a variable without blanks around it, unless it is blank. -/
def given (lookup : String → Option String) (v : Variable) : Option String :=
  match lookup v.name with
  | none => none
  | some raw =>
    let text := Text.trim raw
    if text = "" then none else some text

/-- A finite width that is not below zero, in single precision. -/
def widthOfText? (text : String) : Option Binary :=
  (binary32.ofText? text).filter fun x => x.isFinite && x.isNonnegative

/-- A setting from its variable, if that is given. -/
def override {α : Type} (lookup : String → Option String) (v : Variable) (base : α)
    (read : String → Except Failure α) : Except Failure α :=
  match given lookup v with
  | none => .ok base
  | some text => read text

/-- A variable whose text has a value, or else is invalid. -/
def readBy {α : Type} (v : Variable) (read : String → Option α) (text : String) :
    Except Failure α :=
  match read text with
  | some a => .ok a
  | none => .error (v.invalid text)

/-- The settings with those of the environment over them. The first invalid variable in the order
time limit, pattern mode, width fails; then the result is validated. -/
def withEnvironment (s : Settings) (lookup : String → Option String) : Except Failure Settings := do
  let timeoutMs ← override lookup .timeoutMs s.timeoutMs (readBy .timeoutMs (natOfText? maxTimeout))
  let patternMode ← override lookup .patternMode s.patternMode PatternMode.ofText
  let listWidthPad ←
    override lookup .listWidthPad s.listWidthPad (readBy .listWidthPad widthOfText?)
  let merged : Settings := {
    baseUrl := (given lookup .baseUrl).getD s.baseUrl
    csrfToken := (given lookup .csrfToken).or s.csrfToken
    timeoutMs, patternMode, listWidthPad
    logPath := (given lookup .logFile).or s.logPath
    paths := s.paths }
  merged.validate
  return merged

/-- The base URL without blanks around it and slashes at its end. -/
def baseChars (s : Settings) : List Char :=
  Text.dropEndWhile (· == '/') (Text.trimChars s.baseUrl.toList)

/-- A path of the backend as a URL, joined to the base with one slash. -/
def url (s : Settings) (path : String) : String :=
  String.ofList (s.baseChars ++ '/' :: path.toList.dropWhile (· == '/'))

end Settings

end NodeGroups
