import NodeGroups.Settings
import NodeGroups.Toml.Reader

set_option autoImplicit false

namespace NodeGroups

namespace Toml

def string? : Toml → Option String
  | .string s => some s
  | _ => none

def nat? : Toml → Option Nat
  | .integer (.ofNat n) => some n
  | _ => none

def single? : Toml → Option Numeric.Binary
  | .integer n => some (Numeric.binary32.ofInt n)
  | .float x => some (Numeric.binary32.convert x)
  | _ => none

/-- One of a list of names: a string, or the only key of a table under which nothing stands. -/
def variant? {α : Type} (names : List (String × α)) : Toml → Option α
  | .string s => names.lookup s
  | .table [(s, .table [])] => names.lookup s
  | .table [(s, .array [])] => names.lookup s
  | _ => none

/-- A member that may be left out. -/
def member {α : Type} (members : List (String × Toml)) (key : String) (default : α)
    (read : Toml → Option α) : Option α :=
  match members.lookup key with
  | none => some default
  | some v => read v

end Toml

namespace Paths

/-- The paths with these members; one left out has its default. -/
def ofMembers? (ms : List (String × Toml)) : Option Paths :=
  let d : Paths := {}
  let path := fun key default => Toml.member ms key default Toml.string?
  return {
    classes := ← path "classes" d.classes
    parameters := ← path "parameters" d.parameters
    nodes := ← path "nodes" d.nodes
    facts := ← path "facts" d.facts
    configuration := ← path "configuration" d.configuration
    rules := ← path "rules" d.rules
    groupVariables := ← path "variables" d.groupVariables
    environments := ← path "environments" d.environments
    synchronization := ← path "master_zone_refresh" d.synchronization
    classification := ← path "node_classifier" d.classification }

/-- The paths of a settings file: a table, or an array of them in order. A date has no paths. -/
def ofToml? : Toml → Option Paths
  | .table ms => ofMembers? ms
  | .array items => ofMembers? (keys.zip items)
  | .moment => some {}
  | _ => none

end Paths

namespace Settings

/-- The settings with these members; one left out has its default. -/
def ofMembers? (ms : List (String × Toml)) : Option Settings :=
  let d : Settings := {}
  return {
    baseUrl := ← Toml.member ms "base_url" d.baseUrl Toml.string?
    csrfToken := ← Toml.member ms "csrf_token" d.csrfToken (fun v => v.string?.map some)
    timeoutMs := ← Toml.member ms "timeout_ms" d.timeoutMs Toml.nat?
    patternMode := ← Toml.member ms "pattern_mode" d.patternMode (Toml.variant? PatternMode.names)
    listWidthPad := ← Toml.member ms "list_width_pad" d.listWidthPad Toml.single?
    logPath :=
      ← Toml.member ms "request_log_path" d.logPath (fun v => v.string?.map some)
    paths := ← Toml.member ms "endpoints" d.paths Paths.ofToml? }

/-- The valid settings of a file. -/
def ofFile (text : String) : Except Failure Settings :=
  match Toml.parse? text >>= ofMembers? with
  | none => .error .toml
  | some s => do
    s.validate
    return s

end Settings

end NodeGroups
