import NodeGroups.CommandLine.Command
import NodeGroups.CommandLine.Trace
import NodeGroups.Settings.File

set_option autoImplicit false

namespace NodeGroups.CommandLine

/-- What a run sees of its surroundings. -/
structure Surroundings where
  file : String → Except Failure String
  environment : String → Option String

namespace Flags

def override (flags : Flags) (s : Settings) : Settings :=
  { s with
    baseUrl := flags.baseUrl.getD s.baseUrl
    csrfToken := flags.csrfToken.or s.csrfToken
    patternMode := if flags.rawPatterns then .raw else s.patternMode }

/-- The settings of the file, or the defaults if there is none. -/
def base (flags : Flags) (file : String → Except Failure String) : Except Failure Settings :=
  match flags.file with
  | none => .ok {}
  | some path => file path >>= Settings.ofFile

/-- The settings of the file and the environment. -/
def loaded (flags : Flags) (around : Surroundings) : Except Failure Settings := do
  (← flags.base around.file).withEnvironment around.environment

/-- What is being done when the file and the environment are read. -/
def loadingNote (flags : Flags) : String :=
  match flags.file with
  | none => "failed to load configuration"
  | some path => "failed to load configuration from " ++ path

def apply (flags : Flags) (s : Settings) : Except Trace Settings := do
  noted "invalid command-line flags" (flags.override s).validate
  return flags.override s

/-- The settings of a run: defaults or a settings file, over them the environment, and over both the
flags. Every layer leaves valid settings or fails. -/
def settings (flags : Flags) (around : Surroundings) : Except Trace Settings := do
  flags.apply (← noted flags.loadingNote (flags.loaded around))

end Flags

end NodeGroups.CommandLine
