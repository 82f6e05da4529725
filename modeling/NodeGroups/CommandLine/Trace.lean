import NodeGroups.Failure

set_option autoImplicit false

namespace NodeGroups.CommandLine

/-- Why a command failed. -/
structure Trace where
  /-- What was being done, outermost first. -/
  notes : List String
  failure : Option Failure
  deriving DecidableEq

namespace Trace

def ofFailure (f : Failure) : Trace := ⟨[], some f⟩

def ofNote (note : String) : Trace := ⟨[note], none⟩

/-- Adds what was being done around a failure. -/
def within (note : String) (t : Trace) : Trace := { t with notes := note :: t.notes }

def texts (t : Trace) : List String := t.notes ++ (t.failure.map Failure.message).toList

end Trace

def noted {α : Type} (note : String) : Except Failure α → Except Trace α
  | .ok a => .ok a
  | .error f => .error (.within note (.ofFailure f))

end NodeGroups.CommandLine
