import NodeGroups.Pattern.Footprint
import NodeGroups.Pattern.Meaning
import NodeGroups.Pattern.Program
import NodeGroups.Pattern.Reader

set_option autoImplicit false

namespace NodeGroups.Pattern

/-- Why a text is refused as a pattern. -/
inductive Refusal
  | malformed
  | tooLarge
  deriving DecidableEq

/-- The reason as a text; what is wrong with a malformed pattern follows on the next line. -/
def Refusal.message : Refusal → String
  | .malformed => "regex parse error:\n"
  | .tooLarge =>
    "Compiled regex exceeds size limit of " ++ toString maxFootprint ++ " bytes."

def compile (text : String) : Except Refusal Program :=
  match Syntax.parse? text.toList >>= Syntax.regex? {} with
  | none => .error .malformed
  | some (r, _) => if r.footprint ≤ maxFootprint then .ok r.program else .error .tooLarge

end NodeGroups.Pattern
