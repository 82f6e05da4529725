import NodeGroups.Failure

set_option autoImplicit false

namespace NodeGroups.Backend

inductive Method
  | get
  | put
  | post
  deriving DecidableEq

namespace Method

/-- The name of a method on the wire. -/
def name : Method → String
  | .get => "GET"
  | .put => "PUT"
  | .post => "POST"

def isWrite (m : Method) : Bool := m != .get

end Method

structure Request where
  method : Method
  url : String
  query : List (String × String)
  headers : List (String × String)
  body : Option Json
  deriving DecidableEq

structure Response where
  status : Nat
  body : String
  deriving DecidableEq

def Response.isSuccess (r : Response) : Bool := 200 ≤ r.status && r.status < 300

/-- How a backend answers: given the requests that it got before, oldest first, and a new one. Only
a broken connection is a failure; a refusal is a response. -/
abbrev Answering := List Request → Request → Except Failure Response

end NodeGroups.Backend
