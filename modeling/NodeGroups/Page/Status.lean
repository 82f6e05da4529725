import NodeGroups.Failure

set_option autoImplicit false

namespace NodeGroups.Page

inductive BannerKind
  | success
  | danger
  deriving DecidableEq

def BannerKind.name : BannerKind → String
  | .success => "success"
  | .danger => "danger"

/-- A text shown at the top of a page. -/
structure Banner where
  kind : BannerKind
  text : String
  deriving DecidableEq

def Banner.toJson (b : Banner) : Json :=
  .object [("kind", .string b.kind.name), ("text", .string b.text)]

/-- The state of a page. A commit begins only when there is something to commit and none is in
flight, and it stays locked until it is finished. -/
structure Status where
  /-- The page holds edits that were not committed. -/
  edited : Bool
  /-- The commit action can be used. -/
  armed : Bool
  /-- A commit has begun and is not finished. -/
  committing : Bool
  /-- Something is being loaded or committed. -/
  busy : Bool
  banner : Option Banner
  deriving DecidableEq

namespace Status

def initial : Status := ⟨false, false, false, false, none⟩

instance : Inhabited Status := ⟨initial⟩

def markEdited (s : Status) : Status := { s with edited := true, armed := true }

def canCommit (s : Status) : Bool := s.armed && !s.committing

/-- Begins a commit, if one can begin. -/
def startCommit (s : Status) : Except Failure Status :=
  if s.canCommit then
    .ok { s with armed := false, committing := true, busy := true }
  else .error .commitLocked

/-- Shows a banner in place of the one there. -/
def announce (s : Status) (kind : BannerKind) (text : String) : Status :=
  { s with banner := some ⟨kind, text⟩ }

def hideBanner (s : Status) : Status := { s with banner := none }

def startLoading (s : Status) : Status := { s with busy := true }

def endLoading (s : Status) : Status := { s with busy := false }

/-- Finishes a commit with a message of success or, `.error`, of failure. After a failure the commit
action can be used again at once if `rearm` says so, and otherwise after the next edit. -/
def endCommit (s : Status) (rearm : Bool) (outcome : Except String String) : Status :=
  let s := { s with committing := false, busy := false }
  match outcome with
  | .ok message => { s with edited := false }.announce .success message
  | .error message =>
    { s with armed := s.armed || rearm }.announce .danger message

def toJson (s : Status) : Json :=
  .object [("dirty", .bool s.edited), ("commit_enabled", .bool s.armed),
    ("commit_in_flight", .bool s.committing), ("loading", .bool s.busy),
    ("banner", .ofOption Banner.toJson s.banner)]

end Status

end NodeGroups.Page
