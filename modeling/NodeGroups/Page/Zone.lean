import NodeGroups.Backend.Calls
import NodeGroups.Page.Status

set_option autoImplicit false

namespace NodeGroups.Page

open Backend (Session)

/-- A master zone and the name it is shown by. -/
structure MasterZone where
  id : String
  label : String
  deriving DecidableEq

structure ZonePage where
  banner : Option Banner
  deriving DecidableEq

namespace ZonePage

def new : ZonePage := ⟨none⟩

/-- The banner of an attempt. -/
def bannerOf (zone : MasterZone) : Except Failure Unit → Banner
  | .ok _ => ⟨.success, "Data sync started in Master Zone: " ++ zone.label⟩
  | .error _ => ⟨.danger, "A problem ocurred starting sync in Master Zone: " ++ zone.label⟩

def synchronize (_ : ZonePage) (zone : MasterZone) (s : Session) :
    Except Failure Unit × ZonePage × Session :=
  let (outcome, s) := (Backend.synchronize zone.id).run.run s
  (outcome, ⟨some (bannerOf zone outcome)⟩, s)

def hideBanner (_ : ZonePage) : ZonePage := ⟨none⟩

end ZonePage

end NodeGroups.Page
