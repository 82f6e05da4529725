import NodeGroups.Backend.Calls
import NodeGroups.Text.Blank

set_option autoImplicit false

namespace NodeGroups.Page

open Backend (Session)
open Document (Environment)

/-- A tag as it is kept: without double quotes. -/
def tagOfText (raw : String) : String := String.ofList (raw.toList.filter (· != '"'))

/-- What was filled in so far. -/
structure GroupDraft where
  masterZone : Option String
  /-- The environments to choose from; without them there is a placeholder. -/
  environments : Option (List Environment)
  tags : List String
  deriving DecidableEq

namespace GroupDraft

def new : GroupDraft := ⟨none, none, []⟩

/-- Chooses a master zone and fetches its environments; the empty text chooses none. -/
def chooseZone (d : GroupDraft) (masterZone : String) (s : Session) : GroupDraft × Session :=
  if masterZone = "" then ({ d with masterZone := none, environments := none }, s)
  else
    let (environments, s) := (Backend.environmentsOf masterZone).run.run s
    ({ d with masterZone := some masterZone, environments := environments.toOption }, s)

/-- Adds a tag, unless it is blank or there already. -/
def attach (d : GroupDraft) (raw : String) : Option String × GroupDraft :=
  let tag := tagOfText raw
  if Text.isBlankText tag || d.tags.contains tag then (none, d)
  else (some tag, { d with tags := d.tags ++ [tag] })

def detach (d : GroupDraft) (tag : String) : Bool × GroupDraft :=
  (d.tags.contains tag, { d with tags := d.tags.filter (· != tag) })

def toJson (d : GroupDraft) : Json :=
  .object [("master_zone", .ofText? d.masterZone),
    ("environments", match d.environments with
      | none => .object [("kind", .string "placeholder")]
      | some es =>
        .object [("kind", .string "loaded"), ("options", .ofList Environment.toJson es)]),
    ("tags", .ofList .string d.tags)]

end GroupDraft

end NodeGroups.Page
