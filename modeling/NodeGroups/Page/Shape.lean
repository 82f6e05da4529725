import NodeGroups.Backend.Calls
import NodeGroups.Page.Status

set_option autoImplicit false

namespace NodeGroups.Page

open Backend (Session)

/-- A kind of page that holds a document. -/
structure Shape (Page Doc : Type) where
  status : Page → Status
  withStatus : Page → Status → Page
  document : Page → Doc
  /-- Replaces the document of the group of a page. -/
  replace : Page → Doc → Backend.Call Unit
  updated : String
  refusal : Failure → String
  /-- After a failure the commit can be tried again at once. -/
  rearm : Bool
  withStatus_status : ∀ page, withStatus page (status page) = page
  status_withStatus : ∀ page s, status (withStatus page s) = s
  withStatus_withStatus : ∀ page s t, withStatus (withStatus page s) t = withStatus page t
  document_withStatus : ∀ page s, document (withStatus page s) = document page

namespace Shape

variable {Page Doc : Type} (shape : Shape Page Doc) (page : Page)

/-- Begins a commit and gives the document to be written. -/
def startCommit : Except Failure Doc × Page :=
  match (shape.status page).startCommit with
  | .ok status => (.ok (shape.document page), shape.withStatus page status)
  | .error failure => (.error failure, page)

def endCommit (outcome : Except Failure Unit) : Page :=
  let shown := match outcome with
    | .ok _ => .ok shape.updated
    | .error failure => .error (shape.refusal failure)
  shape.withStatus page ((shape.status page).endCommit shape.rearm shown)

def commit (s : Session) : Except Failure Unit × Page × Session :=
  match shape.startCommit page with
  | (.error failure, page) => (.error failure, page, s)
  | (.ok document, begun) =>
    let (outcome, s) := (shape.replace page document).run.run s
    (outcome, shape.endCommit begun outcome, s)

def hideBanner : Page := shape.withStatus page (shape.status page).hideBanner

end Shape

end NodeGroups.Page
