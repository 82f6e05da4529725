import Mathlib.Data.List.Induction
import NodeGroups.Proofs.Page.Shape

set_option autoImplicit false

namespace NodeGroups.Page

/-- What a page says, and whether it shows edits and has a commit under way. -/
structure View (Doc : Type) where
  document : Doc
  edited : Bool
  committing : Bool

/-- What happens to the document of a page. -/
inductive Happening (Doc : Type)
  /-- A load succeeded, and the page says this. -/
  | loaded (d : Doc)
  /-- The page was edited to say this. -/
  | edited (d : Doc)
  /-- A commit of this document began. -/
  | begun (d : Doc)
  /-- A commit was finished, and succeeded or not. -/
  | ended (succeeded : Bool)

/-- How a page goes on, and what happens meanwhile. -/
inductive Move {Doc : Type} (v : View Doc) : List (Happening Doc) → View Doc → Prop
  | stay : Move v [] v
  | load (d : Doc) : Move v [.loaded d] { v with document := d }
  | edit (d : Doc) : Move v [.edited d] { v with document := d, edited := true }
  | start : Move v [.begun v.document] { v with committing := true }
  | finish (succeeded : Bool) :
      Move v [.ended succeeded] { v with edited := v.edited && !succeeded, committing := false }
  | commit (succeeded : Bool) :
      Move v [.begun v.document, .ended succeeded]
        { v with edited := v.edited && !succeeded, committing := false }

/-- What a page with this status shows beside its document. -/
def View.of {Doc : Type} (d : Doc) (s : Status) : View Doc := ⟨d, s.edited, s.committing⟩

namespace Happening

variable {Doc : Type}

/-- What happens if something is done, and nothing if it is refused. -/
def ifOk {α : Type} (answer : Except Failure α) (done : List (Happening Doc)) :
    List (Happening Doc) :=
  match answer with
  | .ok _ => done
  | .error _ => []

/-- A commit begins, unless it is refused, and then goes on. -/
def ofStart (answer : Except Failure Doc) (onward : List (Happening Doc)) : List (Happening Doc) :=
  match answer with
  | .ok d => .begun d :: onward
  | .error _ => []

end Happening

namespace Move

variable {Doc : Type} {s begun : Status}

theorem of_startCommit (d : Doc) (ok : s.startCommit = .ok begun) :
    Move (.of d s) [.begun d] (.of d begun) := by
  unfold Status.startCommit at ok
  split at ok
  · cases ok
    exact .start
  · cases ok

theorem of_endCommit (d : Doc) (s : Status) (rearm : Bool) (outcome : Except String String) :
    Move (.of d s) [.ended outcome.isOk] (.of d (s.endCommit rearm outcome)) := by
  cases outcome with
  | ok message =>
    have move := Move.finish (v := .of d s) true
    rwa [Bool.not_true, Bool.and_false] at move
  | error message =>
    have move := Move.finish (v := .of d s) false
    rwa [Bool.not_false, Bool.and_true] at move

theorem of_commit (d : Doc) (ok : s.startCommit = .ok begun) (rearm : Bool)
    (outcome : Except String String) :
    Move (.of d s) [.begun d, .ended outcome.isOk] (.of d (begun.endCommit rearm outcome)) := by
  have kept : begun.edited = s.edited := by
    unfold Status.startCommit at ok
    split at ok
    · cases ok
      rfl
    · cases ok
  cases outcome with
  | ok message =>
    have move := Move.commit (v := .of d s) true
    rwa [Bool.not_true, Bool.and_false] at move
  | error message =>
    have move := Move.commit (v := .of d s) false
    rwa [Bool.not_false, Bool.and_true, show (View.of d s).edited = begun.edited from kept.symm]
      at move

end Move

namespace Shape

variable {P Doc : Type} (shape : Shape P Doc) (page : P)

def view : View Doc := .of (shape.document page) (shape.status page)

theorem view_withStatus (s : Status) :
    shape.view (shape.withStatus page s) = .of (shape.document page) s := by
  rw [view, shape.document_withStatus, shape.status_withStatus]

theorem move_startCommit :
    Move (shape.view page) (Happening.ofStart (shape.startCommit page).1 [])
      (shape.view (shape.startCommit page).2) := by
  unfold startCommit
  cases begun : (shape.status page).startCommit with
  | ok status =>
    dsimp only
    rw [view_withStatus]
    exact .of_startCommit (shape.document page) begun
  | error failure => exact .stay

theorem move_endCommit (outcome : Except Failure Unit) :
    Move (shape.view page) [.ended outcome.isOk] (shape.view (shape.endCommit page outcome)) := by
  unfold endCommit
  rw [view_withStatus]
  cases outcome with
  | ok done => exact .of_endCommit _ _ _ (.ok shape.updated)
  | error failure => exact .of_endCommit _ _ _ (.error (shape.refusal failure))

theorem move_commit (s : Backend.Session) :
    Move (shape.view page)
      (Happening.ofStart (shape.startCommit page).1 [.ended (shape.commit page s).1.isOk])
      (shape.view (shape.commit page s).2.1) := by
  cases begun : (shape.status page).startCommit with
  | ok status =>
    rw [shape.commit_of_begun page begun, startCommit, begun]
    unfold endCommit
    dsimp only
    rw [shape.withStatus_withStatus, view_withStatus, shape.status_withStatus]
    cases ((shape.replace page (shape.document page)).run.run s).1 with
    | ok done => exact .of_commit (shape.document page) begun _ (.ok shape.updated)
    | error failure =>
      exact .of_commit (shape.document page) begun _ (.error (shape.refusal failure))
  | error failure =>
    rw [commit, startCommit, begun]
    exact .stay

end Shape

/-- The documents that a page is compared with. -/
structure Ledger (Doc : Type) where
  /-- What the page said after the last load that succeeded. -/
  loaded : Doc
  /-- What the commit under way began with. -/
  begun : Option Doc
  /-- What the last commit that succeeded began with. -/
  saved : Option Doc

namespace Ledger

variable {Doc : Type}

def enter (l : Ledger Doc) : Happening Doc → Ledger Doc
  | .loaded d => { l with loaded := d }
  | .edited _ => l
  | .begun d => { l with begun := some d }
  | .ended true => { l with begun := none, saved := l.begun }
  | .ended false => { l with begun := none }

/-- A document is what was loaded last or what was saved last. -/
def Covers (l : Ledger Doc) (d : Doc) : Prop := d = l.loaded ∨ l.saved = some d

end Ledger

/-- A kind of page with a document that is loaded, edited and committed. -/
structure Kind (Page Action Doc : Type) where
  view : Page → View Doc
  act : Page → Action → Page
  happenings : Page → Action → List (Happening Doc)
  /-- What holds of every page of this kind. -/
  Sound : Page → Prop
  sound_act : ∀ page a, Sound page → Sound (act page a)
  moves : ∀ page a, Sound page → Move (view page) (happenings page a) (view (act page a))

namespace Kind

variable {Page Action Doc : Type} (kind : Kind Page Action Doc)

def after (start : Page) (actions : List Action) : Page := actions.foldl kind.act start

/-- What happens in the course of actions, first things first. -/
def history (start : Page) : List Action → List (Happening Doc)
  | [] => []
  | a :: actions => kind.happenings start a ++ history (kind.act start a) actions

/-- The ledger after actions on a page that was just loaded. -/
def ledger (start : Page) (actions : List Action) : Ledger Doc :=
  (kind.history start actions).foldl Ledger.enter ⟨(kind.view start).document, none, none⟩

/-- Unless the page shows edits after actions, it says what was loaded or saved last. -/
def Clean (start : Page) (actions : List Action) : Prop :=
  (kind.view (kind.after start actions)).edited = false →
    (kind.ledger start actions).Covers (kind.view (kind.after start actions)).document

def StaysClean (start : Page) (actions : List Action) : Prop :=
  ∀ past, past <+: actions → kind.Clean start past

/-- Whenever a commit that began before succeeds, the page says what it began with, or what was
loaded last. -/
def EndsInTime (start : Page) (actions : List Action) : Prop :=
  ∀ past a, past ++ [a] <+: actions →
    kind.happenings (kind.after start past) a = [.ended true] →
      (kind.ledger start past).begun = some (kind.view (kind.after start past)).document ∨
        (kind.view (kind.after start past)).document = (kind.ledger start past).loaded

/-- A commit is finished only if one is under way. -/
def Paired (start : Page) (actions : List Action) : Prop :=
  ∀ past a succeeded, past ++ [a] <+: actions →
    kind.happenings (kind.after start past) a = [.ended succeeded] →
      (kind.view (kind.after start past)).committing = true

/-- The page is edited only if no commit is under way. -/
def EditsApart (start : Page) (actions : List Action) : Prop :=
  ∀ past a d, past ++ [a] <+: actions →
    kind.happenings (kind.after start past) a = [.edited d] →
      (kind.view (kind.after start past)).committing = false

variable {kind} {start : Page}

theorem after_concat (actions : List Action) (a : Action) :
    kind.after start (actions ++ [a]) = kind.act (kind.after start actions) a := by
  rw [after, List.foldl_append]
  rfl

theorem history_concat (start : Page) (actions : List Action) (a : Action) :
    kind.history start (actions ++ [a]) =
      kind.history start actions ++ kind.happenings (kind.after start actions) a := by
  induction actions generalizing start with
  | nil => exact List.append_nil _
  | cons b actions ih =>
    rw [List.cons_append, history, ih, history, List.append_assoc]
    rfl

theorem ledger_concat (actions : List Action) (a : Action) :
    kind.ledger start (actions ++ [a]) =
      (kind.happenings (kind.after start actions) a).foldl Ledger.enter
        (kind.ledger start actions) := by
  rw [ledger, history_concat, List.foldl_append]
  rfl

theorem sound_after (sound : kind.Sound start) (actions : List Action) :
    kind.Sound (kind.after start actions) := by
  induction actions using List.reverseRecOn with
  | nil => exact sound
  | append_singleton actions a ih =>
    rw [after_concat]
    exact kind.sound_act _ a ih

/-- The move that the last of some actions makes. -/
theorem moves_after (sound : kind.Sound start) (actions : List Action) (a : Action) :
    Move (kind.view (kind.after start actions)) (kind.happenings (kind.after start actions) a)
      (kind.view (kind.after start (actions ++ [a]))) := by
  rw [after_concat]
  exact kind.moves _ a (sound_after sound actions)

/-- Every move but the success of a commit that began before keeps a page clean. -/
theorem Clean.concat {past : List Action} (sound : kind.Sound start) (clean : kind.Clean start past)
    (a : Action) (inTime : kind.happenings (kind.after start past) a = [.ended true] →
      (kind.ledger start past).begun = some (kind.view (kind.after start past)).document ∨
        (kind.view (kind.after start past)).document = (kind.ledger start past).loaded) :
    kind.Clean start (past ++ [a]) := by
  have move := moves_after sound past a
  unfold Clean at clean ⊢
  rw [ledger_concat]
  generalize kind.happenings (kind.after start past) a = happened at move inTime ⊢
  generalize kind.view (kind.after start (past ++ [a])) = next at move ⊢
  cases move with
  | stay => exact clean
  | load d => exact fun _ => .inl rfl
  | edit d => exact fun unedited => nomatch unedited
  | start => exact clean
  | finish succeeded =>
    cases succeeded with
    | true => exact fun _ => (inTime rfl).symm
    | false => exact fun unedited => clean (by simpa using unedited)
  | commit succeeded =>
    cases succeeded with
    | true => exact fun _ => .inr rfl
    | false => exact fun unedited => clean (by simpa using unedited)

/-- A page is clean in every state of a run just if no commit that began before succeeds when the
page says something else by then. -/
theorem staysClean_iff (sound : kind.Sound start) (actions : List Action) :
    kind.StaysClean start actions ↔ kind.EndsInTime start actions := by
  constructor
  · intro clean past a run ends
    have cleared := clean (past ++ [a]) run
    have move := moves_after sound past a
    unfold Clean at cleared
    rw [ledger_concat] at cleared
    rw [ends] at move cleared
    generalize kind.view (kind.after start (past ++ [a])) = next at move cleared
    cases move with
    | finish => exact (cleared (by simp)).symm
  · intro inTime past
    induction past using List.reverseRecOn with
    | nil => exact fun _ _ => .inl rfl
    | append_singleton past a ih =>
      intro run
      have before : past <+: actions := (List.prefix_append past [a]).trans run
      exact (ih before).concat sound a (inTime past a run)

/-- While a commit is under way that no edit overtook, the page says what the commit began with, or
what was loaded since. -/
theorem begun_of_committing (sound : kind.Sound start) {actions : List Action}
    (apart : kind.EditsApart start actions) {past : List Action} (run : past <+: actions)
    (committing : (kind.view (kind.after start past)).committing = true) :
    (kind.ledger start past).begun = some (kind.view (kind.after start past)).document ∨
      (kind.view (kind.after start past)).document = (kind.ledger start past).loaded := by
  induction past using List.reverseRecOn with
  | nil => exact .inr rfl
  | append_singleton past a ih =>
    have move := moves_after sound past a
    have undisturbed := fun d => apart past a d run
    have onward := ih ((List.prefix_append past [a]).trans run)
    rw [ledger_concat]
    generalize kind.happenings (kind.after start past) a = happened at move undisturbed ⊢
    generalize kind.view (kind.after start (past ++ [a])) = next at move committing ⊢
    cases move with
    | stay => exact onward committing
    | load d => exact .inr rfl
    | edit d =>
      rw [undisturbed d rfl] at committing
      cases committing
    | start => exact .inl rfl
    | finish succeeded => cases committing
    | commit succeeded => cases committing

/-- A page that is not edited while a commit is under way stays clean. -/
theorem staysClean_of_editsApart (sound : kind.Sound start) {actions : List Action}
    (paired : kind.Paired start actions) (apart : kind.EditsApart start actions) :
    kind.StaysClean start actions := by
  refine (staysClean_iff sound actions).mpr fun past a run ends => ?_
  exact begun_of_committing sound apart ((List.prefix_append past [a]).trans run)
    (paired past a true run ends)

end Kind

end NodeGroups.Page
