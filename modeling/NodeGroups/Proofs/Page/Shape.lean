import NodeGroups.Page.Shape
import NodeGroups.Proofs.Backend.Exchange

set_option autoImplicit false

namespace NodeGroups.Page

open Backend (Accepts Journey Request Runs Session Wrote)

theorem Status.startCommit_of_canCommit {status : Status} (ready : status.canCommit = true) :
    ∃ next, status.startCommit = .ok next := ⟨_, if_pos ready⟩

theorem Status.startCommit_of_locked {status : Status} (locked : status.canCommit = false) :
    status.startCommit = .error .commitLocked := by
  rw [startCommit, locked, if_neg Bool.false_ne_true]

namespace Shape

variable {P D : Type} (shape : Shape P D) (page : P)

/-- A commit that can begin begins with the document of the page. -/
theorem startCommit_answer : (shape.startCommit page).1 =
    if (shape.status page).canCommit then .ok (shape.document page) else .error .commitLocked := by
  unfold startCommit Status.startCommit
  cases (shape.status page).canCommit <;> rfl

theorem document_of_startCommit {page : P} {d : D} (begun : (shape.startCommit page).1 = .ok d) :
    d = shape.document page := by
  rw [startCommit_answer] at begun
  split at begun
  · exact (Except.ok.inj begun).symm
  · cases begun

theorem startCommit_left :
    ∃ status, (shape.startCommit page).2 = shape.withStatus page status := by
  unfold startCommit
  split
  · exact ⟨_, rfl⟩
  · exact ⟨shape.status page, (shape.withStatus_status page).symm⟩

/-- A commit that does not begin leaves the page as it was. -/
theorem kept_of_startCommit {e : Failure} (failed : (shape.startCommit page).1 = .error e) :
    (shape.startCommit page).2 = page := by
  unfold startCommit at failed ⊢
  cases start : (shape.status page).startCommit with
  | ok begun =>
    rw [start] at failed
    cases failed
  | error failure => rfl

theorem commit_of_begun {begun : Status} (start : (shape.status page).startCommit = .ok begun)
    (s : Session) :
    let ran := (shape.replace page (shape.document page)).run.run s
    shape.commit page s = (ran.1, shape.endCommit (shape.withStatus page begun) ran.1, ran.2) := by
  intro ran
  unfold commit startCommit
  rw [start]
  rfl

theorem commit_of_locked (locked : (shape.status page).canCommit = false)
    (s : Session) : shape.commit page s = (.error .commitLocked, page, s) := by
  unfold commit startCommit
  rw [Status.startCommit_of_locked locked]

/-- Of a page that is committed only the state changes. -/
theorem commit_left (s : Session) :
    ∃ status, (shape.commit page s).2.1 = shape.withStatus page status := by
  cases ready : (shape.status page).canCommit with
  | false =>
    rw [shape.commit_of_locked page ready]
    exact ⟨shape.status page, (shape.withStatus_status page).symm⟩
  | true =>
    obtain ⟨begun, start⟩ := Status.startCommit_of_canCommit ready
    rw [shape.commit_of_begun page start]
    exact ⟨_, shape.withStatus_withStatus page begun _⟩

/-- A commit that can begin comes out as the request that it sends. -/
theorem run_commit (ready : (shape.status page).canCommit = true) (s : Session) :
    let ran := (shape.replace page (shape.document page)).run.run s
    (shape.commit page s).1 = ran.1 ∧ (shape.commit page s).2.2 = ran.2 := by
  obtain ⟨begun, start⟩ := Status.startCommit_of_canCommit ready
  rw [shape.commit_of_begun page start]
  exact ⟨rfl, rfl⟩

/-- Across a commit holds what holds across a write, or nothing was sent. -/
theorem across_commit {R : Session → Session → Prop} (journey : Journey R)
    (writes : Runs R (shape.replace page (shape.document page))) (s : Session) :
    R s (shape.commit page s).2.2 := by
  cases ready : (shape.status page).canCommit with
  | false =>
    rw [shape.commit_of_locked page ready]
    exact journey.refl s
  | true =>
    rw [(shape.run_commit page ready s).2]
    exact writes s

end Shape

/-- How a kind of page replaces the document of its group: by a request to a path. -/
structure Writer {P D : Type} (shape : Shape P D) where
  operation : String
  pathOf : P → Paths → String
  toJson : D → Json
  replaces : ∀ page d, shape.replace page d = do
    Backend.write operation .put (pathOf page (← Backend.paths)) (toJson d)

namespace Writer

variable {P D : Type} {shape : Shape P D} (writer : Writer shape) (page : P) {s : Session}

def put (s : Session) : Request :=
  s.request .put (writer.pathOf page s.settings.paths) []
    (some (writer.toJson (shape.document page)))

theorem commit_of_accepts (ready : (shape.status page).canCommit = true)
    (accepts : Accepts s (writer.put page s)) :
    let ran := shape.commit page s
    ran.1 = .ok () ∧ ran.2.2.settings = s.settings ∧ ran.2.2.answering = s.answering ∧
      ran.2.2.sent = s.sent ++ [writer.put page s] := by
  obtain ⟨outcome, left⟩ := shape.run_commit page ready s
  obtain ⟨u, written, same⟩ :=
    Backend.write_of_accepts (writer.pathOf page) accepts writer.operation
  dsimp only
  rw [outcome, left, writer.replaces, written]
  exact ⟨rfl, same⟩

theorem wrote_commit (ready : (shape.status page).canCommit = true) (s : Session) :
    Wrote s (shape.commit page s).2.2 (writer.put page s) (shape.commit page s).1.isOk := by
  obtain ⟨outcome, left⟩ := shape.run_commit page ready s
  rw [outcome, left, writer.replaces]
  exact Backend.wrote_write (writer.pathOf page) writer.operation _

end Writer

end NodeGroups.Page
