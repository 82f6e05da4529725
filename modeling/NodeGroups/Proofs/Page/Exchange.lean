import NodeGroups.Page.Zone
import NodeGroups.Proofs.Backend.Exchange
import NodeGroups.Proofs.Page.Reload

set_option autoImplicit false

namespace NodeGroups.Page

open Backend (Accepts Continues Journey ReadsOnly Session Wrote)

namespace ClassesPage

section Journey

variable {R : Session → Session → Prop} (journey : Journey R)

include journey

theorem across_fetchParameters (page : ClassesPage) (classId : String) (s : Session) :
    R s (page.fetchParameters classId s).2 := by
  unfold fetchParameters
  have reads := journey.parametersOf classId s
  rcases answered : (Backend.parametersOf classId).run.run s with ⟨answer, t⟩
  rw [answered] at reads
  cases answer <;> exact reads

theorem across_loadAssigned (page : ClassesPage) (s : Session) (a : Document.AssignedClass) :
    R s (loadAssigned (page, s) a).2 := by
  unfold loadAssigned
  dsimp only
  split
  · rename_i id _
    exact across_fetchParameters journey _ id s
  · exact journey.refl s

theorem across_foldl (assigned : List Document.AssignedClass) (page : ClassesPage)
    (s : Session) : R s (assigned.foldl loadAssigned (page, s)).2 := by
  induction assigned generalizing page s with
  | nil => exact journey.refl s
  | cons a assigned ih => exact journey.trans (across_loadAssigned journey page s a) (ih _ _)

theorem across_load (page : ClassesPage) (s : Session) : R s (page.load s).2 := by
  unfold load
  have listed := journey.classes page.environment s
  rcases classes : (Backend.classes page.environment).run.run s with ⟨classes, t⟩
  rw [classes] at listed
  have read := journey.configurationOf page.group t
  dsimp only
  rcases answered : (Backend.configurationOf page.group).run.run t with ⟨answer, u⟩
  rw [answered] at read
  cases answer with
  | error e => exact journey.trans listed read
  | ok c => exact journey.trans (journey.trans listed read) (across_foldl journey c.classes _ u)

end Journey

theorem continues_load (page : ClassesPage) (s : Session) : Continues s (page.load s).2 :=
  across_load Continues.journey page s

end ClassesPage

namespace RulesPage

variable {page : RulesPage} {s t : Session}

/-- The status of a page that is loaded, by what became of its rules. -/
theorem status_load (page : RulesPage) (s : Session) :
    (page.load s).1.status = match ((Backend.rulesOf page.group).run.run s).1 with
      | .ok _ => page.status.startLoading.endLoading
      | .error _ =>
        (page.status.startLoading.announce .danger Failure.generalMessage).endLoading := by
  unfold load
  rcases (Backend.rulesOf page.group).run.run s with ⟨answer, t⟩
  cases answer <;> rfl

theorem group_load (page : RulesPage) (s : Session) : (page.load s).1.group = page.group := by
  unfold load
  rcases (Backend.rulesOf page.group).run.run s with ⟨answer, t⟩
  cases answer <;> rfl

theorem across_load {R : Session → Session → Prop} (journey : Journey R) (page : RulesPage)
    (s : Session) : R s (page.load s).2 := by
  unfold load
  have read := journey.rulesOf page.group s
  rcases answered : (Backend.rulesOf page.group).run.run s with ⟨answer, t⟩
  rw [answered] at read
  cases answer with
  | ok d =>
    have nodes := journey.nodes page.masterZone t
    exact journey.trans (journey.trans read nodes) (journey.facts page.masterZone _)
  | error e => exact journey.trans read (journey.facts page.masterZone t)

theorem continues_load (page : RulesPage) (s : Session) : Continues s (page.load s).2 :=
  across_load Continues.journey page s

/-- A load goes on from the call that got the rules. -/
theorem continues_load_of_ok (page : RulesPage) {d : Document.Rules}
    (got : (Backend.rulesOf page.group).run.run s = (.ok d, t)) :
    Continues t (page.load s).2 := by
  unfold load
  rw [got]
  exact (Continues.journey.nodes page.masterZone t).trans
    (Continues.journey.facts page.masterZone _)

end RulesPage

namespace VariablesPage

variable {page : VariablesPage} {s t : Session}

/-- The status of a page that is loaded, by what became of its variables. -/
theorem status_load (page : VariablesPage) (s : Session) :
    (page.load s).1.status = match ((Backend.variablesOf page.group).run.run s).1 with
      | .ok _ => page.status.startLoading.endLoading
      | .error _ =>
        (page.status.startLoading.announce .danger Failure.generalMessage).endLoading := by
  unfold load
  rcases (Backend.variablesOf page.group).run.run s with ⟨answer, t⟩
  cases answer <;> rfl

theorem group_load (page : VariablesPage) (s : Session) : (page.load s).1.group = page.group := by
  unfold load
  rcases (Backend.variablesOf page.group).run.run s with ⟨answer, t⟩
  cases answer <;> rfl

/-- A load sends nothing but the request for the variables. -/
theorem session_load (page : VariablesPage) (s : Session) :
    (page.load s).2 = ((Backend.variablesOf page.group).run.run s).2 := by
  unfold load
  rcases (Backend.variablesOf page.group).run.run s with ⟨answer, t⟩
  cases answer <;> rfl

theorem across_load {R : Session → Session → Prop} (journey : Journey R) (page : VariablesPage)
    (s : Session) : R s (page.load s).2 := by
  rw [session_load]
  exact journey.variablesOf page.group s

end VariablesPage

theorem ZonePage.wrote_synchronize (page : ZonePage) (zone : MasterZone) (s : Session) :
    Wrote s (page.synchronize zone s).2.2
      (s.request .post s.settings.paths.synchronization []
        (some (.object [("master_id", .string zone.id)])))
      (page.synchronize zone s).1.isOk :=
  Backend.wrote_write (fun p => p.synchronization) "master_zone.refresh" _

end NodeGroups.Page
