import NodeGroups.Proofs.Page.RulesHistory
import NodeGroups.Proofs.Page.Unsaved
import NodeGroups.Proofs.Page.VariablesHistory

set_option autoImplicit false

namespace NodeGroups.Page

open Backend (Session)
open Happening (ifOk ofStart)

namespace Happening

variable {Doc : Type}

/-- What leaves the document of a page as it is. -/
def Quiet : Happening Doc → Prop
  | .loaded _ | .edited _ => False
  | .begun _ | .ended _ => True

theorem quiet_nil : ∀ h ∈ ([] : List (Happening Doc)), h.Quiet := List.forall_mem_nil _

theorem quiet_ended (succeeded : Bool) : ∀ h ∈ [(ended succeeded : Happening Doc)], h.Quiet :=
  List.forall_mem_singleton.mpr trivial

/-- A commit is quiet if what follows its beginning is. -/
theorem quiet_ofStart (answer : Except Failure Doc) {onward : List (Happening Doc)}
    (quiet : ∀ h ∈ onward, h.Quiet) : ∀ h ∈ ofStart answer onward, h.Quiet := by
  cases answer with
  | ok d => exact List.forall_mem_cons.mpr ⟨trivial, quiet⟩
  | error failure => exact quiet_nil

end Happening

theorem Move.document_of_quiet {Doc : Type} {v w : View Doc} {happened : List (Happening Doc)}
    (move : Move v happened w) (quiet : ∀ h ∈ happened, h.Quiet) : w.document = v.document := by
  cases move with
  | stay => rfl
  | load d => exact (quiet _ (List.mem_singleton_self _)).elim
  | edit d => exact (quiet _ (List.mem_singleton_self _)).elim
  | start => rfl
  | finish succeeded => rfl
  | commit succeeded => rfl

namespace Kind

variable {Page Action Doc : Type} {kind : Kind Page Action Doc}

/-- The actions of a kind of page that load or edit it. All others are quiet, and an edit marks the
page unless it leaves its document as it was. -/
structure Edits (kind : Kind Page Action Doc) where
  status : Page → Status
  isLoad : Action → Bool
  isEdit : Action → Bool
  quiet : ∀ page a, isLoad a = false → isEdit a = false → ∀ h ∈ kind.happenings page a, h.Quiet
  marks : ∀ page a, isEdit a = true →
    (kind.view (kind.act page a)).document = (kind.view page).document ∨
      status (kind.act page a) = (status page).markEdited

variable {page : Page} {a : Action}

theorem Edits.document_act (edits : kind.Edits) (sound : kind.Sound page)
    (noLoad : edits.isLoad a = false) (noEdit : edits.isEdit a = false) :
    (kind.view (kind.act page a)).document = (kind.view page).document :=
  (kind.moves page a sound).document_of_quiet (edits.quiet page a noLoad noEdit)

/-- What changes the document is an edit that marks the page. -/
theorem Edits.marked_of_changed (edits : kind.Edits) (sound : kind.Sound page)
    (noLoad : edits.isLoad a = false)
    (changed : (kind.view (kind.act page a)).document ≠ (kind.view page).document) :
    edits.status (kind.act page a) = (edits.status page).markEdited := by
  cases edit : edits.isEdit a with
  | true => exact (edits.marks page a edit).resolve_left changed
  | false => exact absurd (edits.document_act sound noLoad edit) changed

theorem Edits.armed_of_changed (edits : kind.Edits) (sound : kind.Sound page)
    (noLoad : edits.isLoad a = false)
    (changed : (kind.view (kind.act page a)).document ≠ (kind.view page).document) :
    (edits.status (kind.act page a)).edited = true ∧
      (edits.status (kind.act page a)).armed = true := by
  rw [edits.marked_of_changed sound noLoad changed]
  exact ⟨rfl, rfl⟩

end Kind

namespace ClassesPage

def Action.isEdit : Action → Bool
  | .addPanel _ | .removePanel _ | .addRow _ | .removeRow _ _ => true
  | _ => false

/-- An operation on a panel marks the page as edited, or it is refused. -/
theorem editedIfOk_marks {α : Type} (page : ClassesPage) (panel : Handle)
    (f : ClassPanel → Except Failure (α × ClassPanel)) :
    (editedIfOk (page.onPanel panel f)).2.document = page.document ∨
      (editedIfOk (page.onPanel panel f)).2.status = page.status.markEdited := by
  rcases page.onPanel_cases panel f with ⟨failure, refused⟩ | ⟨b, a, changed, -, -, next⟩
  · rw [refused]
    exact .inl rfl
  · rw [next]
    exact .inr rfl

theorem addPanel_marks (page : ClassesPage) (s : Session) :
    (page.addPanel s).2.1.document = page.document ∨
      (page.addPanel s).2.1.status = page.status.markEdited := by
  unfold addPanel
  cases page.picker.selection with
  | none => exact .inl rfl
  | some selection =>
    dsimp only
    rcases (Backend.parametersOf selection.recordId).run.run s with ⟨answer, t⟩
    cases answer with
    | error failure => exact .inl rfl
    | ok infos => exact .inr rfl

theorem removePanel_marks (page : ClassesPage) (panel : Handle) :
    (page.removePanel panel).2.document = page.document ∨
      (page.removePanel panel).2.status = page.status.markEdited := by
  unfold removePanel
  cases page.panels.get? panel with
  | none => exact .inl rfl
  | some b => exact .inr rfl

def edits : kind.Edits where
  status := ClassesPage.status
  isLoad := Action.isLoad
  isEdit := Action.isEdit
  quiet page a noLoad noEdit := by
    cases a with
    | load s => cases noLoad
    | addPanel s => cases noEdit
    | removePanel panel => cases noEdit
    | addRow panel => cases noEdit
    | removeRow panel row => cases noEdit
    | startCommit => exact Happening.quiet_ofStart _ Happening.quiet_nil
    | endCommit outcome => exact Happening.quiet_ended _
    | commit s => exact Happening.quiet_ofStart _ (Happening.quiet_ended _)
    | picker event => exact Happening.quiet_nil
    | chooseParameter panel name => exact Happening.quiet_nil
    | typeValue panel raw => exact Happening.quiet_nil
    | closeLists => exact Happening.quiet_nil
    | hideBanner => exact Happening.quiet_nil
  marks page a edit := by
    cases a with
    | addPanel s => exact page.addPanel_marks s
    | removePanel panel => exact page.removePanel_marks panel
    | addRow panel => exact page.editedIfOk_marks panel _
    | removeRow panel row => exact page.editedIfOk_marks panel _
    | _ => cases edit

end ClassesPage

namespace RulesPage

def Action.isEdit : Action → Bool
  | .addCondition | .removeCondition _ | .pin | .unpin _ | .chooseQuantifier _ => true
  | _ => false

theorem act_marks (page : RulesPage) {a : Action} (edit : a.isEdit = true) :
    (page.act a).document = page.document ∨ (page.act a).status = page.status.markEdited := by
  cases a with
  | addCondition =>
    rw [act]
    unfold addCondition
    cases page.enteredCondition? with
    | none => exact .inl rfl
    | some condition => exact .inr rfl
  | removeCondition row =>
    rw [act]
    unfold removeCondition
    cases page.conditions.get? row with
    | none => exact .inl rfl
    | some condition => exact .inr rfl
  | pin =>
    rw [act]
    unfold pin
    cases page.nodeInput.selection with
    | none => exact .inl rfl
    | some selection => exact .inr rfl
  | unpin row =>
    rw [act]
    unfold unpin
    cases page.pinned.get? row with
    | none => exact .inl rfl
    | some r => exact .inr rfl
  | chooseQuantifier quantifier => exact .inr rfl
  | _ => cases edit

def edits : kind.Edits where
  status := RulesPage.status
  isLoad := Action.isLoad
  isEdit := Action.isEdit
  quiet page a noLoad noEdit := by
    cases a with
    | load s => cases noLoad
    | addCondition => cases noEdit
    | removeCondition row => cases noEdit
    | pin => cases noEdit
    | unpin row => cases noEdit
    | chooseQuantifier quantifier => cases noEdit
    | startCommit => exact Happening.quiet_ofStart _ Happening.quiet_nil
    | endCommit outcome => exact Happening.quiet_ended _
    | commit s => exact Happening.quiet_ofStart _ (Happening.quiet_ended _)
    | factInput event => exact Happening.quiet_nil
    | chooseOperator operator => exact Happening.quiet_nil
    | typeValue value => exact Happening.quiet_nil
    | nodeInput event => exact Happening.quiet_nil
    | closeLists => exact Happening.quiet_nil
    | hideBanner => exact Happening.quiet_nil
  marks page _ edit := page.act_marks edit

end RulesPage

namespace VariablesPage

def Action.isLoad : Action → Bool
  | .load _ => true
  | _ => false

def Action.isEdit : Action → Bool
  | .addEntry | .removeRow _ => true
  | _ => false

theorem act_marks (page : VariablesPage) {a : Action} (edit : a.isEdit = true) :
    (page.act a).document = page.document ∨ (page.act a).status = page.status.markEdited := by
  cases a with
  | addEntry =>
    rw [act]
    unfold addEntry
    split
    · exact .inr rfl
    · exact .inl rfl
  | removeRow handle =>
    rw [act]
    unfold removeRow
    cases page.rows.get? handle with
    | none => exact .inl rfl
    | some row => exact .inr rfl
  | _ => cases edit

def edits : kind.Edits where
  status := VariablesPage.status
  isLoad := Action.isLoad
  isEdit := Action.isEdit
  quiet page a noLoad noEdit := by
    cases a with
    | load s => cases noLoad
    | addEntry => cases noEdit
    | removeRow handle => cases noEdit
    | startCommit => exact Happening.quiet_ofStart _ Happening.quiet_nil
    | endCommit outcome => exact Happening.quiet_ended _
    | commit s => exact Happening.quiet_ofStart _ (Happening.quiet_ended _)
    | typeKey key => exact Happening.quiet_nil
    | typeValue value => exact Happening.quiet_nil
    | hideBanner => exact Happening.quiet_nil
  marks page _ edit := page.act_marks edit

end VariablesPage

theorem ClassesPage.steady_after (group : String) (environment : Option String)
    (settings : Settings) (past : List ClassesPage.Action) :
    ((ClassesPage.new group environment settings).after past).Steady := by
  induction past using List.reverseRecOn with
  | nil => exact steady_new group environment settings
  | append_singleton past a ih =>
    rw [after, List.foldl_append]
    exact ih.act a

/-- On every page, a commit that can begin begins with the document of the page. An action other
than a load that changes this document leaves the page edited and its commit action armed, and what
is neither a load nor an edit never changes it. On the classes page this holds whatever was done to
the page before, and on the others in any state at all. -/
theorem changes_arm_commit :
    (∀ group environment settings past,
      let page := (ClassesPage.new group environment settings).after past
      page.startCommit.1 =
          (if page.status.canCommit then .ok page.document else .error .commitLocked) ∧
        ∀ a, a.isLoad = false →
          ((page.act a).document ≠ page.document →
            (page.act a).status.edited = true ∧ (page.act a).status.armed = true) ∧
          (a.isEdit = false → (page.act a).document = page.document)) ∧
    (∀ page : RulesPage,
      page.startCommit.1 =
          (if page.status.canCommit then .ok page.document else .error .commitLocked) ∧
        ∀ a, a.isLoad = false →
          ((page.act a).document ≠ page.document →
            (page.act a).status.edited = true ∧ (page.act a).status.armed = true) ∧
          (a.isEdit = false → (page.act a).document = page.document)) ∧
    ∀ page : VariablesPage,
      page.startCommit.1 =
          (if page.status.canCommit then .ok page.document else .error .commitLocked) ∧
        ∀ a, a.isLoad = false →
          ((page.act a).document ≠ page.document →
            (page.act a).status.edited = true ∧ (page.act a).status.armed = true) ∧
          (a.isEdit = false → (page.act a).document = page.document) := by
  refine ⟨fun group environment settings past => ⟨ClassesPage.shape.startCommit_answer _, ?_⟩,
    fun page => ⟨RulesPage.shape.startCommit_answer page, ?_⟩,
    fun page => ⟨VariablesPage.shape.startCommit_answer page, ?_⟩⟩
  · intro a noLoad
    have steady := ClassesPage.steady_after group environment settings past
    exact ⟨ClassesPage.edits.armed_of_changed steady noLoad,
      ClassesPage.edits.document_act steady noLoad⟩
  · intro a noLoad
    exact ⟨RulesPage.edits.armed_of_changed trivial noLoad,
      RulesPage.edits.document_act trivial noLoad⟩
  · intro a noLoad
    exact ⟨VariablesPage.edits.armed_of_changed trivial noLoad,
      VariablesPage.edits.document_act trivial noLoad⟩

/-- A class that is added, a quantifier that is chosen, and a variable that is added while a commit
is under way, which then fails. -/
theorem changes_arm_commit_edited :
    let s := Session.start {} (Backend.inTurn ["[\x7b\"id\":\"1\",\"name\":\"web\"\x7d]"])
    let picked : List ClassesPage.Action :=
      [.load s, .picker (.focus .zero .zero), .picker (.click "1")]
    let adds : ClassesPage.Action := .addPanel (Session.start {} (Backend.inTurn []))
    let classes := (ClassesPage.new "g" none {}).after picked
    let rules := RulesPage.new "g" none {}
    let values := VariablesPage.kind.after (VariablesPage.new "g")
      [.typeKey "a", .typeValue "1", .addEntry, .startCommit, .typeKey "b", .typeValue "2"]
    ((classes.act adds).document ≠ classes.document ∧
        (classes.act adds).status.edited = true ∧ (classes.act adds).status.armed = true) ∧
      ((rules.act (.chooseQuantifier .any)).document ≠ rules.document ∧
        (rules.act (.chooseQuantifier .any)).status.armed = true) ∧
      values.startCommit.1 = .error .commitLocked ∧
      (values.act .addEntry).document ≠ values.document ∧
      (values.act .addEntry).status.armed = true ∧
      (values.act (.endCommit (.error .http))).document = values.document := by
  intro s picked adds classes rules values
  obtain ⟨onClasses, onRules, onValues⟩ := changes_arm_commit
  have classesArm : ∀ a : ClassesPage.Action, a.isLoad = false →
      (classes.act a).document ≠ classes.document →
        (classes.act a).status.edited = true ∧ (classes.act a).status.armed = true :=
    fun a noLoad => ((onClasses "g" none {} picked).2 a noLoad).1
  obtain ⟨-, rulesArm⟩ := onRules rules
  obtain ⟨begins, valuesArm⟩ := onValues values
  have newClass : (classes.act adds).document ≠ classes.document := by decide +kernel
  have newQuantifier : (rules.act (.chooseQuantifier .any)).document ≠ rules.document := by
    decide +kernel
  have newValue : (values.act .addEntry).document ≠ values.document := by decide +kernel
  have locked : ¬ values.status.canCommit = true := by decide +kernel
  rw [if_neg locked] at begins
  exact ⟨⟨newClass, classesArm adds rfl newClass⟩,
    ⟨newQuantifier, ((rulesArm (.chooseQuantifier .any) rfl).1 newQuantifier).2⟩, begins, newValue,
    ((valuesArm .addEntry rfl).1 newValue).2, (valuesArm (.endCommit (.error .http)) rfl).2 rfl⟩

end NodeGroups.Page
