import NodeGroups.Proofs.Page.Loading
import NodeGroups.Proofs.Page.Rules
import NodeGroups.Proofs.Page.Variables

set_option autoImplicit false

namespace NodeGroups.Page

open Backend (Session)
open Document (Configuration Rules Variables)
open Happening (ifOk ofStart)

namespace RulesPage

def view (page : RulesPage) : View Rules := .of page.document page.status

/-- What an action does to the document of the page. -/
def happenings (page : RulesPage) : Action → List (Happening Rules)
  | .load s => ifOk ((Backend.rulesOf page.group).run.run s).1 [.loaded (page.load s).1.document]
  | .addCondition => ifOk page.addCondition.1 [.edited page.addCondition.2.document]
  | .removeCondition row =>
    ifOk (page.removeCondition row).1 [.edited (page.removeCondition row).2.document]
  | .pin => ifOk page.pin.1 [.edited page.pin.2.document]
  | .unpin row => ifOk (page.unpin row).1 [.edited (page.unpin row).2.document]
  | .chooseQuantifier quantifier => [.edited (page.chooseQuantifier quantifier).document]
  | .startCommit => ofStart page.startCommit.1 []
  | .endCommit outcome => [.ended outcome.isOk]
  | .commit s => ofStart page.startCommit.1 [.ended (page.commit s).1.isOk]
  | .factInput _ | .chooseOperator _ | .typeValue _ | .nodeInput _ | .closeLists | .hideBanner => []

theorem move_load (page : RulesPage) (s : Session) :
    Move page.view (page.happenings (.load s)) (page.load s).1.view := by
  rw [happenings]
  unfold load
  rcases (Backend.rulesOf page.group).run.run s with ⟨answer, t⟩
  cases answer with
  | ok d => exact .load _
  | error failure => exact .stay

theorem move_addCondition (page : RulesPage) :
    Move page.view (page.happenings .addCondition) page.addCondition.2.view := by
  rw [happenings]
  unfold addCondition
  cases page.enteredCondition? with
  | none => exact .stay
  | some condition => exact .edit _

theorem move_removeCondition (page : RulesPage) (row : Handle) :
    Move page.view (page.happenings (.removeCondition row)) (page.removeCondition row).2.view := by
  rw [happenings]
  unfold removeCondition
  cases page.conditions.get? row with
  | none => exact .stay
  | some condition => exact .edit _

theorem move_pin (page : RulesPage) : Move page.view (page.happenings .pin) page.pin.2.view := by
  rw [happenings]
  unfold pin
  cases page.nodeInput.selection with
  | none => exact .stay
  | some selection => exact .edit _

theorem move_unpin (page : RulesPage) (row : Handle) :
    Move page.view (page.happenings (.unpin row)) (page.unpin row).2.view := by
  rw [happenings]
  unfold unpin
  cases page.pinned.get? row with
  | none => exact .stay
  | some r => exact .edit _

theorem move_act (page : RulesPage) (a : Action) :
    Move page.view (page.happenings a) (page.act a).view := by
  cases a with
  | load s => exact page.move_load s
  | factInput event => exact .stay
  | chooseOperator operator => exact .stay
  | typeValue value => exact .stay
  | addCondition => exact page.move_addCondition
  | removeCondition row => exact page.move_removeCondition row
  | nodeInput event => exact .stay
  | pin => exact page.move_pin
  | unpin row => exact page.move_unpin row
  | chooseQuantifier quantifier => exact .edit _
  | startCommit => exact shape.move_startCommit page
  | endCommit outcome => exact shape.move_endCommit page outcome
  | commit s => exact shape.move_commit page s
  | closeLists => exact .stay
  | hideBanner => exact .stay

def kind : Kind RulesPage Action Rules where
  view := view
  act := act
  happenings := happenings
  Sound _ := True
  sound_act _ _ _ := trivial
  moves page a _ := page.move_act a

end RulesPage

namespace ClassesPage

variable {page : ClassesPage}

def view (page : ClassesPage) : View Configuration := .of page.document page.status

/-- What an action does to the document of the page. -/
def happenings (page : ClassesPage) : Action → List (Happening Configuration)
  | .load s =>
    ifOk ((Backend.configurationOf page.group).run.run
      ((Backend.classes page.environment).run.run s).2).1 [.loaded (page.load s).1.document]
  | .addPanel s => ifOk (page.addPanel s).1 [.edited (page.addPanel s).2.1.document]
  | .removePanel panel =>
    match (page.removePanel panel).1 with
    | some _ => [.edited (page.removePanel panel).2.document]
    | none => []
  | .addRow panel => ifOk (page.addRow panel).1 [.edited (page.addRow panel).2.document]
  | .removeRow panel row =>
    ifOk (page.removeRow panel row).1 [.edited (page.removeRow panel row).2.document]
  | .startCommit => ofStart page.startCommit.1 []
  | .endCommit outcome => [.ended outcome.isOk]
  | .commit s => ofStart page.startCommit.1 [.ended (page.commit s).1.isOk]
  | .picker _ | .chooseParameter _ _ | .typeValue _ _ | .closeLists | .hideBanner => []

theorem foldl_loadAssigned_flags (assigned : List Document.AssignedClass)
    (p : ClassesPage × Session) :
    (assigned.foldl loadAssigned p).1.status.edited = p.1.status.edited ∧
      (assigned.foldl loadAssigned p).1.status.committing = p.1.status.committing := by
  induction assigned generalizing p with
  | nil => exact ⟨rfl, rfl⟩
  | cons a assigned ih =>
    obtain ⟨_, _, status, added, edited, committing⟩ := loadAssigned_spec p.1 p.2 a
    obtain ⟨editedOn, committingOn⟩ := ih (loadAssigned p a)
    have first : (loadAssigned p a).1.status = status := congrArg (·.status) added
    rw [first] at editedOn committingOn
    exact ⟨editedOn.trans edited, committingOn.trans committing⟩

theorem move_load (page : ClassesPage) (s : Session) :
    Move page.view (page.happenings (.load s)) (page.load s).1.view := by
  rw [happenings]
  rcases answered : (Backend.configurationOf page.group).run.run
    ((Backend.classes page.environment).run.run s).2 with ⟨answer, t⟩
  cases answer with
  | error failure =>
    rw [load_of_error answered]
    exact .stay
  | ok configuration =>
    have flags := foldl_loadAssigned_flags configuration.classes
      ({ page.reindexed s with panels := page.panels.clear }, t)
    rw [load_of_ok answered]
    generalize configuration.classes.foldl loadAssigned _ = next at flags ⊢
    obtain ⟨edited, committing⟩ := flags
    change Move page.view [.loaded next.1.document]
      ⟨next.1.document, next.1.status.edited, next.1.status.committing⟩
    rw [edited, committing]
    exact .load _

/-- An operation that keeps what a panel says leaves what the page says and shows. -/
theorem view_onPanel {α : Type} (distinct : page.panels.Distinct) (panel : Handle)
    {f : ClassPanel → Except Failure (α × ClassPanel)}
    (keeps : ∀ b a changed, f b = .ok (a, changed) → changed.assigned = b.assigned) :
    (page.onPanel panel f).2.view = page.view := by
  rcases page.onPanel_cases panel f with ⟨failure, refused⟩ | ⟨b, a, changed, found, done, next⟩
  · rw [refused]
  · rw [next]
    have same := Rows.map_toList_modify distinct found (keeps b a changed done)
    change (⟨⟨(page.panels.modify panel fun _ => changed).toList.map ClassPanel.assigned⟩, _, _⟩ :
      View Configuration) = ⟨⟨page.panels.toList.map ClassPanel.assigned⟩, _, _⟩
    rw [same]

/-- An operation on a panel that marks the page as edited. -/
theorem move_editedIfOk {α : Type} (page : ClassesPage) (panel : Handle)
    (f : ClassPanel → Except Failure (α × ClassPanel)) :
    Move page.view
      (ifOk (editedIfOk (page.onPanel panel f)).1
        [.edited (editedIfOk (page.onPanel panel f)).2.document])
      (editedIfOk (page.onPanel panel f)).2.view := by
  rcases page.onPanel_cases panel f with ⟨failure, refused⟩ | ⟨b, a, changed, found, done, next⟩
  · rw [refused]
    exact .stay
  · rw [next]
    exact .edit _

theorem move_addPanel (page : ClassesPage) (s : Session) :
    Move page.view (page.happenings (.addPanel s)) (page.addPanel s).2.1.view := by
  rw [happenings]
  unfold addPanel
  cases page.picker.selection with
  | none => exact .stay
  | some selection =>
    dsimp only
    rcases (Backend.parametersOf selection.recordId).run.run s with ⟨answer, t⟩
    cases answer with
    | error failure => exact .stay
    | ok infos => exact .edit _

theorem move_removePanel (page : ClassesPage) (panel : Handle) :
    Move page.view (page.happenings (.removePanel panel)) (page.removePanel panel).2.view := by
  rw [happenings]
  unfold removePanel
  cases page.panels.get? panel with
  | none => exact .stay
  | some b => exact .edit _

/-- Whatever is done to a page whose panels are apart is a move. -/
theorem move_act (distinct : page.panels.Distinct) (a : Action) :
    Move page.view (page.happenings a) (page.act a).view := by
  cases a with
  | load s => exact page.move_load s
  | picker event => exact .stay
  | addPanel s => exact page.move_addPanel s
  | removePanel panel => exact page.move_removePanel panel
  | chooseParameter panel name =>
    have same : (page.chooseParameter panel name).2.view = page.view := by
      refine view_onPanel distinct panel fun b a changed done => ?_
      cases chosen : b.form.choose name with
      | error failure =>
        rw [chosen] at done
        cases done
      | ok form =>
        rw [chosen] at done
        cases done
        rfl
    rw [act, same]
    exact .stay
  | typeValue panel raw =>
    have same : (page.typeValue panel raw).2.view = page.view := by
      refine view_onPanel distinct panel fun b a changed done => ?_
      cases done
      rfl
    rw [act, same]
    exact .stay
  | addRow panel => exact page.move_editedIfOk panel _
  | removeRow panel row => exact page.move_editedIfOk panel _
  | startCommit => exact shape.move_startCommit page
  | endCommit outcome => exact shape.move_endCommit page outcome
  | commit s => exact shape.move_commit page s
  | closeLists => exact .stay
  | hideBanner => exact .stay

/-- The input searches the names of classes, and no two panels have one handle. -/
structure Steady (page : ClassesPage) : Prop where
  named : page.Named
  panels : page.panels.Distinct

theorem Steady.load (steady : page.Steady) (s : Session) : (page.load s).1.Steady := by
  rcases answered : (Backend.configurationOf page.group).run.run
    ((Backend.classes page.environment).run.run s).2 with ⟨answer, t⟩
  cases answer with
  | error failure =>
    rw [load_of_error answered]
    exact ⟨steady.named, steady.panels⟩
  | ok configuration =>
    obtain ⟨-, -, panels, offers⟩ := foldl_loadAssigned_spec
      { page.reindexed s with panels := page.panels.clear } t configuration.classes steady.named
      (Rows.distinct_clear _)
    have picker := congrArg Offering.picker offers
    rw [load_of_ok answered]
    refine ⟨?_, panels⟩
    dsimp only
    generalize configuration.classes.foldl loadAssigned _ = next at picker ⊢
    change next.1.picker = page.picker at picker
    change next.1.picker.dataset = _ ∧ next.1.picker.field = _
    rw [picker]
    exact steady.named

theorem Steady.act (steady : page.Steady) (a : Action) : (page.act a).Steady := by
  cases loads : a.isLoad with
  | true =>
    cases a with
    | load s => exact steady.load s
    | _ => cases loads
  | false =>
    have follows := follows_act steady.named steady.panels loads
    obtain ⟨dataset, field⟩ := follows.move.source
    exact ⟨⟨dataset.trans steady.named.1, field.trans steady.named.2⟩, follows.panels⟩

theorem steady_new (group : String) (environment : Option String) (settings : Settings) :
    (new group environment settings).Steady := ⟨⟨rfl, rfl⟩, Rows.distinct_empty⟩

def kind : Kind ClassesPage Action Configuration where
  view := view
  act := act
  happenings := happenings
  Sound := Steady
  sound_act _ a steady := steady.act a
  moves _ a steady := move_act steady.panels a

end ClassesPage

/-- On every page that was loaded and then used in any way, what is there while no edits are shown
was loaded or saved last, just if no commit succeeds that edits overtook; so it does if commits are
finished only when under way and no edit is made meanwhile. -/
theorem unedited_iff_endsInTime (group : String) (environment masterZone : Option String)
    (settings : Settings) (s : Session) :
    let classes := ((ClassesPage.new group environment settings).load s).1
    let rules := ((RulesPage.new group masterZone settings).load s).1
    let values := ((VariablesPage.new group).load s).1
    (∀ actions,
      (ClassesPage.kind.StaysClean classes actions ↔ ClassesPage.kind.EndsInTime classes actions) ∧
      (ClassesPage.kind.Paired classes actions → ClassesPage.kind.EditsApart classes actions →
        ClassesPage.kind.StaysClean classes actions)) ∧
    (∀ actions,
      (RulesPage.kind.StaysClean rules actions ↔ RulesPage.kind.EndsInTime rules actions) ∧
      (RulesPage.kind.Paired rules actions → RulesPage.kind.EditsApart rules actions →
        RulesPage.kind.StaysClean rules actions)) ∧
    ∀ actions,
      (VariablesPage.kind.StaysClean values actions ↔
        VariablesPage.kind.EndsInTime values actions) ∧
      (VariablesPage.kind.Paired values actions →
        VariablesPage.kind.EditsApart values actions →
        VariablesPage.kind.StaysClean values actions) := by
  intro classes rules values
  have steady : classes.Steady := (ClassesPage.steady_new group environment settings).load s
  refine ⟨fun actions => ⟨?_, ?_⟩, fun actions => ⟨?_, ?_⟩, fun actions => ⟨?_, ?_⟩⟩
  · exact ClassesPage.kind.staysClean_iff steady actions
  · exact ClassesPage.kind.staysClean_of_editsApart steady
  · exact RulesPage.kind.staysClean_iff trivial actions
  · exact RulesPage.kind.staysClean_of_editsApart trivial
  · exact VariablesPage.kind.staysClean_iff trivial actions
  · exact VariablesPage.kind.staysClean_of_editsApart trivial

/-- A variable that is added while a commit is under way is not committed, and is not shown as an
edit once the commit succeeds; yet the page can be committed again. -/
theorem unedited_overtaken :
    let s := Session.start {} (Backend.inTurn ["\x7b\"data\":\x7b\x7d\x7d"])
    let page := ((VariablesPage.new "g").load s).1
    let before : List VariablesPage.Action := [.typeKey "a", .typeValue "1", .addEntry,
      .startCommit, .typeKey "b", .typeValue "2", .addEntry]
    let actions := before ++ [.endCommit (.ok ())]
    let committing := VariablesPage.kind.after page before
    let last := VariablesPage.kind.after page actions
    ((Backend.variablesOf "g").run.run s).1.isOk = true ∧ committing.status.committing = true ∧
      last.status.edited = false ∧ last.status.armed = true ∧
      last.document = ⟨some (.ofList [("a", .string "1"), ("b", .string "2")])⟩ ∧
      (VariablesPage.kind.ledger page actions).loaded = ⟨some .empty⟩ ∧
      (VariablesPage.kind.ledger page actions).saved = some ⟨some (.ofList [("a", .string "1")])⟩ ∧
      ¬ VariablesPage.kind.StaysClean page actions := by
  intro s page before actions committing last
  have unedited : last.status.edited = false := by decide +kernel
  have shown : last.document = ⟨some (.ofList [("a", .string "1"), ("b", .string "2")])⟩ := by
    decide +kernel
  have loaded : (VariablesPage.kind.ledger page actions).loaded = ⟨some .empty⟩ := by
    decide +kernel
  have saved : (VariablesPage.kind.ledger page actions).saved =
      some ⟨some (.ofList [("a", .string "1")])⟩ := by decide +kernel
  refine ⟨by decide +kernel, by decide +kernel, unedited, by decide +kernel, shown, loaded, saved,
    fun clean => ?_⟩
  have covered := clean actions (List.prefix_refl actions) unedited
  change last.document = _ ∨ _ = some last.document at covered
  rw [shown, loaded, saved] at covered
  revert covered
  decide +kernel

end NodeGroups.Page
