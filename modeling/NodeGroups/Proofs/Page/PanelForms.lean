import NodeGroups.Proofs.Page.ParameterInput
import NodeGroups.Proofs.Page.Picks

set_option autoImplicit false

namespace NodeGroups.Page

open Backend (Session)
open Document (ParameterInfo)

namespace ParameterInput

/-- The form offers all its parameters but the used ones, and what is chosen is one that it
offers. -/
structure Agrees (form : ParameterInput) (used : List String) : Prop where
  off : ∀ o ∈ form.options, (o.disabled = true ↔ o.info.name ∈ used)
  offered : ∀ name, form.selected = some name →
    ∃ o ∈ form.options, o.info.name = name ∧ o.disabled = false

variable {form next : ParameterInput} {used : List String}

theorem agrees_ofParameters (infos : List ParameterInfo) (used : List String) :
    (ofParameters infos used).Agrees used where
  off := by
    intro o member
    obtain ⟨info, -, rfl⟩ := List.mem_map.mp member
    exact List.contains_iff_mem
  offered := fun _ chosen => nomatch chosen

theorem Agrees.unselected (agrees : form.Agrees used) (options : next.options = form.options)
    (none : next.selected = none) : next.Agrees used where
  off := by
    rw [options]
    exact agrees.off
  offered := by
    rw [none]
    exact fun _ chosen => nomatch chosen

theorem Agrees.choose (agrees : form.Agrees used) {name : String}
    (chosen : form.choose name = .ok next) : next.Agrees used := by
  rcases choose_eq_ok.mp chosen with ⟨-, rfl⟩ | ⟨-, option, found, on, rfl⟩
  · exact agrees.unselected rfl rfl
  · refine ⟨agrees.off, fun other same => ?_⟩
    obtain rfl : name = other := Option.some.inj same
    have named := List.find?_some found
    exact ⟨option, List.mem_of_find?_eq_some found, beq_iff_eq.mp named, on⟩

theorem Agrees.enter (agrees : form.Agrees used) (raw : String) : (form.enter raw).Agrees used :=
  ⟨agrees.off, agrees.offered⟩

theorem Agrees.off_setDisabled (agrees : form.Agrees used) (name : String) (disabled : Bool) :
    ∀ o ∈ (form.setDisabled name disabled).options,
      (o.disabled = true ↔ if o.info.name = name then disabled = true else o.info.name ∈ used) := by
  intro o member
  obtain ⟨p, old, rfl⟩ := List.mem_map.mp member
  by_cases here : p.info.name = name
  · simp [here]
  · simpa [here] using agrees.off p old

/-- What is taken out of a form had been offered, and is used from then on. -/
theorem Agrees.take (agrees : form.Agrees used) {name value : String}
    (taken : form.take = .ok ((name, value), next)) :
    name ∉ used ∧ next.Agrees (used ++ [name]) := by
  obtain ⟨selected, -, -, rfl⟩ := take_eq_ok.mp taken
  obtain ⟨o, member, rfl, on⟩ := agrees.offered name selected
  refine ⟨fun old => ?_, fun p there => ?_, fun _ chosen => nomatch chosen⟩
  · rw [(agrees.off o member).mpr old] at on
    cases on
  · have cleared : form.cleared.Agrees used := agrees.unselected rfl rfl
    rw [cleared.off_setDisabled o.info.name true p there, List.mem_append, List.mem_singleton]
    split <;> simp [*]

/-- A parameter that is used once can be chosen again after it was freed. -/
theorem Agrees.free {front back : List String} {name : String}
    (agrees : form.Agrees (front ++ name :: back)) (apart : (front ++ name :: back).Nodup) :
    (form.free name).Agrees (front ++ back) where
  off := by
    intro o member
    rw [agrees.off_setDisabled name false o member]
    have fresh : name ∉ front ++ back := (List.nodup_middle.mp apart).notMem
    split
    · rename_i here
      rw [here]
      exact iff_of_false Bool.false_ne_true fresh
    · rename_i other
      simp [other]
  offered := by
    intro chosen selected
    obtain ⟨o, member, named, on⟩ := agrees.offered chosen selected
    refine ⟨_, List.mem_map_of_mem member, ?_⟩
    split
    · exact ⟨named, rfl⟩
    · exact ⟨named, on⟩

end ParameterInput

namespace ClassPanel

def parameters (b : ClassPanel) : List String := b.rows.toList.map parameterOf

/-- Every parameter has one row at most, and the form offers those without one. -/
structure InStep (b : ClassPanel) : Prop where
  apart : b.parameters.Nodup
  agrees : b.form.Agrees b.parameters

theorem inStep_ofAssigned (classId : Option String) (infos : List ParameterInfo)
    {a : Document.AssignedClass} (once : (a.parameters.map (·.parameter)).Nodup) :
    (ofAssigned classId infos a).InStep := by
  have parameters : (ofAssigned classId infos a).parameters = a.parameters.map (·.parameter) := by
    change (Rows.empty.append _).toList.map parameterOf = _
    rw [Rows.toList_append, Rows.toList_empty, List.nil_append, List.map_map]
    exact List.map_congr_left fun p _ => parameterOf_row p.parameter p.shownValue
  rw [← parameters] at once
  refine ⟨once, ?_⟩
  rw [parameters]
  exact ParameterInput.agrees_ofParameters infos _

theorem inStep_ofSelection (s : Picker.Selection) (infos : List ParameterInfo) :
    (ofSelection s infos).InStep :=
  ⟨List.nodup_nil, ParameterInput.agrees_ofParameters infos []⟩

variable {b : ClassPanel} {form : ParameterInput}

theorem InStep.take (inStep : b.InStep) {name value : String}
    (taken : b.form.take = .ok ((name, value), form)) :
    { b with form, rows := b.rows.push (row name value) }.InStep := by
  obtain ⟨fresh, agrees⟩ := inStep.agrees.take taken
  have parameters : { b with form, rows := b.rows.push (row name value) }.parameters =
      b.parameters ++ [name] := by
    change (b.rows.push _).toList.map parameterOf = _
    rw [Rows.toList_push, List.map_append, List.map_singleton, parameterOf_row]
    rfl
  refine ⟨?_, ?_⟩
  · rw [parameters]
    exact List.nodup_append.mpr ⟨inStep.apart, List.nodup_singleton name, by
      rintro old member _ new rfl
      exact fresh (List.mem_singleton.mp new ▸ member)⟩
  · rw [parameters]
    exact agrees

theorem InStep.erase (inStep : b.InStep) {h : Handle} {r : Row} (found : b.rows.get? h = some r) :
    { b with rows := b.rows.erase h, form := b.form.free (parameterOf r) }.InStep := by
  obtain ⟨front, back, held, erased⟩ := Rows.map_toList_erase found parameterOf
  obtain ⟨apart, agrees⟩ := inStep
  rw [parameters, held] at apart agrees
  refine ⟨?_, ?_⟩
  · change ((b.rows.erase h).toList.map parameterOf).Nodup
    rw [erased]
    exact (List.nodup_middle.mp apart).of_cons
  · change (b.form.free (parameterOf r)).Agrees ((b.rows.erase h).toList.map parameterOf)
    rw [erased]
    exact agrees.free apart

end ClassPanel

namespace ClassesPage

def InStep (page : ClassesPage) : Prop := ∀ b ∈ page.panels.toList, b.InStep

/-- The configuration that a load would get in a session gives no class two values of one
parameter. -/
def ParametersOnce (group : String) (environment : Option String) (s : Session) : Prop :=
  ∀ c t, (Backend.configurationOf group).run.run ((Backend.classes environment).run.run s).2 =
    (.ok c, t) → ∀ a ∈ c.classes, (a.parameters.map (·.parameter)).Nodup

variable {page next : ClassesPage} {group : String} {environment : Option String}

theorem InStep.push (inStep : page.InStep) {b : ClassPanel} (new : b.InStep)
    (panels : next.panels = page.panels.push b) : next.InStep := by
  intro c member
  rw [panels, Rows.toList_push] at member
  rcases List.mem_append.mp member with old | last
  · exact inStep c old
  · rw [List.mem_singleton.mp last]
    exact new

theorem InStep.addPanel (inStep : page.InStep) (s : Session) : (page.addPanel s).2.1.InStep := by
  unfold ClassesPage.addPanel
  split
  · exact inStep
  · rename_i selection _
    split
    · exact inStep
    · rename_i infos _ _
      exact inStep.push (ClassPanel.inStep_ofSelection selection infos) rfl

theorem InStep.removePanel (inStep : page.InStep) (panel : Handle) :
    (page.removePanel panel).2.InStep := by
  unfold ClassesPage.removePanel
  split
  · exact inStep
  · have fewer : (page.panels.erase panel).toList.Sublist page.panels.toList :=
      List.eraseP_sublist.map Prod.snd
    exact fun c member => inStep c (fewer.mem member)

theorem InStep.onPanel (inStep : page.InStep) {α : Type} (panel : Handle)
    {f : ClassPanel → Except Failure (α × ClassPanel)}
    (keeps : ∀ b a b', b.InStep → f b = .ok (a, b') → b'.InStep) :
    (page.onPanel panel f).2.InStep := by
  rcases page.onPanel_cases panel f with ⟨failure, refused⟩ | ⟨b, a, changed, found, done, after⟩
  · rw [refused]
    exact inStep
  · rw [after]
    obtain ⟨front, back, split, -⟩ := Rows.entries_erase found
    have before : b.InStep := inStep b (by rw [Rows.toList, split]; simp)
    intro c member
    obtain ⟨e, among, rfl⟩ := List.mem_map.mp member
    obtain ⟨e, old, rfl⟩ := List.mem_map.mp among
    split
    · exact keeps b a changed before done
    · exact inStep e.2 (List.mem_map_of_mem old)

theorem InStep.editedIfOk {α : Type} {r : Except Failure α × ClassesPage} (inStep : r.2.InStep) :
    (ClassesPage.editedIfOk r).2.InStep := by
  obtain ⟨outcome, next⟩ := r
  cases outcome <;> exact inStep

theorem InStep.act (inStep : page.InStep) {a : Action} (other : a.isLoad = false) :
    (page.act a).InStep := by
  cases a with
  | load s => cases other
  | picker event => exact inStep
  | addPanel s => exact inStep.addPanel s
  | removePanel panel => exact inStep.removePanel panel
  | chooseParameter panel name =>
    refine inStep.onPanel panel fun b a b' before changed => ?_
    cases chosen : b.form.choose name with
    | error failure =>
      rw [chosen] at changed
      cases changed
    | ok form =>
      rw [chosen] at changed
      cases changed
      exact ⟨before.apart, before.agrees.choose chosen⟩
  | typeValue panel raw =>
    refine inStep.onPanel panel fun b a b' before changed => ?_
    cases changed
    exact ⟨before.apart, before.agrees.enter raw⟩
  | addRow panel =>
    refine InStep.editedIfOk (inStep.onPanel panel fun b a b' before changed => ?_)
    cases taken : b.form.take with
    | error failure =>
      rw [taken] at changed
      cases changed
    | ok entry =>
      rw [taken] at changed
      cases changed
      exact before.take taken
  | removeRow panel row =>
    refine InStep.editedIfOk (inStep.onPanel panel fun b a b' before changed => ?_)
    split at changed
    · cases changed
    · rename_i r found
      cases changed
      exact before.erase found
  | startCommit =>
    obtain ⟨status, begun⟩ := ClassesPage.shape.startCommit_left page
    rw [ClassesPage.act, ClassesPage.startCommit, begun]
    exact inStep
  | endCommit outcome => exact inStep
  | commit s =>
    obtain ⟨status, done⟩ := ClassesPage.shape.commit_left page s
    rw [ClassesPage.act, ClassesPage.commit, done]
    exact inStep
  | closeLists => exact inStep
  | hideBanner => exact inStep

theorem InStep.foldl_loadAssigned (inStep : page.InStep) (s : Session)
    {assigned : List Document.AssignedClass}
    (once : ∀ a ∈ assigned, (a.parameters.map (·.parameter)).Nodup) :
    (assigned.foldl loadAssigned (page, s)).1.InStep := by
  induction assigned generalizing page s with
  | nil => exact inStep
  | cons a assigned ih =>
    obtain ⟨classId, infos, status, added, -⟩ := loadAssigned_spec page s a
    have first : (loadAssigned (page, s) a).1.InStep :=
      inStep.push (ClassPanel.inStep_ofAssigned classId infos (once a List.mem_cons_self))
        (congrArg (·.panels) added)
    exact ih first _ fun b member => once b (List.mem_cons_of_mem a member)

theorem InStep.load (inStep : page.InStep) {s : Session}
    (once : ParametersOnce page.group page.environment s) : (page.load s).1.InStep := by
  rcases answered : (Backend.configurationOf page.group).run.run
    ((Backend.classes page.environment).run.run s).2 with ⟨answer, t⟩
  cases answer with
  | error e =>
    rw [load_of_error answered]
    exact inStep
  | ok configuration =>
    rw [load_of_ok answered]
    have none : InStep { page.reindexed s with panels := page.panels.clear } :=
      fun _ member => absurd member List.not_mem_nil
    exact none.foldl_loadAssigned t (once configuration t answered)

/-- In every state of a page that is loaded any number of times, no two rows of a panel are of one
parameter, an option of its form is off just if the parameter has a row there, and what is chosen in
the form is the name of an option that is on. -/
theorem parameters_agree (group : String) (environment : Option String) (settings : Settings)
    (actions : List Action)
    (once : ∀ s, .load s ∈ actions → ParametersOnce group environment s) :
    ∀ b ∈ ((new group environment settings).after actions).panels.toList,
      (b.rows.toList.map ClassPanel.parameterOf).Nodup ∧
      (∀ o ∈ b.form.options,
        (o.disabled = true ↔ ∃ r ∈ b.rows.toList, ClassPanel.parameterOf r = o.info.name)) ∧
      ∀ name, b.form.selected = some name →
        ∃ o ∈ b.form.options, o.info.name = name ∧ o.disabled = false := by
  have start : Standing group environment (new group environment settings) ∧
      (new group environment settings).InStep :=
    ⟨standing_new group environment settings, fun _ member => absurd member List.not_mem_nil⟩
  have run : Standing group environment ((new group environment settings).after actions) ∧
      ((new group environment settings).after actions).InStep := by
    refine run_of_loads act Action.isLoad
      (fun page => Standing group environment page ∧ page.InStep) start ?_ ?_
    · exact fun page a other sound => ⟨(sound.1.move other).1, sound.2.act other⟩
    · intro front a back split loading sound
      cases a with
      | load s =>
        have member : .load s ∈ actions := by
          rw [split]
          exact List.mem_append_right front List.mem_cons_self
        refine ⟨sound.1.load s, sound.2.load ?_⟩
        rw [sound.1.group, sound.1.environment]
        exact once s member
      | _ => cases loading
  intro b member
  obtain ⟨apart, off, offered⟩ := run.2 b member
  refine ⟨apart, fun o there => ?_, offered⟩
  rw [off o there, ClassPanel.parameters, List.mem_map]

/-- Two definitions of one parameter, a value of a parameter without a definition, and a choice that
is open when that value is removed. -/
theorem parameters_agree_twice :
    let s := Session.start {} (Backend.inTurn
      ["[\x7b\"id\":\"1\",\"name\":\"w\"\x7d]",
        "\x7b\"classes\":[\x7b\"puppet_class\":\"w\",\"parameters\":[[\"p\"],[\"q\"]]\x7d]\x7d",
        "[\x7b\"name\":\"p\"\x7d,\x7b\"name\":\"p\"\x7d,\x7b\"name\":\"u\"\x7d]"])
    let actions : List Action := [.load s, .chooseParameter 0 "u", .removeRow 0 1]
    let page := (new "g" none {}).after actions
    ParametersOnce "g" none s ∧
      (page.panels.toList.map fun b => (b.rows.toList.map ClassPanel.parameterOf,
        b.form.options.map (·.disabled), b.form.selected)) =
          [(["p"], [true, true, false], some "u")] ∧
      ∀ b ∈ page.panels.toList, ∀ o ∈ b.form.options,
        (o.disabled = true ↔ ∃ r ∈ b.rows.toList, ClassPanel.parameterOf r = o.info.name) := by
  intro s actions page
  have once : ParametersOnce "g" none s := by
    intro c t found
    have parameters : ((Backend.configurationOf "g").run.run
        ((Backend.classes none).run.run s).2).1.toOption.map
          (fun c => c.classes.map fun a => a.parameters.map (·.parameter)) =
        some [["p", "q"]] := by
      decide +kernel
    rw [found] at parameters
    have only : (c.classes.map fun a => a.parameters.map (·.parameter)) = [["p", "q"]] :=
      Option.some.inj parameters
    intro a member
    have named := List.mem_map_of_mem (f := fun a => a.parameters.map (·.parameter)) member
    rw [only, List.mem_singleton] at named
    rw [named]
    decide
  have loads : ∀ t, .load t ∈ actions → ParametersOnce "g" none t := by
    intro t member
    simp only [actions, List.mem_cons, List.not_mem_nil, reduceCtorEq, or_false,
      Action.load.injEq] at member
    rw [member]
    exact once
  have agree := parameters_agree "g" none {} actions loads
  exact ⟨once, by decide +kernel, fun b member => (agree b member).2.1⟩

end ClassesPage

end NodeGroups.Page
