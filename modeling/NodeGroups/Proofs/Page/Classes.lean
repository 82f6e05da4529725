import NodeGroups.Page.Classes
import NodeGroups.Proofs.Backend.Datasets
import NodeGroups.Proofs.Page.Offering
import NodeGroups.Proofs.Page.Rows
import NodeGroups.Proofs.Page.Shape

set_option autoImplicit false

namespace NodeGroups.Page.ClassesPage

open Backend (Session)
open Search (Record)

/-- What can be done to the page. What calls the backend does so in a session of its own, so that
any answers may come. -/
inductive Action
  | load (s : Session)
  | picker (event : Picker.Event)
  | addPanel (s : Session)
  | removePanel (panel : Handle)
  | chooseParameter (panel : Handle) (name : String)
  | typeValue (panel : Handle) (raw : String)
  | addRow (panel : Handle)
  | removeRow (panel row : Handle)
  | startCommit
  | endCommit (outcome : Except Failure Unit)
  | commit (s : Session)
  | closeLists
  | hideBanner

def Action.isLoad : Action → Bool
  | .load _ => true
  | _ => false

def act (page : ClassesPage) : Action → ClassesPage
  | .load s => (page.load s).1
  | .picker event => (page.onPicker event).2
  | .addPanel s => (page.addPanel s).2.1
  | .removePanel panel => (page.removePanel panel).2
  | .chooseParameter panel name => (page.chooseParameter panel name).2
  | .typeValue panel raw => (page.typeValue panel raw).2
  | .addRow panel => (page.addRow panel).2
  | .removeRow panel row => (page.removeRow panel row).2
  | .startCommit => page.startCommit.2
  | .endCommit outcome => page.endCommit outcome
  | .commit s => (page.commit s).2.1
  | .closeLists => page.closeLists
  | .hideBanner => page.hideBanner

def after (page : ClassesPage) (actions : List Action) : ClassesPage := actions.foldl act page

/-- The names of the classes that have a panel. -/
def names (page : ClassesPage) : List String := page.panels.toList.map ClassPanel.name

/-- The classes that the page offers, and those that it has taken. -/
def offering (page : ClassesPage) : Offering := ⟨page.index, page.picker, page.names⟩

/-- The configuration that a load would get in a session names no class twice. -/
def NamesOnce (group : String) (environment : Option String) (s : Session) : Prop :=
  ∀ c t, (Backend.configurationOf group).run.run ((Backend.classes environment).run.run s).2 =
    (.ok c, t) → (c.classes.map (·.className)).Nodup

structure Follows (page next : ClassesPage) : Prop where
  group : next.group = page.group
  environment : next.environment = page.environment
  panels : next.panels.Distinct
  move : Offering.Move page.offering next.offering

variable {page : ClassesPage}

/-- The input searches the names of classes. -/
def Named (page : ClassesPage) : Prop :=
  page.picker.dataset = Search.classesKey ∧ page.picker.field = "name"

theorem Named.mark (named : page.Named) (name : String) (state : Search.Activation) :
    page.offering.mark name state = (page.setClass name state).index := by
  change (page.index.setStateWhere page.picker.dataset page.picker.field name state).1 = _
  rw [named.1, named.2]
  rfl

/-- What changes neither the datasets nor the input nor the names of panels is no move. -/
theorem Follows.of_same {next : ClassesPage} (group : next.group = page.group)
    (environment : next.environment = page.environment) (panels : next.panels.Distinct)
    (index : next.index = page.index) (picker : next.picker = page.picker)
    (names : next.names = page.names) : Follows page next := by
  refine ⟨group, environment, panels, ?_⟩
  have same : next.offering = page.offering := by
    rw [offering, index, picker, names]
    rfl
  rw [same]
  exact .stay _

theorem follows_addPanel (named : page.Named) (distinct : page.panels.Distinct) (s : Session) :
    Follows page (page.addPanel s).2.1 := by
  unfold addPanel
  split
  · exact .of_same rfl rfl distinct rfl rfl rfl
  · rename_i selection picked
    split
    · exact .of_same rfl rfl distinct rfl rfl rfl
    · rename_i infos t fetched
      refine ⟨rfl, rfl, distinct.push _, ?_⟩
      have taken : (page.panels.push (.ofSelection selection infos)).toList.map ClassPanel.name =
          page.names ++ [selection.label] := by
        rw [Rows.toList_push, List.map_append]
        rfl
      have move := Offering.Move.take page.offering selection picked
      rw [named.mark] at move
      change Offering.Move page.offering ⟨_, _,
        (page.panels.push (.ofSelection selection infos)).toList.map ClassPanel.name⟩
      rw [taken]
      exact move

theorem follows_removePanel (named : page.Named) (distinct : page.panels.Distinct)
    (panel : Handle) : Follows page (page.removePanel panel).2 := by
  unfold removePanel
  split
  · exact .of_same rfl rfl distinct rfl rfl rfl
  · rename_i b found
    refine ⟨rfl, rfl, distinct.erase panel, ?_⟩
    obtain ⟨front, back, held, erased⟩ := Rows.map_toList_erase found ClassPanel.name
    have move := Offering.Move.giveBack page.offering front back b.name held
    rw [named.mark] at move
    change Offering.Move page.offering ⟨_, _,
      (page.panels.erase panel).toList.map ClassPanel.name⟩
    rw [erased]
    exact move

/-- An operation on a panel is refused and changes nothing, or changes that panel only. -/
theorem onPanel_cases {α : Type} (page : ClassesPage) (panel : Handle)
    (f : ClassPanel → Except Failure (α × ClassPanel)) :
    (∃ failure, page.onPanel panel f = (.error failure, page)) ∨
      ∃ b a changed, page.panels.get? panel = some b ∧ f b = .ok (a, changed) ∧
        page.onPanel panel f =
          (.ok a, { page with panels := page.panels.modify panel fun _ => changed }) := by
  cases found : page.panels.get? panel with
  | none =>
    refine .inl ⟨.notFound "class block", ?_⟩
    rw [onPanel, panel?, found]
    rfl
  | some b =>
    have bound : (page.panel? panel >>= f) = f b := by
      rw [panel?, found]
      rfl
    rw [onPanel, bound]
    cases done : f b with
    | error failure => exact .inl ⟨failure, rfl⟩
    | ok answer => exact .inr ⟨b, answer.1, answer.2, rfl, done, rfl⟩

theorem follows_onPanel {α : Type} (distinct : page.panels.Distinct) (panel : Handle)
    {f : ClassPanel → Except Failure (α × ClassPanel)}
    (keeps : ∀ b a b', f b = .ok (a, b') → b'.name = b.name) :
    Follows page (page.onPanel panel f).2 := by
  rcases page.onPanel_cases panel f with ⟨failure, refused⟩ | ⟨b, a, changed, found, done, next⟩
  · rw [refused]
    exact .of_same rfl rfl distinct rfl rfl rfl
  · rw [next]
    exact .of_same rfl rfl (distinct.modify panel fun _ => changed) rfl rfl
      (Rows.map_toList_modify distinct found (keeps b a changed done))

theorem Follows.editedIfOk {α : Type} {r : Except Failure α × ClassesPage}
    (follows : Follows page r.2) : Follows page (ClassesPage.editedIfOk r).2 := by
  obtain ⟨outcome, next⟩ := r
  cases outcome with
  | ok a => exact ⟨follows.group, follows.environment, follows.panels, follows.move⟩
  | error failure => exact follows

/-- Whatever is done to the page but loading it, its offering moves. -/
theorem follows_act (named : page.Named) (distinct : page.panels.Distinct) {a : Action}
    (other : a.isLoad = false) : Follows page (page.act a) := by
  cases a with
  | load s => cases other
  | picker event => exact ⟨rfl, rfl, distinct, .event page.offering event page.mode⟩
  | addPanel s => exact follows_addPanel named distinct s
  | removePanel panel => exact follows_removePanel named distinct panel
  | chooseParameter panel name =>
    refine follows_onPanel distinct panel fun b a b' changed => ?_
    cases chosen : b.form.choose name with
    | error failure =>
      rw [chosen] at changed
      cases changed
    | ok form =>
      rw [chosen] at changed
      cases changed
      rfl
  | typeValue panel raw =>
    refine follows_onPanel distinct panel fun b a b' changed => ?_
    cases changed
    rfl
  | addRow panel =>
    refine Follows.editedIfOk (follows_onPanel distinct panel fun b a b' changed => ?_)
    cases taken : b.form.take with
    | error failure =>
      rw [taken] at changed
      cases changed
    | ok entry =>
      rw [taken] at changed
      cases changed
      rfl
  | removeRow panel row =>
    refine Follows.editedIfOk (follows_onPanel distinct panel fun b a b' changed => ?_)
    split at changed
    · cases changed
    · cases changed
      rfl
  | startCommit =>
    obtain ⟨status, begun⟩ := shape.startCommit_left page
    rw [act, startCommit, begun]
    exact .of_same rfl rfl distinct rfl rfl rfl
  | endCommit outcome => exact .of_same rfl rfl distinct rfl rfl rfl
  | commit s =>
    obtain ⟨status, done⟩ := shape.commit_left page s
    rw [act, commit, done]
    exact .of_same rfl rfl distinct rfl rfl rfl
  | closeLists => exact ⟨rfl, rfl, distinct, .close page.offering⟩
  | hideBanner => exact .of_same rfl rfl distinct rfl rfl rfl

/-- Loading a class turns its records off and adds its panel, with the parameters that could be
got. It shows no edits and ends no commit. -/
theorem loadAssigned_spec (page : ClassesPage) (s : Session) (a : Document.AssignedClass) :
    ∃ (classId : Option String) (infos : List Document.ParameterInfo) (status : Status),
      (loadAssigned (page, s) a).1 =
        { page with
          index := (page.setClass a.className .disabled).index
          panels := page.panels.push (.ofAssigned classId infos a)
          status } ∧
      status.edited = page.status.edited ∧ status.committing = page.status.committing := by
  unfold loadAssigned
  dsimp only
  split
  · unfold fetchParameters
    split
    · exact ⟨_, _, _, rfl, rfl, rfl⟩
    · exact ⟨_, _, _, rfl, rfl, rfl⟩
  · exact ⟨_, _, _, rfl, rfl, rfl⟩

/-- Loading classes turns their records off and adds panels of their names. -/
theorem foldl_loadAssigned_spec (page : ClassesPage) (s : Session)
    (assigned : List Document.AssignedClass) (named : page.Named)
    (distinct : page.panels.Distinct) :
    let next := (assigned.foldl loadAssigned (page, s)).1
    next.group = page.group ∧ next.environment = page.environment ∧ next.panels.Distinct ∧
      next.offering = ⟨page.offering.markAll (assigned.map (·.className)), page.picker,
        page.names ++ assigned.map (·.className)⟩ := by
  induction assigned generalizing page s with
  | nil =>
    refine ⟨rfl, rfl, distinct, ?_⟩
    rw [List.map_nil, List.append_nil]
    rfl
  | cons a assigned ih =>
    obtain ⟨classId, infos, status, added, -⟩ := loadAssigned_spec page s a
    rw [List.foldl_cons]
    rcases loaded : loadAssigned (page, s) a with ⟨first, t⟩
    rw [loaded] at added
    change first = _ at added
    subst added
    obtain ⟨group, environment, panels, offers⟩ := ih
      { page with
        index := (page.setClass a.className .disabled).index
        panels := page.panels.push (.ofAssigned classId infos a)
        status } t named (distinct.push _)
    refine ⟨group, environment, panels, offers.trans ?_⟩
    have names : (page.panels.push (.ofAssigned classId infos a)).toList.map ClassPanel.name ++
        assigned.map (·.className) = page.names ++ (a :: assigned).map (·.className) := by
      rw [Rows.toList_push, List.map_append, List.append_assoc, List.map_cons, List.map_nil]
      rfl
    have index : page.offering.markAll ((a :: assigned).map (·.className)) =
        Offering.markAll { page.offering with index := (page.setClass a.className .disabled).index }
          (assigned.map (·.className)) := by
      rw [← named.mark]
      rfl
    rw [index, ← names]
    rfl

structure Sound (group : String) (environment : Option String) (page : ClassesPage) : Prop where
  group : page.group = group
  environment : page.environment = environment
  named : page.Named
  panels : page.panels.Distinct
  fair : page.offering.Fair

variable {group : String} {environment : Option String}

theorem sound_new (group : String) (environment : Option String) (settings : Settings) :
    Sound group environment (new group environment settings) :=
  ⟨rfl, rfl, ⟨rfl, rfl⟩, Rows.distinct_empty, Offering.fair_new rfl rfl⟩

theorem Sound.act (sound : Sound group environment page) {a : Action} (other : a.isLoad = false) :
    Sound group environment (page.act a) := by
  have follows := follows_act sound.named sound.panels other
  obtain ⟨dataset, field⟩ := follows.move.source
  exact ⟨follows.group.trans sound.group, follows.environment.trans sound.environment,
    ⟨dataset.trans sound.named.1, field.trans sound.named.2⟩, follows.panels,
    sound.fair.move follows.move⟩

/-- The first loading puts a page in order whatever the backend answers, if only its configuration
names no class twice. -/
theorem Sound.load (sound : Sound group environment page) (blank : page.offering.Blank)
    {s : Session} (once : NamesOnce group environment s) :
    Sound group environment (page.load s).1 := by
  have enabled := Backend.enabled_of_toOption fun records ok =>
    Backend.classes_enabled (Prod.ext ok rfl :
      (Backend.classes page.environment).run.run s = (.ok records, _))
  have dataset : page.offering.picker.dataset = Search.classesKey := sound.named.1
  unfold ClassesPage.load
  rcases answered : (Backend.classes page.environment).run.run s with ⟨classes, t⟩
  rw [answered] at enabled
  dsimp only
  split
  · -- Without a configuration the panels stay, and there were none.
    have fair := sound.fair.load blank enabled List.nodup_nil
    rw [dataset] at fair
    refine ⟨sound.group, sound.environment, sound.named, sound.panels, ?_⟩
    have none : page.names = [] := blank.taken
    change Offering.Fair ⟨page.index.load Search.classesKey _, page.picker, page.names⟩
    rw [none]
    exact fair
  · rename_i configuration u found
    have distinct : (configuration.classes.map (·.className)).Nodup := by
      rw [sound.group] at found
      apply once configuration u
      rw [← sound.environment, answered]
      exact found
    have fair := sound.fair.load blank enabled distinct
    rw [dataset] at fair
    have spec := foldl_loadAssigned_spec
      { page with
        status := page.status.startLoading
        index := page.index.load Search.classesKey (classes.toOption.getD [])
        panels := page.panels.clear } u configuration.classes sound.named (Rows.distinct_clear _)
    generalize configuration.classes.foldl loadAssigned _ = next at spec ⊢
    obtain ⟨group, environment, panels, offers⟩ := spec
    have picker : next.1.picker = page.picker := congrArg Offering.picker offers
    refine ⟨group.trans sound.group, environment.trans sound.environment, ?_, panels, ?_⟩
    · change next.1.picker.dataset = _ ∧ next.1.picker.field = _
      rw [picker]
      exact sound.named
    · change next.1.offering.Fair
      rw [offers]
      exact fair

/-- A page that is loaded once at most stays in order. -/
theorem sound_after (settings : Settings) {actions : List Action}
    (single : actions.countP Action.isLoad ≤ 1)
    (once : ∀ s, .load s ∈ actions → NamesOnce group environment s) :
    Sound group environment ((new group environment settings).after actions) := by
  refine run_of_load_once act Action.isLoad (Sound group environment)
    (fun page => page.offering.Blank) (sound_new group environment settings) ⟨rfl, rfl⟩ ?_ single ?_
  · intro page a other sound
    have follows := follows_act sound.named sound.panels other
    exact ⟨sound.act other, fun blank => blank.move sound.fair follows.move⟩
  · intro page a member loads sound blank
    cases a with
    | load s => exact sound.load blank (once s member)
    | _ => cases loads

/-- In every state of a run that loads the page once, with anything else before and after it, no two
panels are of one class, a record is off just if its class has a panel, and the input lists the
other records when it gets the focus. -/
theorem panels_agree (group : String) (environment : Option String) (settings : Settings)
    (actions : List Action) (single : actions.countP Action.isLoad ≤ 1)
    (once : ∀ s, .load s ∈ actions → NamesOnce group environment s) :
    let page := (new group environment settings).after actions
    page.names.Nodup ∧
      (∀ r ∈ page.index.records Search.classesKey,
        (r.state = .disabled ↔ ∃ panel ∈ page.panels.toList, panel.name = r.name)) ∧
      ∀ box scroll, (page.act (.picker (.focus box scroll))).picker.list =
        .ofResults (((page.index.records Search.classesKey).filter fun r =>
          r.name ∉ page.names).map fun r => ⟨r.id, r.name, r.name, [.plain r.name]⟩) := by
  intro page
  have sound : Sound group environment page := sound_after settings single once
  have off : ∀ r ∈ page.index.records Search.classesKey,
      (r.state = .disabled ↔ r.name ∈ page.names) := by
    intro r member
    have among : r ∈ page.offering.records := by
      rw [Offering.records]
      change r ∈ page.index.records page.picker.dataset
      rw [sound.named.1]
      exact member
    refine sound.fair.disabled r among r.name ?_
    change r.field? page.picker.field = some r.name
    rw [sound.named.2]
    rfl
  refine ⟨sound.fair.distinct, fun r member => ?_, fun box scroll => ?_⟩
  · rw [off r member, names, List.mem_map]
  · have listed := Picker.list_onFocus sound.named.2 box scroll page.index page.mode
    rw [sound.named.1] at listed
    refine listed.trans (congrArg _ (congrArg _ (List.filter_congr fun r member => ?_)))
    rw [Record.isEnabled, Bool.eq_iff_iff, beq_iff_eq, decide_eq_true_iff, ← off r member]
    cases r.state <;> simp

/-- A class that has a panel from the start, and another one that gets its panel from a pick. -/
theorem panels_agree_pick :
    let s := Session.start {} (Backend.inTurn
      ["[\x7b\"id\":\"1\",\"name\":\"web\"\x7d,\x7b\"id\":\"2\",\"name\":\"db\"\x7d]",
        "\x7b\"classes\":[\x7b\"puppet_class\":\"web\"\x7d]\x7d"])
    let actions : List Action := [.picker (.focus .zero .zero), .load s,
      .picker (.focus .zero .zero), .picker (.click "2"),
      .addPanel (Session.start {} (Backend.inTurn [])), .removePanel 0]
    let page := (new "g" none {}).after actions
    actions.countP Action.isLoad ≤ 1 ∧ NamesOnce "g" none s ∧
      page.names = ["db"] ∧ page.names.Nodup ∧
      (∀ r ∈ page.index.records Search.classesKey,
        (r.state = .disabled ↔ ∃ panel ∈ page.panels.toList, panel.name = r.name)) ∧
      (page.act (.picker (.focus .zero .zero))).picker.list =
        .items [⟨"1", "web", "web", [.plain "web"]⟩] := by
  intro s actions page
  have single : actions.countP Action.isLoad ≤ 1 := by decide
  have once : NamesOnce "g" none s := by
    intro c t found
    have classes : ((Backend.configurationOf "g").run.run
        ((Backend.classes none).run.run s).2).1.toOption.map
          (fun c => c.classes.map (·.className)) = some ["web"] := by decide +kernel
    rw [found] at classes
    have only : c.classes.map (·.className) = ["web"] := Option.some.inj classes
    rw [only]
    exact List.nodup_singleton "web"
  have loads : ∀ t, .load t ∈ actions → NamesOnce "g" none t := by
    intro t member
    simp only [actions, List.mem_cons, List.not_mem_nil, reduceCtorEq, false_or, or_false,
      Action.load.injEq] at member
    rw [member]
    exact once
  obtain ⟨distinct, agree, lists⟩ := panels_agree "g" none {} actions single loads
  refine ⟨single, once, by decide +kernel, distinct, agree, (lists .zero .zero).trans ?_⟩
  decide +kernel

end NodeGroups.Page.ClassesPage
