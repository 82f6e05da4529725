import NodeGroups.Proofs.Backend.Repetition
import NodeGroups.Proofs.Page.Assigned
import NodeGroups.Proofs.Page.Exchange
import NodeGroups.Proofs.Search.Overwriting

set_option autoImplicit false

namespace NodeGroups.Page

open Backend (AnswersAlike Repeats Session attempt)
open Document (AssignedClass ParameterInfo Rules Variables)
open Search (Index Record)

/-- Items that take the place of all rows are shown the same when they do so again. -/
theorem Rows.toList_replaced_again {α : Type} (rows : Rows α) (items : List α) :
    ((rows.clear.append items).clear.append items).toList = (rows.clear.append items).toList := by
  rw [toList_append, toList_append, toList_clear, toList_clear]

/-- The state of a page after a load in which something failed or nothing did. -/
def Status.loaded (status : Status) (failed : Bool) : Status :=
  { status with
    busy := false
    banner := if failed then some ⟨.danger, Failure.generalMessage⟩ else status.banner }

theorem Status.loaded_loaded (status : Status) (failed : Bool) :
    (status.loaded failed).loaded failed = status.loaded failed := by
  cases failed <;> rfl

/-- A page that was loaded is loaded again, and where the requests of the first load come out as
they did, the page stays as it is but for `Same`, and the same requests are sent. -/
def LoadsAgain {P : Type} (load : P → Session → P × Session) (Same : P → P → Prop) (page : P)
    (s : Session) : Prop :=
  let first := load page s
  let second := load first.1 first.2
  ∃ reads, (∀ q ∈ reads, q.method = .get) ∧ first.2.sent = s.sent ++ reads ∧
    (AnswersAlike s first.2 reads → Same first.1 second.1 ∧ second.2.sent = first.2.sent ++ reads)

/-- Where all requests come out as they did, the page stays as it is. -/
theorem LoadsAgain.same {P : Type} {load : P → Session → P × Session} {Same : P → P → Prop}
    {page : P} {s : Session} (again : LoadsAgain load Same page s)
    (alike : ∀ reads, AnswersAlike s (load page s).2 reads) :
    Same (load page s).1 (load (load page s).1 (load page s).2).1 := by
  obtain ⟨reads, -, -, onward⟩ := again
  exact (onward (alike reads)).1

/-- A load that shows what it read loads again if what is read does not depend on what is shown, and
showing it again changes nothing else. -/
theorem loadsAgain {P D : Type} {load : P → Session → P × Session} {Same : P → P → Prop}
    (reading : P → StateM Session D) (presented : P → D → P)
    (loads : ∀ page s,
      load page s = (presented page ((reading page).run s).1, ((reading page).run s).2))
    (keeps : ∀ page d, reading (presented page d) = reading page)
    (repeats : ∀ page, Repeats (reading page))
    (same : ∀ page d, Same (presented page d) (presented (presented page d) d)) (page : P)
    (s : Session) : LoadsAgain load Same page s := by
  have continues := (repeats page).continues s
  obtain ⟨reads, sent, gets⟩ := continues.sent
  unfold LoadsAgain
  rw [loads page s]
  refine ⟨reads, gets, sent, fun alike => ?_⟩
  obtain ⟨again, sentAgain⟩ := (repeats page).again sent continues.settings alike
  dsimp only
  rw [loads, keeps, again]
  exact ⟨same page _, sentAgain⟩

namespace VariablesPage

def reading (page : VariablesPage) : StateM Session (Option Variables) :=
  attempt (Backend.variablesOf page.group)

/-- A load of the page shows what was read, or that there are no variables to be had. -/
def presented (page : VariablesPage) (read : Option Variables) : VariablesPage :=
  match read with
  | some d => { page.showDocument d with status := page.status.loaded false }
  | none => { page with status := page.status.loaded true }

/-- Pages that differ in handles only. -/
def SameButHandles (first second : VariablesPage) : Prop :=
  second = { first with rows := second.rows } ∧ second.rows.toList = first.rows.toList

theorem load_eq (page : VariablesPage) (s : Session) :
    page.load s = (page.presented (page.reading.run s).1, (page.reading.run s).2) := by
  unfold load reading
  rcases ran : (Backend.variablesOf page.group).run.run s with ⟨outcome, t⟩
  rw [Backend.run_attempt ran]
  cases outcome <;> rfl

theorem reading_presented (page : VariablesPage) (read : Option Variables) :
    (page.presented read).reading = page.reading := by
  cases read <;> rfl

theorem presented_presented (page : VariablesPage) (read : Option Variables) :
    SameButHandles (page.presented read) ((page.presented read).presented read) := by
  cases read with
  | none => exact ⟨rfl, rfl⟩
  | some d => exact ⟨rfl, Rows.toList_replaced_again page.rows _⟩

theorem loadsAgain (page : VariablesPage) (s : Session) :
    LoadsAgain load SameButHandles page s :=
  Page.loadsAgain reading presented load_eq reading_presented
    (fun page => Backend.repeats_variablesOf page.group) presented_presented page s

end VariablesPage

namespace RulesPage

def readingNodes (page : RulesPage) : Option Rules → StateM Session (Option (List Record))
  | some _ => attempt (Backend.nodes page.masterZone)
  | none => pure none

/-- What a load of the page reads: the rules, with them the nodes, and the facts. -/
def reading (page : RulesPage) :
    StateM Session (Option Rules × Option (List Record) × Option (List Record)) := do
  let d ← attempt (Backend.rulesOf page.group)
  let nodes ← page.readingNodes d
  let facts ← attempt (Backend.facts page.masterZone)
  return (d, nodes, facts)

/-- A load of the page shows what was read, or that there are no rules to be had. -/
def presented (page : RulesPage)
    (read : Option Rules × Option (List Record) × Option (List Record)) : RulesPage :=
  let (d, nodes, facts) := read
  match d with
  | some d => { page.showDocument d with
      index := (loadNodes page.index (nodes.getD []) d.nodes).load Search.factsKey (facts.getD [])
      status := page.status.loaded false }
  | none => { page with
      index := page.index.load Search.factsKey (facts.getD [])
      status := page.status.loaded true }

def SameButHandles (first second : RulesPage) : Prop :=
  second = { first with conditions := second.conditions, pinned := second.pinned } ∧
    second.conditions.toList = first.conditions.toList ∧
      second.pinned.toList = first.pinned.toList

theorem load_eq (page : RulesPage) (s : Session) :
    page.load s = (page.presented (page.reading.run s).1, (page.reading.run s).2) := by
  unfold load reading
  rw [StateT.run_bind]
  rcases ran : (Backend.rulesOf page.group).run.run s with ⟨outcome, t⟩
  rw [Backend.run_attempt ran]
  cases outcome <;> rfl

theorem reading_presented (page : RulesPage)
    (read : Option Rules × Option (List Record) × Option (List Record)) :
    (page.presented read).reading = page.reading := by
  obtain ⟨d, nodes, facts⟩ := read
  cases d <;> rfl

theorem repeats_reading (page : RulesPage) : Repeats page.reading := by
  refine (Backend.repeats_rulesOf page.group).bind fun d => .bind ?_ fun nodes =>
    (Backend.repeats_facts page.masterZone).bind fun facts => .pure (d, nodes, facts)
  cases d with
  | some d => exact Backend.repeats_nodes page.masterZone
  | none => exact .pure none

theorem overwrites_loadNodes (records : List Record) (pinned : List String) :
    Index.Overwrites Search.certnameKey fun index => loadNodes index records pinned :=
  (Index.overwrites_load Search.certnameKey records).foldl "certname" .disabled pinned

theorem presented_presented (page : RulesPage)
    (read : Option Rules × Option (List Record) × Option (List Record)) :
    SameButHandles (page.presented read) ((page.presented read).presented read) := by
  obtain ⟨d, nodes, facts⟩ := read
  have onFacts := Index.overwrites_load Search.factsKey (facts.getD [])
  cases d with
  | none =>
    refine ⟨?_, rfl, rfl⟩
    have index := onFacts.again page.index
    exact congrArg (fun index => { page with index, status := page.status.loaded true }) index
  | some d =>
    have onNodes := overwrites_loadNodes (nodes.getD []) d.nodes
    have index := onNodes.both_again onFacts page.index
    let second := (page.presented (some d, nodes, facts)).presented (some d, nodes, facts)
    refine ⟨congrArg (fun index => { second with index }) index, ?_, ?_⟩
    · exact Rows.toList_replaced_again page.conditions _
    · exact Rows.toList_replaced_again page.pinned _

theorem loadsAgain (page : RulesPage) (s : Session) : LoadsAgain load SameButHandles page s :=
  Page.loadsAgain reading presented load_eq reading_presented repeats_reading presented_presented
    page s

end RulesPage

/-- An assigned class with what a load read of it: its identifier, if it is known, and its
parameters, if they could be fetched. A class that is not known has none. -/
structure LoadedClass where
  assigned : AssignedClass
  classId : Option String
  infos : Option (List ParameterInfo)

def LoadedClass.panel (c : LoadedClass) : ClassPanel :=
  .ofAssigned c.classId (c.infos.getD []) c.assigned

namespace ClassesPage

/-- The identifier of a class among records. -/
def idAmong (known : List Record) (name : String) : Option String :=
  (known.find? fun r => r.field? "name" == some name).map Record.id

def readingClass (known : List Record) (a : AssignedClass) : StateM Session LoadedClass :=
  match idAmong known a.className with
  | some id => do return ⟨a, some id, ← attempt (Backend.parametersOf id)⟩
  | none => return ⟨a, none, some []⟩

/-- What is read of the classes of a configuration, if there is one. -/
def readingClasses (known : List Record) :
    Option Document.Configuration → StateM Session (Option (List LoadedClass))
  | some c => do return some (← c.classes.mapM (readingClass known))
  | none => return none

/-- What a load of the page reads: the classes, and then the configuration with its classes. -/
def reading (page : ClassesPage) : StateM Session (List Record × Option (List LoadedClass)) := do
  let classes ← attempt (Backend.classes page.environment)
  let configuration ← attempt (Backend.configurationOf page.group)
  let loaded ← readingClasses (Search.firstOfEach [] (classes.getD [])) configuration
  return (classes.getD [], loaded)

/-- Adds the panel of a class that was read. -/
def added (page : ClassesPage) (c : LoadedClass) : ClassesPage :=
  let page := page.setClass c.assigned.className .disabled
  let page := if c.infos.isNone then page.showFailure else page
  { page with panels := page.panels.push c.panel }

/-- A load of the page shows what was read, or that there is no configuration to be had. -/
def presented (page : ClassesPage) (read : List Record × Option (List LoadedClass)) : ClassesPage :=
  let (records, loaded) := read
  let index := page.index.load Search.classesKey records
  match loaded with
  | some loaded =>
    let page := loaded.foldl added
      { page with index, panels := page.panels.clear, status := page.status.startLoading }
    { page with status := page.status.endLoading }
  | none => { page with index, status := page.status.loaded true }

def SameButHandles (first second : ClassesPage) : Prop :=
  second = { first with panels := second.panels } ∧ second.panels.toList = first.panels.toList

theorem repeats_readingClass (known : List Record) (a : AssignedClass) :
    Repeats (readingClass known a) := by
  unfold readingClass
  split
  · next id _ => exact (Backend.repeats_parametersOf id).bind fun infos => .pure _
  · exact .pure _

theorem repeats_reading (page : ClassesPage) : Repeats page.reading := by
  refine (Backend.repeats_classes page.environment).bind fun classes =>
    (Backend.repeats_configurationOf page.group).bind fun configuration =>
      .bind ?_ fun loaded => .pure _
  cases configuration with
  | some c => exact (Repeats.mapM (repeats_readingClass _) c.classes).bind fun loaded => .pure _
  | none => exact .pure none

theorem loadAssigned_eq {page : ClassesPage} {known : List Record} (s : Session) (a : AssignedClass)
    (same : (page.index.first? Search.classesKey "name" a.className).map Record.id =
      idAmong known a.className) :
    loadAssigned (page, s) a =
      (page.added ((readingClass known a).run s).1, ((readingClass known a).run s).2) := by
  have id : ((page.setClass a.className .disabled).index.first? Search.classesKey "name"
      a.className).map Record.id = idAmong known a.className :=
    (FirstLoad.first?_setClass _ _ _ _).trans same
  unfold loadAssigned readingClass
  dsimp only
  rw [id]
  cases idAmong known a.className with
  | none => rfl
  | some classId =>
    dsimp only [fetchParameters]
    rw [StateT.run_bind]
    rcases ran : (Backend.parametersOf classId).run.run s with ⟨outcome, t⟩
    rw [Backend.run_attempt ran]
    cases outcome <;> rfl

theorem index_added (page : ClassesPage) (c : LoadedClass) :
    (page.added c).index = (page.setClass c.assigned.className .disabled).index := by
  unfold added
  cases c.infos <;> rfl

theorem foldl_loadAssigned {known : List Record} (assigned : List AssignedClass)
    {page : ClassesPage} (s : Session)
    (same : ∀ name, (page.index.first? Search.classesKey "name" name).map Record.id =
      idAmong known name) :
    let read := (assigned.mapM (readingClass known)).run s
    assigned.foldl loadAssigned (page, s) = (read.1.foldl added page, read.2) := by
  induction assigned generalizing page s with
  | nil => rfl
  | cons a assigned ih =>
    rw [List.foldl_cons, loadAssigned_eq s a (same a.className), List.mapM_cons, StateT.run_bind]
    rcases (readingClass known a).run s with ⟨c, t⟩
    -- Adding a class turns records off and leaves their identifiers.
    have onward : ∀ name, ((page.added c).index.first? Search.classesKey "name" name).map
        Record.id = idAmong known name := by
      intro name
      rw [index_added]
      exact (FirstLoad.first?_setClass _ _ _ _).trans (same name)
    exact ih t onward

theorem run_reading {page : ClassesPage} {s t u : Session} {classes : Except Failure (List Record)}
    {outcome : Except Failure Document.Configuration}
    (listed : (Backend.classes page.environment).run.run s = (classes, t))
    (got : (Backend.configurationOf page.group).run.run t = (outcome, u)) :
    let known := classes.toOption.getD []
    let read := (readingClasses (Search.firstOfEach [] known) outcome.toOption).run u
    page.reading.run s = ((known, read.1), read.2) := by
  intro known read
  rw [reading, StateT.run_bind, Backend.run_attempt listed]
  change StateT.run (attempt (Backend.configurationOf page.group) >>= fun configuration =>
    readingClasses (Search.firstOfEach [] known) configuration >>= fun loaded =>
      pure (known, loaded)) t = _
  rw [StateT.run_bind, Backend.run_attempt got]
  rfl

theorem load_eq (page : ClassesPage) (s : Session) :
    page.load s = (page.presented (page.reading.run s).1, (page.reading.run s).2) := by
  rcases listed : (Backend.classes page.environment).run.run s with ⟨classes, t⟩
  rcases got : (Backend.configurationOf page.group).run.run t with ⟨outcome, u⟩
  rw [run_reading listed got]
  have before : ((Backend.classes page.environment).run.run s).2 = t := by rw [listed]
  rw [← before] at got
  have start : page.reindexed s = { page with
      status := page.status.startLoading
      index := page.index.load Search.classesKey (classes.toOption.getD []) } := by
    rw [reindexed, listed]
  cases outcome with
  | error e =>
    rw [load_of_error got, start]
    rfl
  | ok c =>
    have known : ∀ name, (({ page.reindexed s with
        panels := page.panels.clear }.index).first? Search.classesKey "name" name).map Record.id =
          idAmong (Search.firstOfEach [] (classes.toOption.getD [])) name := by
      intro name
      rw [start, Index.first?, Index.records_load]
      rfl
    rw [load_of_ok got, foldl_loadAssigned c.classes u known, start]
    rfl

/-- The index with the records of the classes, of which those that were loaded are disabled. -/
def disabling (loaded : List LoadedClass) (index : Index) : Index :=
  (loaded.map fun c => c.assigned.className).foldl
    (fun index name => (index.setStateWhere Search.classesKey "name" name .disabled).1) index

/-- Whether the parameters of a class could not be fetched. -/
def missing (loaded : List LoadedClass) : Bool := loaded.any fun c => c.infos.isNone

theorem foldl_added (loaded : List LoadedClass) (page : ClassesPage) :
    loaded.foldl added page = { page with
      index := disabling loaded page.index
      panels := page.panels.append (loaded.map LoadedClass.panel)
      status := if missing loaded then page.showFailure.status else page.status } := by
  induction loaded generalizing page with
  | nil => rfl
  | cons c loaded ih =>
    rw [List.foldl_cons, ih]
    have some : missing (c :: loaded) = (c.infos.isNone || missing loaded) := rfl
    rw [some]
    unfold added
    cases c.infos <;> cases missing loaded <;> rfl

/-- A load with a configuration shows its classes in place of the panels. -/
theorem presented_some (page : ClassesPage) (records : List Record) (loaded : List LoadedClass) :
    page.presented (records, some loaded) = { page with
      index := disabling loaded (page.index.load Search.classesKey records)
      panels := page.panels.clear.append (loaded.map LoadedClass.panel)
      status := page.status.loaded (missing loaded) } := by
  rw [presented, foldl_added]
  cases missing loaded <;> rfl

theorem reading_presented (page : ClassesPage) (read : List Record × Option (List LoadedClass)) :
    (page.presented read).reading = page.reading := by
  obtain ⟨records, loaded⟩ := read
  cases loaded with
  | none => rfl
  | some loaded =>
    rw [presented_some]
    rfl

theorem presented_presented (page : ClassesPage) (read : List Record × Option (List LoadedClass)) :
    SameButHandles (page.presented read) ((page.presented read).presented read) := by
  obtain ⟨records, loaded⟩ := read
  have onClasses := Index.overwrites_load Search.classesKey records
  cases loaded with
  | none =>
    refine ⟨?_, rfl⟩
    have index := onClasses.again page.index
    exact congrArg (fun index => { page with index, status := page.status.loaded true }) index
  | some loaded =>
    -- The records are loaded anew, so that those turned off before do not count.
    have disabled := (onClasses.foldl "name" .disabled
      (loaded.map fun c => c.assigned.className)).again page.index
    have index : disabling loaded ((disabling loaded
        (page.index.load Search.classesKey records)).load Search.classesKey records) =
          disabling loaded (page.index.load Search.classesKey records) := disabled
    rw [presented_some, presented_some]
    refine ⟨?_, Rows.toList_replaced_again page.panels _⟩
    dsimp only
    rw [index, Status.loaded_loaded]

theorem loadsAgain (page : ClassesPage) (s : Session) : LoadsAgain load SameButHandles page s :=
  Page.loadsAgain reading presented load_eq reading_presented repeats_reading presented_presented
    page s

end ClassesPage

/-- A page that is loaded and loaded again sends the same requests again, and where they come out as
they did, failing or not, it stays as it was after the first load. Only the handles of its panels,
conditions, pinned nodes or rows may differ. -/
theorem load_idempotent :
    (∀ (page : ClassesPage) (s : Session),
      LoadsAgain ClassesPage.load ClassesPage.SameButHandles page s) ∧
    (∀ (page : RulesPage) (s : Session),
      LoadsAgain RulesPage.load RulesPage.SameButHandles page s) ∧
    ∀ (page : VariablesPage) (s : Session),
      LoadsAgain VariablesPage.load VariablesPage.SameButHandles page s :=
  ⟨ClassesPage.loadsAgain, RulesPage.loadsAgain, VariablesPage.loadsAgain⟩

/-- Loads of an edited page, where the parameters of its class cannot be fetched: its panel comes
back under another handle. -/
theorem load_idempotent_failing :
    let backend : Backend.Answering := fun _ q =>
      if q.url = "http://127.0.0.1:8000/api/classes/" then
        .ok ⟨200, "[\x7b\"id\":\"1\",\"name\":\"web\"\x7d]"⟩
      else if q.url = "http://127.0.0.1:8000/api/configuration/g/" then
        .ok ⟨200, "\x7b\"classes\":[\x7b\"puppet_class\":\"web\"\x7d]\x7d"⟩
      else .error .http
    let page := { ClassesPage.new "g" none {} with status := Status.initial.markEdited }
    let s := Session.start {} backend
    let first := page.load s
    let second := first.1.load first.2
    ClassesPage.SameButHandles first.1 second.1 ∧ second.2.sent.length = 6 ∧
      first.1.panels.handles = [0] ∧ second.1.panels.handles = [1] ∧
      first.1.status = ⟨true, true, false, false, some ⟨.danger, Failure.generalMessage⟩⟩ := by
  intro backend page s first second
  have alike := AnswersAlike.of_forgetful (ClassesPage.continues_load page s).answering
    fun _ _ _ => rfl
  refine ⟨(load_idempotent.1 page s).same alike, ?_⟩
  decide +kernel

end NodeGroups.Page
