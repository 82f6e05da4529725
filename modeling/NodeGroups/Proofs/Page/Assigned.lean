import NodeGroups.Proofs.Backend.Exchange
import NodeGroups.Proofs.Page.Reload
import NodeGroups.Proofs.Past

set_option autoImplicit false

namespace NodeGroups.Page

open Backend (Request Session)
open Document (AssignedClass AssignedParameter Configuration ParameterInfo)
open Search (Record)

/-- The text that stands for a value: a string is its own, without a value it is the entered text,
lists and objects are printed over several lines, and all else is its JSON text. -/
inductive Shows (entered : String) : Json → String → Prop
  | string (text : String) : Shows entered (.string text) text
  | null : Shows entered .null entered
  | array (items : List Json) : Shows entered (.array items) (Json.pretty (.array items))
  | object (members : List (String × Json)) :
      Shows entered (.object members) (Json.pretty (.object members))
  | bool (b : Bool) : Shows entered (.bool b) (Json.compact (.bool b))
  | number (n : Json.Number) : Shows entered (.number n) (Json.compact (.number n))

theorem shows_shownValue (p : AssignedParameter) : Shows p.rawValue p.value p.shownValue := by
  unfold AssignedParameter.shownValue
  cases p.value with
  | null => exact .null
  | bool b => exact .bool b
  | number n => exact .number n
  | string text => exact .string text
  | array items => exact .array items
  | object members => exact .object members

/-- A panel is that of an assigned class, with the identifier and parameters known of it. -/
structure ClassPanel.Presents (panel : ClassPanel) (classId : Option String)
    (infos : List ParameterInfo) (a : AssignedClass) : Prop where
  classId : panel.classId = classId
  name : panel.name = a.className
  rows : List.Forall₂ (fun r p => ClassPanel.parameterOf r = p.parameter ∧
    Shows p.rawValue p.value (ClassPanel.valueOf r)) panel.rows.toList a.parameters
  options : panel.form.options.map (·.info) = infos
  used : ∀ o ∈ panel.form.options,
    (o.disabled = true ↔ ∃ p ∈ a.parameters, p.parameter = o.info.name)
  unchosen : panel.form.selected = none ∧ panel.form.field = none ∧ panel.form.value = ""

theorem ClassPanel.presents_ofAssigned (classId : Option String) (infos : List ParameterInfo)
    (a : AssignedClass) : (ClassPanel.ofAssigned classId infos a).Presents classId infos a where
  classId := rfl
  name := rfl
  rows := by
    rw [ofAssigned, Rows.toList_append, Rows.toList_empty, List.nil_append,
      List.forall₂_map_left_iff, List.forall₂_same]
    intro p _
    rw [parameterOf_row, valueOf_row]
    exact ⟨rfl, shows_shownValue p⟩
  options := by
    change (infos.map _).map _ = infos
    rw [List.map_map]
    exact List.map_id infos
  used := by
    intro o offered
    obtain ⟨info, -, rfl⟩ := List.mem_map.mp offered
    rw [List.contains_iff_mem, List.mem_map]
  unchosen := ⟨rfl, rfl, rfl⟩

/-- The first load of a page, in a session. -/
structure FirstLoad where
  group : String
  environment : Option String
  session : Session

namespace FirstLoad

def list (l : FirstLoad) : Request :=
  l.session.request .get l.session.settings.paths.classes
    (Backend.queryOf "environment" l.environment) none

def detail (l : FirstLoad) : Request :=
  l.session.request .get (Backend.memberPath l.session.settings.paths.configuration l.group) [] none

def ask (l : FirstLoad) (classId : String) : Request :=
  l.session.request .get l.session.settings.paths.parameters [("puppet_class", classId)] none

/-- The classes that are known, one for each identifier; none if they cannot be fetched. -/
def known (l : FirstLoad) : List Record :=
  Search.firstOfEach []
    ((Backend.recordsIn? "name" (l.session.answering l.session.sent l.list)).getD [])

def configuration? (l : FirstLoad) : Option Configuration :=
  Backend.documentIn? Configuration.decoder
    (l.session.answering (l.session.sent ++ [l.list]) l.detail)

/-- The identifier of an assigned class, if it is known: that of the first one of its name. -/
def id? (l : FirstLoad) (a : AssignedClass) : Option String :=
  (l.known.find? fun r => r.name == a.className).map Record.id

def asks (l : FirstLoad) (assigned : List AssignedClass) : List Request :=
  assigned.filterMap fun a => (l.id? a).map l.ask

/-- The requests until the parameters of assigned classes were asked for. -/
def sentAfter (l : FirstLoad) (assigned : List AssignedClass) : List Request :=
  l.session.sent ++ l.list :: l.detail :: l.asks assigned

/-- The parameters of a class, if they can be fetched after those of the classes in `front`. -/
def parameters? (l : FirstLoad) (front : List AssignedClass) (classId : String) :
    Option (List ParameterInfo) :=
  Backend.documentIn? (.list ParameterInfo.decoder)
    (l.session.answering (l.sentAfter front) (l.ask classId))

/-- The parameters that a class behind those in `front` can be given. -/
def infos (l : FirstLoad) (front : List AssignedClass) (a : AssignedClass) : List ParameterInfo :=
  ((l.id? a).bind (l.parameters? front)).getD []

/-- Panels are those of assigned classes, in order. -/
def Presented (l : FirstLoad) (assigned : List AssignedClass) (panels : List ClassPanel) : Prop :=
  panels.length = assigned.length ∧ ∀ front a back, assigned = front ++ a :: back →
    ∃ panel, panels[front.length]? = some panel ∧
      panel.Presents (l.id? a) (l.infos front a) a

/-- A class behind those in `front` is known, but its parameters cannot be fetched. -/
def MissesAt (l : FirstLoad) (front : List AssignedClass) (a : AssignedClass) : Prop :=
  ∃ classId, l.id? a = some classId ∧ l.parameters? front classId = none

/-- The parameters of some assigned class cannot be fetched. -/
def Misses (l : FirstLoad) (assigned : List AssignedClass) : Prop :=
  ∃ front a back, assigned = front ++ a :: back ∧ l.MissesAt front a

/-- The configuration or some parameters cannot be fetched. -/
def Fails (l : FirstLoad) : Prop :=
  match l.configuration? with
  | none => True
  | some d => l.Misses d.classes

variable {l : FirstLoad} {front : List AssignedClass}

variable {a : AssignedClass}

theorem sentAfter_concat (l : FirstLoad) (front : List AssignedClass) (a : AssignedClass) :
    l.sentAfter (front ++ [a]) = l.sentAfter front ++ ((l.id? a).map l.ask).toList := by
  have asks : l.asks (front ++ [a]) = l.asks front ++ ((l.id? a).map l.ask).toList := by
    rw [FirstLoad.asks, List.filterMap_append, List.filterMap_cons, List.filterMap_nil]
    cases (l.id? a).map l.ask <;> rfl
  rw [sentAfter, asks, sentAfter, List.append_assoc, List.cons_append, List.cons_append]

theorem Presented.concat {panels : List ClassPanel} (presented : l.Presented front panels)
    {panel : ClassPanel} (presents : panel.Presents (l.id? a) (l.infos front a) a) :
    l.Presented (front ++ [a]) (panels ++ [panel]) := by
  obtain ⟨length, each⟩ := presented
  refine ⟨by rw [List.length_append, List.length_append, length]; rfl, ?_⟩
  intro before b after same
  rcases concat_eq_append_cons.mp same with ⟨rfl, rfl, -⟩ | ⟨rest, -, rfl⟩
  · refine ⟨panel, ?_, presents⟩
    rw [← length, List.getElem?_concat_length]
  · obtain ⟨shown, there, presents⟩ := each before b rest rfl
    refine ⟨shown, ?_, presents⟩
    rw [List.getElem?_append_left (List.getElem?_eq_some_iff.mp there).1]
    exact there

theorem misses_concat :
    l.Misses (front ++ [a]) ↔ l.Misses front ∨ l.MissesAt front a := by
  constructor
  · rintro ⟨before, b, after, same, missed⟩
    rcases concat_eq_append_cons.mp same with ⟨rfl, rfl, -⟩ | ⟨rest, -, rfl⟩
    · exact .inr missed
    · exact .inl ⟨before, b, rest, rfl, missed⟩
  · rintro (⟨before, b, rest, rfl, missed⟩ | missed)
    · exact ⟨before, b, rest ++ [a], by simp, missed⟩
    · exact ⟨front, a, [], rfl, missed⟩

/-- The load has built the panels of some classes. -/
structure Built (l : FirstLoad) (front : List AssignedClass) (page : ClassesPage) (t : Session) :
    Prop where
  settings : t.settings = l.session.settings
  answering : t.answering = l.session.answering
  sent : t.sent = l.sentAfter front
  /-- Turning records off leaves which classes are known. -/
  known : ∀ b : AssignedClass,
    (page.index.first? Search.classesKey "name" b.className).map Record.id = l.id? b
  panels : l.Presented front page.panels.toList
  warned : l.Misses front → page.status.banner = some ⟨.danger, Failure.generalMessage⟩
  calm : ¬ l.Misses front → page.status.banner = none
  unedited : page.status.edited = false

theorem first?_setClass (page : ClassesPage) (name : String) (state : Search.Activation)
    (other : String) :
    ((page.setClass name state).index.first? Search.classesKey "name" other).map Record.id =
      (page.index.first? Search.classesKey "name" other).map Record.id := by
  have kept : ∀ r : Record, (Search.Index.turn "name" name state r).id = r.id :=
    Search.Index.turn_id "name" name state
  rw [ClassesPage.setClass, Search.Index.first?, Search.Index.records_setStateWhere,
    List.find?_map, Option.map_map]
  simp only [Function.comp_def, Search.Index.turn_field?, kept]
  rfl

variable {page : ClassesPage} {t : Session}

/-- The parameters of a class come out as the answer to the request for them says. -/
theorem Built.fetchParameters (built : l.Built front page t) (classId : String)
    (shown : ClassesPage) :
    ∃ log, shown.fetchParameters classId t =
      match l.parameters? front classId with
      | some infos => ((infos, shown), { t with sent := t.sent ++ [l.ask classId], log })
      | none => (([], shown.showFailure), { t with sent := t.sent ++ [l.ask classId], log }) := by
  obtain ⟨outcome, log, ran, decoded⟩ := Backend.run_fetch (fun p => p.parameters)
    "parameters.list" [("puppet_class", classId)] (.list ParameterInfo.decoder) t
  have request : t.request .get t.settings.paths.parameters [("puppet_class", classId)] none =
      l.ask classId := by
    rw [ask, Session.request, built.settings]
    rfl
  rw [request, built.answering, built.sent] at decoded
  rw [request] at ran
  refine ⟨log, ?_⟩
  have called : (Backend.parametersOf classId).run.run t = _ := ran
  rw [ClassesPage.fetchParameters, called, parameters?, ← decoded]
  cases outcome with
  | ok infos => rfl
  | error e => rfl

/-- A class gets its panel, after its parameters were asked for if it is known, and a banner if they
cannot be fetched. -/
theorem Built.added (built : l.Built front page t) (a : AssignedClass) :
    ∃ status log, ClassesPage.loadAssigned (page, t) a =
        ({ page with
            index := (page.setClass a.className .disabled).index
            panels := page.panels.push (.ofAssigned (l.id? a) (l.infos front a) a)
            status },
          { t with sent := l.sentAfter (front ++ [a]), log }) ∧
      (l.MissesAt front a ∧ status = page.showFailure.status ∨
        ¬ l.MissesAt front a ∧ status = page.status) := by
  have id : ((page.setClass a.className .disabled).index.first? Search.classesKey "name"
      a.className).map Record.id = l.id? a := (first?_setClass _ _ _ _).trans (built.known a)
  unfold ClassesPage.loadAssigned
  dsimp only
  rw [id, l.sentAfter_concat front a, ← built.sent, infos]
  cases named : l.id? a with
  | none =>
    refine ⟨page.status, t.log, ?_, .inr ⟨?_, rfl⟩⟩
    · rw [Option.map_none, Option.toList_none, List.append_nil]
      rfl
    · rintro ⟨classId, known, -⟩
      rw [named] at known
      cases known
  | some classId =>
    obtain ⟨log, fetched⟩ := built.fetchParameters classId (page.setClass a.className .disabled)
    dsimp only
    rw [fetched, Option.bind_some]
    cases answer : l.parameters? front classId with
    | some given =>
      refine ⟨page.status, log, rfl, .inr ⟨?_, rfl⟩⟩
      rintro ⟨other, known, missed⟩
      rw [named] at known
      cases known
      rw [answer] at missed
      cases missed
    | none => exact ⟨_, log, rfl, .inl ⟨⟨classId, named, answer⟩, rfl⟩⟩

theorem Built.loadAssigned (built : l.Built front page t) (a : AssignedClass) :
    l.Built (front ++ [a]) (ClassesPage.loadAssigned (page, t) a).1
      (ClassesPage.loadAssigned (page, t) a).2 := by
  obtain ⟨status, log, added, shows⟩ := built.added a
  have known : ∀ b : AssignedClass, ((page.setClass a.className .disabled).index.first?
      Search.classesKey "name" b.className).map Record.id = l.id? b :=
    fun b => (first?_setClass _ _ _ _).trans (built.known b)
  have panels : l.Presented (front ++ [a])
      (page.panels.push (.ofAssigned (l.id? a) (l.infos front a) a)).toList := by
    rw [Rows.toList_push]
    exact built.panels.concat (ClassPanel.presents_ofAssigned _ _ a)
  rw [added]
  rcases shows with ⟨missed, rfl⟩ | ⟨found, rfl⟩
  · exact ⟨built.settings, built.answering, rfl, known, panels, fun _ => rfl,
      fun calm => absurd (misses_concat.mpr (.inr missed)) calm, built.unedited⟩
  · have same : l.Misses (front ++ [a]) ↔ l.Misses front :=
      misses_concat.trans (or_iff_left found)
    exact ⟨built.settings, built.answering, rfl, known, panels,
      fun missed => built.warned (same.mp missed),
      fun calm => built.calm fun missed => calm (same.mpr missed), built.unedited⟩

theorem Built.foldl (built : l.Built front page t) (assigned : List AssignedClass) :
    let next := assigned.foldl ClassesPage.loadAssigned (page, t)
    l.Built (front ++ assigned) next.1 next.2 := by
  induction assigned generalizing front page t with
  | nil =>
    rw [List.append_nil]
    exact built
  | cons a assigned ih =>
    have onward := ih (built.loadAssigned a)
    rw [List.append_assoc, List.singleton_append] at onward
    exact onward

/-- What a new page is when a load got its classes and asked for its configuration. -/
theorem opened (l : FirstLoad) (settings : Settings) :
    let start := ClassesPage.new l.group l.environment settings
    ∃ outcome log, (Backend.configurationOf start.group).run.run
        ((Backend.classes start.environment).run.run l.session).2 =
          (outcome, { l.session with sent := l.sentAfter [], log }) ∧
      outcome.toOption = l.configuration? ∧
      l.Built [] { start.reindexed l.session with panels := start.panels.clear }
        { l.session with sent := l.sentAfter [], log } := by
  intro start
  obtain ⟨classes, log, classesRan, read⟩ := Backend.run_fetchDataset (fun p => p.classes)
    "classes.list" (Backend.queryOf "environment" l.environment) "name" l.session
  obtain ⟨outcome, log', ran, decoded⟩ := Backend.run_fetch
    (fun p => Backend.memberPath p.configuration l.group) "configuration.get" []
    Configuration.decoder { l.session with sent := l.session.sent ++ [l.list], log }
  have called : (Backend.classes start.environment).run.run l.session =
      (classes, { l.session with sent := l.session.sent ++ [l.list], log }) := classesRan
  have sent : l.session.sent ++ [l.list] ++ [l.detail] = l.sentAfter [] := by
    rw [List.append_assoc]
    rfl
  rw [called, ← sent]
  refine ⟨outcome, log', ran, decoded, rfl, rfl, sent, ?_, ?_, ?_, fun _ => rfl, rfl⟩
  · intro b
    change ((start.reindexed l.session).index.first? _ _ _).map Record.id = _
    rw [Search.Index.first?, ClassesPage.reindexed, Search.Index.records_load, called]
    dsimp only
    rw [read]
    rfl
  · refine ⟨rfl, fun before b after same => ?_⟩
    exact absurd same.symm (List.append_ne_nil_of_right_ne_nil _ (List.cons_ne_nil _ _))
  · rintro ⟨before, b, after, same, -⟩
    exact absurd same.symm (List.append_ne_nil_of_right_ne_nil _ (List.cons_ne_nil _ _))

theorem told {shown : Option Banner} {banner : Banner} {failed : Prop}
    (warned : failed → shown = some banner) (calm : ¬ failed → shown = none) :
    (shown = some banner ↔ failed) ∧ (shown = none ↔ ¬ failed) := by
  by_cases missed : failed
  · simp [warned missed, missed]
  · simp [calm missed, missed]

end FirstLoad

/-- Whatever the backend answers, a new page that is loaded asks for the classes, then for the
configuration, and then for the parameters of the assigned classes that are known, one after
another. It presents the assigned classes in order, each with what was answered, and without a
configuration none. A banner tells of a failure if something could not be fetched, and else there is
none; nothing is under way any more, and nothing counts as edited. -/
theorem load_presents_assigned (group : String) (environment : Option String) (settings : Settings)
    (s : Session) :
    let l : FirstLoad := ⟨group, environment, s⟩
    let page := ((ClassesPage.new group environment settings).load s).1
    let t := ((ClassesPage.new group environment settings).load s).2
    (match l.configuration? with
      | some d => l.Presented d.classes page.panels.toList ∧
          t.sent = s.sent ++ l.list :: l.detail :: l.asks d.classes
      | none => page.panels.toList = [] ∧ t.sent = s.sent ++ [l.list, l.detail]) ∧
    (page.status.banner = some ⟨.danger, Failure.generalMessage⟩ ↔ l.Fails) ∧
    (page.status.banner = none ↔ ¬ l.Fails) ∧
    page.status.busy = false ∧ page.status.edited = false := by
  intro l page t
  obtain ⟨outcome, log, answered, decoded, built⟩ := l.opened settings
  rw [FirstLoad.Fails, ← decoded]
  cases outcome with
  | error e =>
    have loaded : (page, t) = _ := ClassesPage.load_of_error answered
    obtain ⟨loadedPage, loadedSession⟩ := Prod.mk.inj loaded
    rw [loadedPage, loadedSession]
    exact ⟨⟨rfl, rfl⟩, iff_of_true rfl trivial, iff_of_false nofun (not_not_intro trivial), rfl,
      rfl⟩
  | ok d =>
    have loaded : (page, t) = _ := ClassesPage.load_of_ok answered
    obtain ⟨loadedPage, loadedSession⟩ := Prod.mk.inj loaded
    rw [loadedPage, loadedSession]
    have last := built.foldl d.classes
    obtain ⟨shown, unshown⟩ := FirstLoad.told last.warned last.calm
    exact ⟨⟨last.panels, last.sent⟩, shown, unshown, rfl, last.unedited⟩

end NodeGroups.Page
