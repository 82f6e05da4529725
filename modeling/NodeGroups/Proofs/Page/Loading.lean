import NodeGroups.Proofs.Page.Classes

set_option autoImplicit false

namespace NodeGroups.Page.ClassesPage

open Backend (Session)
open Search (Record)
open Search.Index (turn)

/-- The records that are off are those of the classes that have a panel. -/
def Agrees (page : ClassesPage) : Prop :=
  ∀ r ∈ page.index.records Search.classesKey,
    (r.state = .disabled ↔ ∃ panel ∈ page.panels.toList, panel.name = r.name)

/-- A load in this session gets the configuration of the group. -/
def GetsConfiguration (page : ClassesPage) (s : Session) : Prop :=
  ∃ c t, (Backend.configurationOf page.group).run.run
    ((Backend.classes page.environment).run.run s).2 = (.ok c, t)

variable {page : ClassesPage}

theorem agrees_iff_names : page.Agrees ↔
    ∀ r ∈ page.index.records Search.classesKey, (r.state = .disabled ↔ r.name ∈ page.names) := by
  simp only [Agrees, names, List.mem_map]

/-- A class that gets its panel is turned off with it. -/
theorem Agrees.loadAssigned (agrees : page.Agrees) (s : Session) (a : Document.AssignedClass) :
    (ClassesPage.loadAssigned (page, s) a).1.Agrees := by
  obtain ⟨classId, infos, status, added, -⟩ := loadAssigned_spec page s a
  rw [added, agrees_iff_names]
  rw [agrees_iff_names] at agrees
  intro r member
  change r ∈ (page.setClass a.className .disabled).index.records Search.classesKey at member
  rw [setClass, Search.Index.records_setStateWhere] at member
  obtain ⟨r, among, rfl⟩ := List.mem_map.mp member
  have named : (turn "name" a.className .disabled r).name = r.name :=
    Option.some.inj (Search.Index.turn_field? "name" a.className .disabled r "name")
  have called : r.field? "name" = some r.name := rfl
  have taken : (page.panels.push (.ofAssigned classId infos a)).toList.map ClassPanel.name =
      page.names ++ [a.className] := by
    rw [Rows.toList_push, List.map_append, List.map_cons, List.map_nil]
    rfl
  change _ ↔ _ ∈ (page.panels.push (.ofAssigned classId infos a)).toList.map ClassPanel.name
  rw [taken, named, Search.Index.turn_state, called, List.mem_append, List.mem_singleton,
    ← agrees r among]
  by_cases same : r.name = a.className
  · simp [same]
  · simp [same]

theorem Agrees.foldl_loadAssigned (agrees : page.Agrees) (s : Session)
    (assigned : List Document.AssignedClass) :
    (assigned.foldl ClassesPage.loadAssigned (page, s)).1.Agrees := by
  induction assigned generalizing page s with
  | nil => exact agrees
  | cons a assigned ih => exact ih (agrees.loadAssigned s a) _

/-- The page when a load got its classes: it is busy, and its records are new. -/
def reindexed (page : ClassesPage) (s : Session) : ClassesPage :=
  { page with
    status := page.status.startLoading
    index := page.index.load Search.classesKey
      (((Backend.classes page.environment).run.run s).1.toOption.getD []) }

/-- The records of a page that just got its classes are on. -/
theorem enabled_of_mem_reindexed (page : ClassesPage) (s : Session) {r : Record}
    (member : r ∈ (page.reindexed s).index.records Search.classesKey) : r.state = .enabled := by
  rw [reindexed, Search.Index.records_load] at member
  refine Backend.enabled_of_toOption (fun records ok => ?_) r (Search.mem_firstOfEach member).1
  exact Backend.classes_enabled (Prod.ext ok rfl :
    (Backend.classes page.environment).run.run s = (.ok records, _))

section Load

variable {s t : Session}

/-- Without a configuration the panels stay, and a banner tells of it. -/
theorem load_of_error {e : Failure}
    (failed : (Backend.configurationOf page.group).run.run
      ((Backend.classes page.environment).run.run s).2 = (.error e, t)) :
    page.load s = ({ page.reindexed s with
      status := (page.reindexed s).showFailure.status.endLoading }, t) := by
  unfold load reindexed
  rcases answered : (Backend.classes page.environment).run.run s with ⟨classes, u⟩
  rw [answered] at failed
  dsimp only at failed ⊢
  rw [failed]
  rfl

/-- With a configuration the panels are those of its classes. -/
theorem load_of_ok {configuration : Document.Configuration}
    (got : (Backend.configurationOf page.group).run.run
      ((Backend.classes page.environment).run.run s).2 = (.ok configuration, t)) :
    page.load s =
      let next := configuration.classes.foldl ClassesPage.loadAssigned
        ({ page.reindexed s with panels := page.panels.clear }, t)
      ({ next.1 with status := next.1.status.endLoading }, next.2) := by
  unfold load reindexed
  rcases answered : (Backend.classes page.environment).run.run s with ⟨classes, u⟩
  rw [answered] at got
  dsimp only at got ⊢
  rw [got]

end Load

/-- Whatever the page was and whatever the backend answers, a load leaves off just the records of
the classes that have a panel, if and only if it got the configuration or no class that it got had a
panel before. -/
theorem load_agrees_iff (page : ClassesPage) (s : Session) :
    (page.load s).1.Agrees ↔ page.GetsConfiguration s ∨
      ∀ r ∈ (page.load s).1.index.records Search.classesKey,
        ∀ panel ∈ page.panels.toList, panel.name ≠ r.name := by
  unfold GetsConfiguration
  rcases answered : (Backend.configurationOf page.group).run.run
    ((Backend.classes page.environment).run.run s).2 with ⟨answer, t⟩
  cases answer with
  | error e =>
    -- The panels stay, and all records are on.
    have got : ¬ ∃ c u, ((Except.error e : Except Failure Document.Configuration), t) =
        (.ok c, u) := by
      rintro ⟨c, u, ok⟩
      cases ok
    rw [or_iff_right got, load_of_error answered]
    refine forall₂_congr fun r member => ?_
    rw [page.enabled_of_mem_reindexed s member]
    change (_ ↔ ∃ panel ∈ page.panels.toList, panel.name = r.name) ↔ _
    simp
  | ok configuration =>
    have cleared : Agrees { page.reindexed s with panels := page.panels.clear } := by
      intro r member
      rw [page.enabled_of_mem_reindexed s member]
      simp
    rw [load_of_ok answered]
    exact iff_of_true (cleared.foldl_loadAssigned t configuration.classes)
      (.inl ⟨configuration, t, rfl⟩)

/-- A second load that gets no configuration turns a class that has a panel back on, and the class
can be picked and gets a second panel. -/
theorem load_reoffers :
    let classes := "[\x7b\"id\":\"1\",\"name\":\"web\"\x7d]"
    let s := Session.start {} (Backend.inTurn
      [classes, "\x7b\"classes\":[\x7b\"puppet_class\":\"web\"\x7d]\x7d", "[]", classes, "?"])
    let (first, s) := (new "g" none {}).load s
    let (page, s) := first.load s
    first.Agrees ∧ ¬ page.Agrees ∧
      (page.after [.picker (.focus .zero .zero), .picker (.click "1"), .addPanel s]).names =
        ["web", "web"] := by
  intro classes s
  refine ⟨?_, ?_, ?_⟩
  · unfold Agrees
    decide +kernel
  · unfold Agrees
    decide +kernel
  · decide +kernel

end NodeGroups.Page.ClassesPage
