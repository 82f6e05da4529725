import NodeGroups.Proofs.Page.Freshness
import NodeGroups.Proofs.Page.Reload
import NodeGroups.Proofs.Page.RulesHistory

set_option autoImplicit false

namespace NodeGroups.Page

open Backend (Session)
open Search (Available Record)

namespace ClassesPage

variable {page : ClassesPage}

/-- What holds of the page after any loads. -/
structure Standing (group : String) (environment : Option String) (page : ClassesPage) : Prop where
  group : page.group = group
  environment : page.environment = environment
  named : page.Named
  panels : page.panels.Distinct
  grounded : page.offering.Grounded

variable {group : String} {environment : Option String}

theorem standing_new (group : String) (environment : Option String) (settings : Settings) :
    Standing group environment (new group environment settings) :=
  ⟨rfl, rfl, ⟨rfl, rfl⟩, Rows.distinct_empty, List.nodup_nil, List.nodup_nil,
    fun _ member => absurd member List.not_mem_nil⟩

/-- A load brings new records and leaves the input as it was. Of the classes that then have a panel
some are off, and those are either the ones of the configuration or the ones that had a panel. -/
theorem renewed_load (standing : Standing group environment page) (s : Session) :
    (page.load s).1.group = page.group ∧ (page.load s).1.environment = page.environment ∧
      (page.load s).1.picker = page.picker ∧ (page.load s).1.panels.Distinct ∧
      ∃ names, (page.load s).1.offering.Renewed names ∧
        (∀ name ∈ names, name ∈ (page.load s).1.names) ∧
        ((page.load s).1.names = page.names ∨ ∃ c t, (Backend.configurationOf page.group).run.run
            ((Backend.classes page.environment).run.run s).2 = (.ok c, t) ∧
          (page.load s).1.names = c.classes.map (·.className)) := by
  have dataset : page.offering.picker.dataset = Search.classesKey := standing.named.1
  have fresh : Offering.Renewed
      { page.offering with index := (page.reindexed s).index } [] := by
    have enabled := Backend.enabled_of_toOption fun records ok =>
      Backend.classes_enabled (Prod.ext ok rfl :
        (Backend.classes page.environment).run.run s = (.ok records, _))
    have loaded := page.offering.renewed_load enabled
    rw [dataset] at loaded
    exact loaded
  rcases answered : (Backend.configurationOf page.group).run.run
    ((Backend.classes page.environment).run.run s).2 with ⟨answer, t⟩
  cases answer with
  | error e =>
    rw [load_of_error answered]
    exact ⟨rfl, rfl, rfl, standing.panels, [], fresh,
      fun _ member => absurd member List.not_mem_nil, .inl rfl⟩
  | ok configuration =>
    rw [load_of_ok answered]
    have spec := foldl_loadAssigned_spec { page.reindexed s with panels := page.panels.clear } t
      configuration.classes standing.named (Rows.distinct_clear _)
    generalize configuration.classes.foldl ClassesPage.loadAssigned _ = next at spec ⊢
    obtain ⟨group, environment, panels, offers⟩ := spec
    have marked := fresh.markAll (configuration.classes.map (·.className))
    have names : next.1.names = configuration.classes.map (·.className) :=
      congrArg Offering.taken offers
    refine ⟨group, environment, congrArg Offering.picker offers, panels,
      configuration.classes.map (·.className), ?_, ?_, .inr ⟨configuration, t, rfl, names⟩⟩
    · change next.1.offering.Renewed _
      rw [offers]
      exact ⟨marked.identified, marked.off⟩
    · change ∀ name ∈ _, name ∈ next.1.names
      rw [names]
      exact fun name member => member

theorem Standing.move (standing : Standing group environment page) {a : Action}
    (other : a.isLoad = false) :
    Standing group environment (page.act a) ∧
      Offering.Move page.offering (page.act a).offering := by
  have follows := follows_act standing.named standing.panels other
  obtain ⟨dataset, field⟩ := follows.move.source
  exact ⟨⟨follows.group.trans standing.group, follows.environment.trans standing.environment,
    ⟨dataset.trans standing.named.1, field.trans standing.named.2⟩, follows.panels,
    standing.grounded.move follows.move⟩, follows.move⟩

theorem Standing.load (standing : Standing group environment page) (s : Session) :
    Standing group environment (page.load s).1 := by
  obtain ⟨group, environment, picker, panels, names, renewed, taken, -⟩ := renewed_load standing s
  refine ⟨group.trans standing.group, environment.trans standing.environment, ?_, panels,
    renewed.grounded taken ?_⟩
  · rw [Named, picker]
    exact standing.named
  · change ((page.load s).1.picker.list.toList.map _).Nodup
    rw [picker]
    exact standing.grounded.listed

theorem Standing.after (standing : Standing group environment page) (actions : List Action) :
    Standing group environment (page.after actions) := by
  refine run_of_loads act Action.isLoad (Standing group environment) standing
    (fun _ _ other sound => (sound.move other).1) fun _ a _ _ loading sound => ?_
  cases a with
  | load s => exact sound.load s
  | _ => cases loading

/-- However the page goes on without another load, what is picked then is on offer. -/
def StaysFresh (page : ClassesPage) : Prop :=
  ∀ actions, (∀ a ∈ actions, a.isLoad = false) → (page.after actions).offering.Fresh

theorem Standing.staysFresh_iff (standing : Standing group environment page) :
    page.StaysFresh ↔ page.offering.UpToDate := by
  refine stays_fresh_iff act Action.isLoad (Standing group environment) offering
    (fun _ sound => sound.grounded) (fun _ _ other sound => sound.move other) standing
    ClassesPage.mode (fun id => .picker (.click id)) (fun _ => rfl) (fun _ _ => rfl)
    fun name taken => ?_
  -- A class that has a panel is given back by removing it.
  obtain ⟨panel, among, rfl⟩ := List.mem_map.mp taken
  obtain ⟨⟨h, b⟩, there, rfl⟩ := List.mem_map.mp among
  have removed : page.act (.removePanel h) = { page.setClass b.name .enabled with
      panels := page.panels.erase h, status := page.status.markEdited } := by
    rw [act, removePanel, standing.panels.get?_of_entry there]
    rfl
  refine ⟨.removePanel h, rfl, ?_⟩
  rw [removed, standing.named.mark]
  exact ⟨rfl, rfl, rfl⟩

/-- An input that is closed and without a pick is up to date with whatever a load brings. -/
theorem Standing.upToDate_load (standing : Standing group environment page)
    (closed : page.picker.isOpen = false) (unpicked : page.picker.selection = none) (s : Session) :
    (page.load s).1.offering.UpToDate := by
  obtain ⟨-, -, picker, -⟩ := renewed_load standing s
  refine Offering.upToDate_of_idle ?_ ?_
  · change (page.load s).1.picker.selection = none
    rw [picker, unpicked]
  · change (page.load s).1.picker.isOpen = false
    rw [picker, closed]

theorem Agrees.tidy (agrees : page.Agrees) (named : page.Named) (distinct : page.names.Nodup) :
    page.offering.Tidy := by
  refine ⟨distinct, fun r member name has => ?_⟩
  change r ∈ page.index.records page.picker.dataset at member
  change r.field? page.picker.field = some name at has
  rw [named.1] at member
  rw [named.2] at has
  cases has
  exact agrees_iff_names.mp agrees r member

/-- A load that names no class twice leaves no class with two panels if there was none before. -/
theorem nodup_load (standing : Standing group environment page) (distinct : page.names.Nodup)
    {s : Session} (once : NamesOnce group environment s) : (page.load s).1.names.Nodup := by
  obtain ⟨-, -, -, -, -, -, -, kept | ⟨c, t, got, names⟩⟩ := renewed_load standing s
  · rw [kept]
    exact distinct
  · rw [standing.group, standing.environment] at got
    rw [names]
    exact once c t got

/-- While each load leaves what is picked and shown up to date, and the records of just those
classes off that have a panel, no class gets a second panel. -/
theorem tidy_after (settings : Settings) {actions : List Action}
    (once : ∀ s, .load s ∈ actions → NamesOnce group environment s)
    (loads : ∀ front s back, actions = front ++ .load s :: back →
      let loaded := (new group environment settings).after (front ++ [.load s])
      loaded.Agrees ∧ loaded.offering.UpToDate) :
    let page := (new group environment settings).after actions
    Standing group environment page ∧ page.offering.Tidy ∧ page.offering.UpToDate := by
  refine tidy_of_loads act Action.isLoad (Standing group environment) offering
    (fun _ sound => sound.grounded) (fun _ _ other sound => sound.move other)
    (standing_new group environment settings)
    ⟨List.nodup_nil, fun _ member => absurd member List.not_mem_nil⟩ ⟨nofun, nofun⟩ ?_
  intro front a back same loading standing tidy
  cases a with
  | load s =>
    have loaded := loads front s back same
    rw [after, List.foldl_append] at loaded
    have next := standing.load s
    have distinct := nodup_load standing tidy.distinct (once s (by simp [same]))
    exact ⟨next, loaded.1.tidy next.named distinct, loaded.2⟩
  | _ => cases loading

end ClassesPage

namespace RulesPage

variable {page : RulesPage} {group : String}

/-- What holds of the page after any loads. -/
structure Standing (group : String) (page : RulesPage) : Prop where
  group : page.group = group
  named : page.Named
  recalls : ∃ past, page.Recalls past
  grounded : page.offering.Grounded

theorem standing_new (group : String) (masterZone : Option String) (settings : Settings) :
    Standing group (new group masterZone settings) :=
  ⟨rfl, ⟨rfl, rfl⟩, ⟨[], recalls_new group masterZone settings⟩, List.nodup_nil, List.nodup_nil,
    fun _ member => absurd member List.not_mem_nil⟩

/-- A load leaves the input as it was. If it gets rules it brings new records, of which those of the
pinned nodes are off; otherwise records and nodes stay. -/
theorem load_cases (named : page.Named) (s : Session) :
    (page.load s).1.group = page.group ∧
      (page.load s).1.offering.picker = page.offering.picker ∧
      ((page.load s).1.offering.records = page.offering.records ∧
          (page.load s).1.offering.taken = page.offering.taken ∨
        ∃ d t, (Backend.rulesOf page.group).run.run s = (.ok d, t) ∧
          (page.load s).1.offering.Renewed d.nodes ∧
          (page.load s).1.offering.taken = d.nodes) := by
  have source : (page.load s).1.offering.picker = page.offering.picker := (source_load page s).1
  rcases answered : (Backend.rulesOf page.group).run.run s with ⟨rules, t⟩
  cases rules with
  | error e =>
    have different : page.nodeInput.dataset ≠ Search.factsKey := by
      rw [named.1]
      decide
    unfold RulesPage.load
    rw [answered]
    exact ⟨rfl, rfl, .inl ⟨Search.Index.records_load_of_ne _ different _, rfl⟩⟩
  | ok d =>
    have group : (page.load s).1.group = page.group := by
      unfold RulesPage.load
      rw [answered]
      rfl
    have nodes : (page.load s).1.nodes = d.nodes := congrArg (·.2.2) (shown_load page answered)
    have enabled := Backend.enabled_of_toOption fun records ok =>
      Backend.nodes_enabled (Prod.ext ok rfl :
        (Backend.nodes page.masterZone).run.run t = (.ok records, _))
    have renewed := (page.offering.renewed_load enabled).markAll d.nodes
    simp only [Offering.markAll, offering, named.1, named.2] at renewed
    refine ⟨group, source, .inr ⟨d, t, rfl, renewed.of_same source ?_, nodes⟩⟩
    change (page.load s).1.index.records (page.load s).1.nodeInput.dataset =
      (loadNodes page.index _ d.nodes).records page.nodeInput.dataset
    rw [(source_load page s).1, named.1]
    exact records_load page answered

theorem Standing.move (standing : Standing group page) {a : Action} (other : a.isLoad = false) :
    Standing group (page.act a) ∧ Offering.Move page.offering (page.act a).offering := by
  have follows := follows_act standing.named other
  obtain ⟨dataset, field⟩ := follows.move.source
  obtain ⟨past, recalls⟩ := standing.recalls
  exact ⟨⟨follows.group.trans standing.group,
    ⟨dataset.trans standing.named.1, field.trans standing.named.2⟩, ⟨_, recalls.act a⟩,
    standing.grounded.move follows.move⟩, follows.move⟩

theorem Standing.load (standing : Standing group page) (s : Session) :
    Standing group (page.load s).1 := by
  obtain ⟨past, recalls⟩ := standing.recalls
  obtain ⟨same, picker, cases⟩ := load_cases standing.named s
  have named : (page.load s).1.Named := by
    rw [Named, (source_load page s).1]
    exact standing.named
  refine ⟨same.trans standing.group, named, ⟨_, recalls.load s⟩, ?_⟩
  rcases cases with ⟨records, nodes⟩ | ⟨d, t, -, renewed, nodes⟩
  · exact standing.grounded.of_same picker records nodes
  · refine renewed.grounded (fun name among => nodes ▸ among) ?_
    rw [picker]
    exact standing.grounded.listed

theorem Standing.after (standing : Standing group page) (actions : List Action) :
    Standing group (page.after actions) := by
  refine run_of_loads act Action.isLoad (Standing group) standing
    (fun _ _ other sound => (sound.move other).1) fun _ a _ _ loading sound => ?_
  cases a with
  | load s => exact sound.load s
  | _ => cases loading

/-- However the page goes on without another load, what is picked then is on offer. -/
def StaysFresh (page : RulesPage) : Prop :=
  ∀ actions, (∀ a ∈ actions, a.isLoad = false) → (page.after actions).offering.Fresh

theorem Standing.staysFresh_iff (standing : Standing group page) :
    page.StaysFresh ↔ page.offering.UpToDate := by
  refine stays_fresh_iff act Action.isLoad (Standing group) offering
    (fun _ sound => sound.grounded) (fun _ _ other sound => sound.move other) standing
    RulesPage.mode (fun id => .nodeInput (.click id)) (fun _ => rfl) (fun _ _ => rfl)
    fun name taken => ?_
  -- A pinned node is given back by unpinning it.
  obtain ⟨row, among, rfl⟩ := List.mem_map.mp taken
  obtain ⟨⟨h, row⟩, there, rfl⟩ := List.mem_map.mp among
  obtain ⟨past, recalls⟩ := standing.recalls
  have removed : page.act (.unpin h) = { page with
      index := setNode page.index (nodeOf row) .enabled
      pinned := page.pinned.erase h
      status := page.status.markEdited } := by
    rw [act, unpin, recalls.pinned.distinct.get?_of_entry there]
  refine ⟨.unpin h, rfl, ?_⟩
  rw [removed, standing.named.mark]
  exact ⟨rfl, rfl, rfl⟩

/-- An input that is closed and without a pick is up to date with whatever a load brings. -/
theorem upToDate_load (closed : page.nodeInput.isOpen = false)
    (unpicked : page.nodeInput.selection = none) (s : Session) :
    (page.load s).1.offering.UpToDate := by
  refine Offering.upToDate_of_idle ?_ ?_
  · change (page.load s).1.nodeInput.selection = none
    rw [(source_load page s).1, unpicked]
  · change (page.load s).1.nodeInput.isOpen = false
    rw [(source_load page s).1, closed]

/-- A load that lists no node twice pins no node twice and leaves just the pinned ones off. -/
theorem Standing.tidy_load (standing : Standing group page) (tidy : page.offering.Tidy)
    {s : Session} (once : ListsOnce group s) : (page.load s).1.offering.Tidy := by
  obtain ⟨-, picker, ⟨records, nodes⟩ | ⟨d, t, got, renewed, nodes⟩⟩ :=
    load_cases standing.named s
  · exact tidy.of_same picker records nodes
  · rw [standing.group] at got
    rw [← nodes] at renewed
    refine renewed.tidy ?_
    rw [nodes]
    exact once d t got

/-- While each load leaves what is picked and shown up to date, no node is pinned twice. -/
theorem tidy_after (masterZone : Option String) (settings : Settings) {actions : List Action}
    (once : ∀ s, .load s ∈ actions → ListsOnce group s)
    (loads : ∀ front s back, actions = front ++ .load s :: back →
      ((new group masterZone settings).after (front ++ [.load s])).offering.UpToDate) :
    let page := (new group masterZone settings).after actions
    Standing group page ∧ page.offering.Tidy ∧ page.offering.UpToDate := by
  refine tidy_of_loads act Action.isLoad (Standing group) offering
    (fun _ sound => sound.grounded) (fun _ _ other sound => sound.move other)
    (standing_new group masterZone settings)
    ⟨List.nodup_nil, fun _ member => absurd member List.not_mem_nil⟩ ⟨nofun, nofun⟩ ?_
  intro front a back same loading standing tidy
  cases a with
  | load s =>
    have upToDate := loads front s back same
    rw [after, List.foldl_append] at upToDate
    exact ⟨standing.load s, standing.tidy_load tidy (once s (by simp [same])), upToDate⟩
  | _ => cases loading

theorem listsOnce_of_listed {s : Session} {names : List String} (once : names.Nodup)
    (listed : ((Backend.rulesOf group).run.run s).1.toOption.map (·.nodes) = some names) :
    ListsOnce group s := by
  intro d t found
  rw [found] at listed
  cases listed
  exact once

end RulesPage

/-- Whatever was done to a page, and however often it was loaded: what is picked is on offer,
however the page goes on without another load, just if what the input holds and shows is up to date.
A load that finds the input closed and without a pick leaves it so. While each load does, and leaves
just the classes off that have a panel, what is picked is on offer and not taken, no two panels are
of one class and no node is pinned twice, if only no document names a class or a node twice. -/
theorem picks_stay_fresh_iff (group : String) (settings : Settings) :
    (∀ (environment : Option String) (actions : List ClassesPage.Action),
      let start := ClassesPage.new group environment settings
      let page := start.after actions
      (page.StaysFresh ↔ page.offering.UpToDate) ∧
      (page.picker.isOpen = false → page.picker.selection = none →
        ∀ s, (page.load s).1.offering.UpToDate) ∧
      ((∀ s, .load s ∈ actions → ClassesPage.NamesOnce group environment s) →
        (∀ front s back, actions = front ++ .load s :: back →
          (start.after (front ++ [.load s])).Agrees ∧
            (start.after (front ++ [.load s])).offering.UpToDate) →
        page.names.Nodup ∧ ∀ p, page.picker.selection = some p →
          Available (page.index.records Search.classesKey) "name" p.recordId p.label ∧
            p.label ∉ page.names)) ∧
    ∀ (masterZone : Option String) (actions : List RulesPage.Action),
      let start := RulesPage.new group masterZone settings
      let page := start.after actions
      (page.StaysFresh ↔ page.offering.UpToDate) ∧
      (page.nodeInput.isOpen = false → page.nodeInput.selection = none →
        ∀ s, (page.load s).1.offering.UpToDate) ∧
      ((∀ s, .load s ∈ actions → RulesPage.ListsOnce group s) →
        (∀ front s back, actions = front ++ .load s :: back →
          (start.after (front ++ [.load s])).offering.UpToDate) →
        page.nodes.Nodup ∧ ∀ p, page.nodeInput.selection = some p →
          Available (page.index.records Search.certnameKey) "certname" p.recordId p.label ∧
            p.label ∉ page.nodes) := by
  constructor
  · intro environment actions start page
    have standing := (ClassesPage.standing_new group environment settings).after actions
    refine ⟨standing.staysFresh_iff, standing.upToDate_load, fun once loads => ?_⟩
    obtain ⟨-, tidy, upToDate⟩ := ClassesPage.tidy_after settings once loads
    refine ⟨tidy.distinct, fun p picked => ⟨?_, upToDate.picked.free tidy picked⟩⟩
    rw [← standing.named.1, ← standing.named.2]
    exact upToDate.picked p picked
  · intro masterZone actions start page
    have standing := (RulesPage.standing_new group masterZone settings).after actions
    refine ⟨standing.staysFresh_iff, RulesPage.upToDate_load, fun once loads => ?_⟩
    obtain ⟨-, tidy, upToDate⟩ := RulesPage.tidy_after masterZone settings once loads
    refine ⟨tidy.distinct, fun p picked => ⟨?_, upToDate.picked.free tidy picked⟩⟩
    rw [← standing.named.1, ← standing.named.2]
    exact upToDate.picked p picked

/-- A load in vain, and one that brings a pinned node, after which another one is picked. -/
theorem picks_stay_fresh_iff_reloaded :
    let s := Session.start {} (Backend.inTurn ["?"])
    let t := Session.start {} (Backend.inTurn ["\x7b\"match_type\":\"ALL\",\"facts\":[]," ++
        "\"nodes\":[\"n\"]\x7d", "[\x7b\"id\":\"1\",\"certname\":\"m\"\x7d]"])
    let actions : List RulesPage.Action :=
      [.load s, .load t, .nodeInput (.focus .zero .zero), .nodeInput (.click "1")]
    let page := (RulesPage.new "g" none {}).after actions
    RulesPage.ListsOnce "g" s ∧ RulesPage.ListsOnce "g" t ∧
      page.nodeInput.selection = some ⟨"1", "m"⟩ ∧ page.nodes = ["n"] ∧
      Available (page.index.records Search.certnameKey) "certname" "1" "m" ∧ "m" ∉ page.nodes := by
  intro s t actions page
  have vain : RulesPage.ListsOnce "g" s := by
    intro d u found
    have failed : ((Backend.rulesOf "g").run.run s).1.toOption.isNone = true := by decide +kernel
    rw [found] at failed
    cases failed
  have brings : RulesPage.ListsOnce "g" t :=
    RulesPage.listsOnce_of_listed (List.nodup_singleton "n") (by decide +kernel)
  have once : ∀ u, .load u ∈ actions → RulesPage.ListsOnce "g" u := by
    intro u member
    have which : u = s ∨ u = t := by simpa [actions] using member
    rcases which with rfl | rfl
    · exact vain
    · exact brings
  -- Both loads find the input closed and without a pick.
  have loads : ∀ front u back, actions = front ++ .load u :: back →
      ((RulesPage.new "g" none {}).after (front ++ [.load u])).offering.UpToDate := by
    intro front u back same
    have which : (front = [] ∧ u = s) ∨ (front = [.load s] ∧ u = t) := by
      rcases front with _ | ⟨_, _ | ⟨_, _ | ⟨_, _ | ⟨_, front⟩⟩⟩⟩ <;> simp [actions] at same ⊢
      · exact same.1.symm
      · exact ⟨same.1.symm, same.2.1.symm⟩
    have kept : ((RulesPage.new "g" none {}).act (.load s)).nodeInput =
        (RulesPage.new "g" none {}).nodeInput := (RulesPage.source_load _ s).1
    rcases which with ⟨rfl, rfl⟩ | ⟨rfl, rfl⟩
    · exact RulesPage.upToDate_load rfl rfl s
    · exact RulesPage.upToDate_load (congrArg Picker.isOpen kept) (congrArg Picker.selection kept) t
  obtain ⟨picked, nodes⟩ :
      page.nodeInput.selection = some ⟨"1", "m"⟩ ∧ page.nodes = ["n"] := by decide +kernel
  clear_value actions
  obtain ⟨-, fresh⟩ : page.nodes.Nodup ∧ ∀ p, page.nodeInput.selection = some p →
      Available (page.index.records Search.certnameKey) "certname" p.recordId p.label ∧
        p.label ∉ page.nodes := ((picks_stay_fresh_iff "g" {}).2 none actions).2.2 once loads
  exact ⟨vain, brings, picked, nodes, fresh _ picked⟩

/-- A load that brings the picked node as a pinned one turns its record off, but keeps the pick, and
the node is pinned a second time. -/
theorem stale_pick_pins_twice :
    let nodes := "[\x7b\"id\":\"1\",\"certname\":\"web\"\x7d]"
    let s := Session.start {} (Backend.inTurn
      ["\x7b\"match_type\":\"ALL\",\"facts\":[],\"nodes\":[]\x7d", nodes])
    let t := Session.start {} (Backend.inTurn
      ["\x7b\"match_type\":\"ALL\",\"facts\":[],\"nodes\":[\"web\"]\x7d", nodes])
    let page := (RulesPage.new "g" none {}).after
      [.load s, .nodeInput (.focus .zero .zero), .nodeInput (.click "1"), .load t]
    RulesPage.ListsOnce "g" s ∧ RulesPage.ListsOnce "g" t ∧ page.hasPick = true ∧
      ¬ page.offering.Fresh ∧ page.nodes = ["web"] ∧ (page.act .pin).nodes = ["web", "web"] := by
  intro nodes s t page
  obtain ⟨can, picked, nodes, pinned⟩ : page.hasPick = true ∧
      page.offering.picker.selection = some ⟨"1", "web"⟩ ∧ page.nodes = ["web"] ∧
        (page.act .pin).nodes = ["web", "web"] := by decide +kernel
  have off : ¬ Available page.offering.records page.offering.picker.field "1" "web" := by
    unfold Available
    decide +kernel
  have before : RulesPage.ListsOnce "g" s :=
    RulesPage.listsOnce_of_listed List.nodup_nil (by decide +kernel)
  have again : RulesPage.ListsOnce "g" t :=
    RulesPage.listsOnce_of_listed (List.nodup_singleton "web") (by decide +kernel)
  exact ⟨before, again, can, fun fresh => off (fresh ⟨"1", "web"⟩ picked), nodes, pinned⟩

end NodeGroups.Page
