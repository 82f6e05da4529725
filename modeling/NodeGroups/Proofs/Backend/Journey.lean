import NodeGroups.Proofs.Backend.Datasets

set_option autoImplicit false

namespace NodeGroups.Backend

section Sequence

variable {ε α β : Type} {x : ExceptT ε (StateM Session) α} {f : α → ExceptT ε (StateM Session) β}
  {s t : Session}

theorem run_bind_of_ok {a : α} (ok : x.run.run s = (.ok a, t)) :
    (x >>= f).run.run s = (f a).run.run t := by
  rw [ExceptT.run_bind, StateT.run_bind, ok]
  rfl

theorem run_bind_of_error {e : ε} (failed : x.run.run s = (.error e, t)) :
    (x >>= f).run.run s = (.error e, t) := by
  rw [ExceptT.run_bind, StateT.run_bind, failed]
  rfl

end Sequence

/-- The operations of the backend, each with its method and a path that it may have. -/
inductive Endpoint (p : Paths) : (operation : String) → Method → (path : String) → Prop
  | classes : Endpoint p "classes.list" .get p.classes
  | nodes : Endpoint p "nodes.list" .get p.nodes
  | facts : Endpoint p "facts.list" .get p.facts
  | parameters : Endpoint p "parameters.list" .get p.parameters
  | environments : Endpoint p "environments.list" .get p.environments
  | configuration (group : String) :
      Endpoint p "configuration.get" .get (memberPath p.configuration group)
  | putConfiguration (group : String) :
      Endpoint p "configuration.put" .put (memberPath p.configuration group)
  | rules (group : String) : Endpoint p "rules.get" .get (memberPath p.rules group)
  | putRules (group : String) : Endpoint p "rules.put" .put (memberPath p.rules group)
  | groupVariables (group : String) :
      Endpoint p "variables.get" .get (memberPath p.groupVariables group)
  | putVariables (group : String) :
      Endpoint p "variables.put" .put (memberPath p.groupVariables group)
  | synchronization : Endpoint p "master_zone.refresh" .post p.synchronization
  | classification : Endpoint p "nodes.classifier" .get p.classification

section Journey

variable {ε α β : Type}

/-- What holds between the states of a session before and after: it holds across nothing, across a
request that reads, and across two steps if it holds across each. -/
structure Journey (R : Session → Session → Prop) : Prop where
  refl (s : Session) : R s s
  trans {s t u : Session} (first : R s t) (second : R t u) : R s u
  get {s : Session} {operation path : String}
    (endpoint : Endpoint s.settings.paths operation .get path) (query : List (String × String)) :
    R s ((send operation .get path query none).run.run s).2

/-- A relation holds across a computation wherever that starts. -/
def Runs (R : Session → Session → Prop) (call : ExceptT ε (StateM Session) α) : Prop :=
  ∀ s, R s (call.run.run s).2

variable {R : Session → Session → Prop}

/-- A call has the paths of the session that it starts in. -/
theorem across_paths {f : Paths → Call α} {s : Session}
    (onward : R s ((f s.settings.paths).run.run s).2) : R s ((paths >>= f).run.run s).2 := onward

variable (journey : Journey R)

include journey

theorem Journey.pure (a : α) : Runs R (pure a : ExceptT ε (StateM Session) α) := journey.refl

theorem Journey.throw (e : ε) : Runs R (throw e : ExceptT ε (StateM Session) α) := journey.refl

theorem Journey.bind_at {call : ExceptT ε (StateM Session) α}
    {f : α → ExceptT ε (StateM Session) β} {s : Session} (first : R s (call.run.run s).2)
    (onward : ∀ a, Runs R (f a)) : R s ((call >>= f).run.run s).2 := by
  rcases answered : call.run.run s with ⟨answer, t⟩
  rw [answered] at first
  cases answer with
  | ok a =>
    rw [run_bind_of_ok answered]
    exact journey.trans first (onward a t)
  | error e =>
    rw [run_bind_of_error answered]
    exact first

theorem Journey.bind {call : ExceptT ε (StateM Session) α}
    {f : α → ExceptT ε (StateM Session) β} (first : Runs R call) (onward : ∀ a, Runs R (f a)) :
    Runs R (call >>= f) := fun s => journey.bind_at (first s) onward

theorem Journey.fetch {pathOf : Paths → String} {operation : String}
    (endpoint : ∀ p, Endpoint p operation .get (pathOf p)) (query : List (String × String))
    (decoder : Json.Decoder α) :
    Runs R (paths >>= fun p => Backend.fetch operation (pathOf p) query decoder) := by
  intro s
  refine across_paths (journey.bind_at (journey.get (endpoint s.settings.paths) query)
    fun body => ?_)
  split
  · exact journey.pure _
  · exact journey.throw _

theorem Journey.fetchDataset {pathOf : Paths → String} {operation : String}
    (endpoint : ∀ p, Endpoint p operation .get (pathOf p)) (query : List (String × String))
    (labelField : String) :
    Runs R (paths >>= fun p => Backend.fetchDataset operation (pathOf p) query labelField) := by
  unfold Backend.fetchDataset
  rw [← bind_assoc]
  refine journey.bind (journey.fetch endpoint query _) fun entries => ?_
  split
  · exact journey.pure _
  · exact journey.throw _

theorem Journey.classes (environment : Option String) : Runs R (classes environment) :=
  journey.fetchDataset (fun _ => .classes) _ _

theorem Journey.nodes (masterZone : Option String) : Runs R (nodes masterZone) :=
  journey.fetchDataset (fun _ => .nodes) _ _

theorem Journey.facts (masterZone : Option String) : Runs R (facts masterZone) :=
  journey.fetchDataset (fun _ => .facts) _ _

theorem Journey.parametersOf (classId : String) : Runs R (parametersOf classId) :=
  journey.fetch (fun _ => .parameters) _ _

theorem Journey.environmentsOf (masterZone : String) : Runs R (environmentsOf masterZone) := by
  unfold Backend.environmentsOf
  rw [← bind_assoc]
  exact journey.bind (journey.fetch (fun _ => .environments) _ _) fun all => journey.pure _

theorem Journey.configurationOf (group : String) : Runs R (configurationOf group) :=
  journey.fetch (fun _ => .configuration group) _ _

theorem Journey.rulesOf (group : String) : Runs R (rulesOf group) :=
  journey.fetch (fun _ => .rules group) _ _

theorem Journey.variablesOf (group : String) : Runs R (variablesOf group) :=
  journey.fetch (fun _ => .groupVariables group) _ _

theorem Journey.classificationOf (certname masterId : String) :
    Runs R (classificationOf certname masterId) := by
  intro s
  refine across_paths (journey.bind_at (journey.get .classification _) fun body => ?_)
  split
  · exact journey.pure _
  · split
    · exact journey.pure _
    · exact journey.throw _

end Journey

end NodeGroups.Backend
