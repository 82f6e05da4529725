import NodeGroups.Proofs.Backend.Exchange

set_option autoImplicit false

namespace NodeGroups.Backend

open Search (Record)

def Succeeds (answer : Except Failure Response) : Prop :=
  ∃ r, answer = .ok r ∧ r.isSuccess = true

/-- Two requests came out in the same way: both failed, or they were answered the same. -/
inductive Agree : Except Failure Response → Except Failure Response → Prop
  | same (answer : Except Failure Response) : Agree answer answer
  | failed {first second : Except Failure Response} (before : ¬ Succeeds first)
      (after : ¬ Succeeds second) : Agree first second

/-- Requests that are sent one after another come out after `t` in the same way as after `s`. -/
def AnswersAlike (s t : Session) (reads : List Request) : Prop :=
  ∀ front q back, reads = front ++ q :: back →
    Agree (s.answering (s.sent ++ front) q) (t.answering (t.sent ++ front) q)

section Agree

variable {α : Type} {first second : Except Failure Response}

theorem documentIn?_of_not_succeeds (decoder : Json.Decoder α) (failed : ¬ Succeeds first) :
    documentIn? decoder first = none := by
  cases first with
  | error e => rfl
  | ok r =>
    rw [documentIn?]
    split
    · next success => exact absurd ⟨r, rfl, success⟩ failed
    · rfl

theorem Agree.documentIn?_eq (agree : Agree first second) (decoder : Json.Decoder α) :
    documentIn? decoder second = documentIn? decoder first := by
  cases agree with
  | same => rfl
  | failed before after =>
    rw [documentIn?_of_not_succeeds decoder before, documentIn?_of_not_succeeds decoder after]

theorem Agree.recordsIn?_eq (agree : Agree first second) (labelField : String) :
    recordsIn? labelField second = recordsIn? labelField first := by
  rw [recordsIn?, recordsIn?, agree.documentIn?_eq]

end Agree

section Alike

variable {s t u v : Session} {reads more : List Request}

theorem AnswersAlike.left (alike : AnswersAlike s t (reads ++ more)) : AnswersAlike s t reads := by
  rintro front q back rfl
  refine alike front q (back ++ more) ?_
  rw [List.append_assoc, List.cons_append]

theorem AnswersAlike.right (alike : AnswersAlike s t (reads ++ more))
    (first : u.answering = s.answering ∧ u.sent = s.sent ++ reads)
    (second : v.answering = t.answering ∧ v.sent = t.sent ++ reads) : AnswersAlike u v more := by
  rintro front q back rfl
  have agree := alike (reads ++ front) q back (List.append_assoc _ _ _).symm
  rw [first.1, first.2, second.1, second.2, List.append_assoc, List.append_assoc]
  exact agree

/-- A backend that does not look at what it was asked before answers everything as it did. -/
theorem AnswersAlike.of_forgetful (kept : t.answering = s.answering)
    (forgetful : ∀ before other q, s.answering before q = s.answering other q)
    (reads : List Request) : AnswersAlike s t reads := by
  intro front q back _
  rw [kept, forgetful (t.sent ++ front) (s.sent ++ front) q]
  exact .same _

end Alike

/-- A reading: it sends nothing but requests that read, and where those come out as they did before,
it gives the same again. -/
structure Repeats {α : Type} (reading : StateM Session α) : Prop where
  continues : ∀ s, Continues s (reading.run s).2
  again : ∀ {s t : Session} {reads : List Request}, (reading.run s).2.sent = s.sent ++ reads →
    t.settings = s.settings → AnswersAlike s t reads →
      (reading.run t).1 = (reading.run s).1 ∧ (reading.run t).2.sent = t.sent ++ reads

section Repeats

variable {α β : Type}

theorem Repeats.pure (a : α) : Repeats (Pure.pure a : StateM Session α) where
  continues := .refl
  again {s t reads} sent _ _ := by
    have none : reads = [] := List.append_right_eq_self.mp sent.symm
    rw [none, List.append_nil]
    exact ⟨rfl, rfl⟩

theorem Repeats.bind {x : StateM Session α} {f : α → StateM Session β} (first : Repeats x)
    (onward : ∀ a, Repeats (f a)) : Repeats (x >>= f) where
  continues s := (first.continues s).trans ((onward _).continues _)
  again {s t reads} sent settings alike := by
    -- What is sent is what `x` sends and then what goes on from its result.
    obtain ⟨here, sentHere, -⟩ := (first.continues s).sent
    obtain ⟨there, sentThere, -⟩ := ((onward (x.run s).1).continues (x.run s).2).sent
    have parts : reads = here ++ there := by
      refine List.append_cancel_left (sent.symm.trans ?_)
      rw [← List.append_assoc, ← sentHere]
      exact sentThere
    subst parts
    obtain ⟨same, sentAgain⟩ := first.again sentHere settings alike.left
    have before := first.continues s
    have after := first.continues t
    have kept : (x.run t).2.settings = (x.run s).2.settings := by
      rw [after.settings, before.settings, settings]
    obtain ⟨result, sentOn⟩ := (onward (x.run s).1).again sentThere kept
      (alike.right ⟨before.answering, sentHere⟩ ⟨after.answering, sentAgain⟩)
    rw [sentAgain, List.append_assoc] at sentOn
    rw [← same] at result sentOn
    exact ⟨result.trans (by rw [same]; rfl), sentOn⟩

theorem Repeats.mapM {f : α → StateM Session β} (each : ∀ a, Repeats (f a)) (as : List α) :
    Repeats (as.mapM f) := by
  induction as with
  | nil =>
    rw [List.mapM_nil]
    exact .pure []
  | cons a as ih =>
    rw [List.mapM_cons]
    exact (each a).bind fun b => ih.bind fun bs => .pure (b :: bs)

/-- A call of which it does not matter why it fails. -/
def attempt (call : Call α) : StateM Session (Option α) := fun s =>
  ((call.run.run s).1.toOption, (call.run.run s).2)

theorem run_attempt {call : Call α} {s t : Session} {outcome : Except Failure α}
    (ran : call.run.run s = (outcome, t)) : (attempt call).run s = (outcome.toOption, t) := by
  change ((call.run.run s).1.toOption, (call.run.run s).2) = _
  rw [ran]

/-- A call is repeated if it sends one request, which depends on the settings only, and comes out as
the answer says. -/
theorem repeats_attempt {call : Call α} (pathOf : Paths → String) (query : List (String × String))
    (result : Except Failure Response → Option α)
    (asks : ∀ s : Session,
      let q := s.request .get (pathOf s.settings.paths) query none
      ∃ outcome log, call.run.run s = (outcome, { s with sent := s.sent ++ [q], log }) ∧
        outcome.toOption = result (s.answering s.sent q))
    (respects : ∀ {first second : Except Failure Response}, Agree first second →
      result second = result first) : Repeats (attempt call) where
  continues s := by
    obtain ⟨outcome, log, ran, -⟩ := asks s
    rw [run_attempt ran]
    refine ⟨rfl, rfl, _, rfl, fun q member => ?_⟩
    rw [List.mem_singleton.mp member]
    rfl
  again {s t reads} sent settings alike := by
    obtain ⟨outcome, log, ran, answered⟩ := asks s
    obtain ⟨again, log', ranAgain, answeredAgain⟩ := asks t
    have request : t.request .get (pathOf t.settings.paths) query none =
        s.request .get (pathOf s.settings.paths) query none := by
      rw [Session.request, Session.request, settings]
    rw [run_attempt ran] at sent
    obtain rfl := List.append_cancel_left sent
    have agree := alike [] _ [] rfl
    rw [List.append_nil, List.append_nil] at agree
    rw [run_attempt ran, run_attempt ranAgain, answered, answeredAgain, request]
    exact ⟨respects agree, rfl⟩

theorem repeats_fetch (pathOf : Paths → String) (operation : String)
    (query : List (String × String)) (decoder : Json.Decoder α) :
    Repeats (attempt (paths >>= fun p => fetch operation (pathOf p) query decoder)) :=
  repeats_attempt pathOf query (documentIn? decoder) (run_fetch pathOf operation query decoder)
    fun agree => agree.documentIn?_eq decoder

theorem repeats_fetchDataset (pathOf : Paths → String) (operation : String)
    (query : List (String × String)) (labelField : String) :
    Repeats (attempt (paths >>= fun p => fetchDataset operation (pathOf p) query labelField)) :=
  repeats_attempt pathOf query (recordsIn? labelField)
    (run_fetchDataset pathOf operation query labelField) fun agree => agree.recordsIn?_eq labelField

end Repeats

theorem repeats_classes (environment : Option String) : Repeats (attempt (classes environment)) :=
  repeats_fetchDataset (fun p => p.classes) "classes.list" (queryOf "environment" environment)
    "name"

theorem repeats_nodes (masterZone : Option String) : Repeats (attempt (nodes masterZone)) :=
  repeats_fetchDataset (fun p => p.nodes) "nodes.list" (queryOf "master_zone" masterZone) "certname"

theorem repeats_facts (masterZone : Option String) : Repeats (attempt (facts masterZone)) :=
  repeats_fetchDataset (fun p => p.facts) "facts.list" (queryOf "master_zone" masterZone) "name"

theorem repeats_parametersOf (classId : String) : Repeats (attempt (parametersOf classId)) :=
  repeats_fetch (fun p => p.parameters) "parameters.list" [("puppet_class", classId)] _

theorem repeats_configurationOf (group : String) : Repeats (attempt (configurationOf group)) :=
  repeats_fetch (fun p => memberPath p.configuration group) "configuration.get" [] _

theorem repeats_rulesOf (group : String) : Repeats (attempt (rulesOf group)) :=
  repeats_fetch (fun p => memberPath p.rules group) "rules.get" [] _

theorem repeats_variablesOf (group : String) : Repeats (attempt (variablesOf group)) :=
  repeats_fetch (fun p => memberPath p.groupVariables group) "variables.get" [] _

end NodeGroups.Backend
