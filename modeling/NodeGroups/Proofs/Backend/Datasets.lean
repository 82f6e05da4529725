import Mathlib.Data.List.Forall2
import NodeGroups.Backend.Calls

set_option autoImplicit false

namespace NodeGroups.Backend

open Search (Record)

/-- A call that succeeds goes through both of its halves. -/
theorem bind_ok {α β : Type} {x : Call α} {f : α → Call β} {s t : Session} {b : β}
    (ok : (x >>= f).run.run s = (.ok b, t)) :
    ∃ a u, x.run.run s = (.ok a, u) ∧ (f a).run.run u = (.ok b, t) := by
  rw [ExceptT.run_bind, StateT.run_bind] at ok
  rcases first : x.run.run s with ⟨answer, u⟩
  rw [first] at ok
  cases answer with
  | ok a => exact ⟨a, u, rfl, ok⟩
  | error e => cases ok

theorem ofJson_enabled {value : Json} {labelField : String} {r : Record}
    (read : Record.ofJson value labelField = .ok r) : r.state = .enabled := by
  unfold Record.ofJson at read
  dsimp only at read
  split at read
  · split at read
    · cases read
    · split at read
      · cases read
        rfl
      · split at read
        · cases read
          rfl
        · cases read
  · cases read

section Outcomes

variable {ε α β : Type} {f : α → Except ε β} {xs : List α}

/-- All succeed just if each does, with their values in order. -/
theorem mapM_eq_ok {ys : List β} :
    xs.mapM f = .ok ys ↔ List.Forall₂ (fun x y => f x = .ok y) xs ys := by
  constructor
  · intro ok
    induction xs generalizing ys with
    | nil =>
      cases ok
      exact .nil
    | cons x xs ih =>
      rw [List.mapM_cons] at ok
      cases first : f x with
      | error e =>
        rw [first] at ok
        cases ok
      | ok y =>
        rw [first] at ok
        cases others : xs.mapM f with
        | error e =>
          rw [others] at ok
          cases ok
        | ok rest =>
          rw [others] at ok
          cases ok
          exact .cons first (ih others)
  · intro each
    induction each with
    | nil => rfl
    | cons first _ ih =>
      rw [List.mapM_cons, first, ih]
      rfl

/-- Where not all succeed, one fails with the failure of all. -/
theorem mapM_eq_error {e : ε} (failed : xs.mapM f = .error e) : ∃ x ∈ xs, f x = .error e := by
  induction xs with
  | nil => cases failed
  | cons x xs ih =>
    rw [List.mapM_cons] at failed
    cases first : f x with
    | error e =>
      rw [first] at failed
      cases failed
      exact ⟨x, List.mem_cons_self, first⟩
    | ok y =>
      rw [first] at failed
      cases others : xs.mapM f with
      | error e =>
        rw [others] at failed
        cases failed
        obtain ⟨z, member, fails⟩ := ih others
        exact ⟨z, List.mem_cons_of_mem x member, fails⟩
      | ok ys =>
        rw [others] at failed
        cases failed

theorem exists_mapM_eq_ok : (∃ ys, xs.mapM f = .ok ys) ↔ ∀ x ∈ xs, ∃ y, f x = .ok y := by
  constructor
  · rintro ⟨ys, ok⟩
    have each := mapM_eq_ok.mp ok
    clear ok
    induction each with
    | nil => exact fun x member => absurd member List.not_mem_nil
    | cons first _ ih =>
      intro x member
      rcases List.mem_cons.mp member with rfl | member
      · exact ⟨_, first⟩
      · exact ih x member
  · intro each
    cases all : xs.mapM f with
    | ok ys => exact ⟨ys, rfl⟩
    | error e =>
      obtain ⟨x, member, failed⟩ := mapM_eq_error all
      obtain ⟨y, ok⟩ := each x member
      rw [failed] at ok
      cases ok

end Outcomes

theorem mapM_ofJson_enabled {labelField : String} {values : List Json} {records : List Record}
    (read : values.mapM (fun v => Record.ofJson v labelField) = .ok records) :
    ∀ r ∈ records, r.state = .enabled := by
  have each := mapM_eq_ok.mp read
  clear read
  induction each with
  | nil => exact fun r member => absurd member List.not_mem_nil
  | cons first _ ih =>
    intro r member
    rcases List.mem_cons.mp member with rfl | member
    · exact ofJson_enabled first
    · exact ih r member

theorem fetchDataset_enabled {operation path : String} {query : List (String × String)}
    {labelField : String} {s t : Session} {records : List Record}
    (ok : (fetchDataset operation path query labelField).run.run s = (.ok records, t)) :
    ∀ r ∈ records, r.state = .enabled := by
  obtain ⟨entries, u, -, ok⟩ := bind_ok ok
  split at ok
  · rename_i read
    cases ok
    exact mapM_ofJson_enabled read
  · cases ok

theorem classes_enabled {environment : Option String} {s t : Session} {records : List Record}
    (ok : (classes environment).run.run s = (.ok records, t)) :
    ∀ r ∈ records, r.state = .enabled := by
  obtain ⟨paths, u, -, ok⟩ := bind_ok ok
  exact fetchDataset_enabled ok

theorem nodes_enabled {masterZone : Option String} {s t : Session} {records : List Record}
    (ok : (nodes masterZone).run.run s = (.ok records, t)) :
    ∀ r ∈ records, r.state = .enabled := by
  obtain ⟨paths, u, -, ok⟩ := bind_ok ok
  exact fetchDataset_enabled ok

theorem enabled_of_toOption {answer : Except Failure (List Record)}
    (enabled : ∀ records, answer = .ok records → ∀ r ∈ records, r.state = .enabled) :
    ∀ r ∈ answer.toOption.getD [], r.state = .enabled := by
  cases answer with
  | ok records => exact enabled records rfl
  | error e => exact fun r member => absurd member List.not_mem_nil

/-- A backend that answers with these bodies in turn, and then with empty lists. -/
def inTurn (bodies : List String) : Answering := fun sent _ =>
  .ok ⟨200, bodies.getD sent.length "[]"⟩

end NodeGroups.Backend
