import Mathlib.Data.List.Basic

set_option autoImplicit false

namespace NodeGroups

/-- Something in a past that goes on by one is the newest thing, or it was there before. -/
theorem concat_eq_append_cons {α : Type} {past earlier since : List α} {h x : α} :
    past ++ [h] = earlier ++ x :: since ↔
      (earlier = past ∧ x = h ∧ since = []) ∨
        ∃ rest, since = rest ++ [h] ∧ past = earlier ++ x :: rest := by
  constructor
  · intro same
    rcases List.eq_nil_or_concat since with rfl | ⟨rest, last, rfl⟩
    · obtain ⟨rfl, only⟩ := List.append_inj' same rfl
      exact .inl ⟨rfl, (List.cons.inj only).1.symm, rfl⟩
    · rw [List.concat_eq_append, ← List.cons_append, ← List.append_assoc] at same
      obtain ⟨rfl, only⟩ := List.append_inj' same rfl
      obtain ⟨rfl, -⟩ := List.cons.inj only
      exact .inr ⟨rest, List.concat_eq_append, rfl⟩
  · rintro (⟨rfl, rfl, rfl⟩ | ⟨rest, rfl, rfl⟩)
    · rfl
    · rw [List.append_assoc, List.cons_append]

section Chronicle

variable {S A E : Type} (act : S → A → S) (tells : S → A → Option E)

/-- What actions tell, first things first. What an action tells, if anything, depends on the state
that it is done in. -/
def chronicle : S → List A → List E
  | _, [] => []
  | s, a :: actions => (tells s a).toList ++ chronicle (act s a) actions

/-- If every action takes a state that recalls its past to one that recalls what was told too, a run
ends in a state that recalls its chronicle. -/
theorem recalls_chronicle_of_mem (Recalls : S → List E → Prop) {actions : List A}
    (step : ∀ a ∈ actions, ∀ s past, Recalls s past →
      Recalls (act s a) (past ++ (tells s a).toList))
    {s : S} {past : List E} (recalls : Recalls s past) :
    Recalls (actions.foldl act s) (past ++ chronicle act tells s actions) := by
  induction actions generalizing s past with
  | nil =>
    rw [chronicle, List.append_nil]
    exact recalls
  | cons a actions ih =>
    rw [chronicle, ← List.append_assoc]
    exact ih (fun b member => step b (List.mem_cons_of_mem a member))
      (step a List.mem_cons_self s past recalls)

theorem recalls_chronicle (Recalls : S → List E → Prop)
    (step : ∀ s past a, Recalls s past → Recalls (act s a) (past ++ (tells s a).toList))
    {s : S} {past : List E} (recalls : Recalls s past) (actions : List A) :
    Recalls (actions.foldl act s) (past ++ chronicle act tells s actions) :=
  recalls_chronicle_of_mem act tells Recalls (fun a _ s past => step s past a) recalls

end Chronicle

section Lasting

variable {E X : Type} (puts : E → List X) (takes : E → X → Bool)

/-- What was put somewhere in a past and not taken since, in the order in which it was put. -/
def lasting : List E → List X
  | [] => []
  | e :: later => (puts e).filter (fun x => later.all fun d => !takes d x) ++ lasting later

/-- What happens last takes some of what lasted, and puts its own behind the rest. -/
theorem lasting_concat (past : List E) (e : E) : lasting puts takes (past ++ [e]) =
    (lasting puts takes past).filter (fun x => !takes e x) ++ puts e := by
  induction past with
  | nil => simp [lasting]
  | cons first past ih =>
    simp only [List.cons_append, lasting, ih, List.filter_append, List.filter_filter,
      List.append_assoc, List.all_append, List.all_cons, List.all_nil, Bool.and_true]
    simp only [Bool.and_comm]

end Lasting

end NodeGroups
