import Mathlib.Data.List.Basic

set_option autoImplicit false

namespace NodeGroups

variable {S A B R T : Type}

/-- The answers of actions that are done one after another, and the state after them. -/
def runAll (step : S → A → R × S) : S → List A → List R × S
  | s, [] => ([], s)
  | s, a :: actions =>
    let (answer, next) := step s a
    let (answers, last) := runAll step next actions
    (answer :: answers, last)

/-- An action of one of two kinds, with an answer of the same kind. -/
def eitherStep (left : S → A → R × S) (right : S → B → T × S) (s : S) : A ⊕ B → (R ⊕ T) × S
  | .inl a => let (answer, next) := left s a; (.inl answer, next)
  | .inr b => let (answer, next) := right s b; (.inr answer, next)

/-- What is of the left kind, in its order. -/
def lefts (items : List (A ⊕ B)) : List A := items.filterMap Sum.getLeft?

/-- What is of the right kind, in its order. -/
def rights (items : List (A ⊕ B)) : List B := items.filterMap Sum.getRight?

/-- In either order two actions get the same answers and lead to the same state. -/
structure Commutes (left : S → A → R × S) (right : S → B → T × S) (s : S) (a : A) (b : B) :
    Prop where
  leftAnswer : (left (right s b).2 a).1 = (left s a).1
  rightAnswer : (right (left s a).2 b).1 = (right s b).1
  state : (left (right s b).2 a).2 = (right (left s a).2 b).2

/-- The states in which all goes well: they are kept by both kinds of actions, which commute in
them. -/
structure Apart (left : S → A → R × S) (right : S → B → T × S) (Fit : S → Prop) : Prop where
  keepsLeft : ∀ s a, Fit s → Fit (left s a).2
  keepsRight : ∀ s b, Fit s → Fit (right s b).2
  commutes : ∀ s a b, Fit s → Commutes left right s a b

variable {left : S → A → R × S} {right : S → B → T × S} {Fit : S → Prop} {s : S}

theorem Apart.commutes_runAll (apart : Apart left right Fit) (fit : Fit s) (actions : List A)
    (b : B) : Commutes (runAll left) right s actions b := by
  induction actions generalizing s with
  | nil => exact ⟨rfl, rfl, rfl⟩
  | cons a actions ih =>
    have first := apart.commutes s a b fit
    have rest := ih (apart.keepsLeft s a fit)
    constructor
    · change _ :: _ = _ :: _
      rw [first.leftAnswer, first.state, rest.leftAnswer]
    · exact rest.rightAnswer.trans first.rightAnswer
    · change (runAll left (left (right s b).2 a).2 actions).2 = _
      rw [first.state]
      exact rest.state

/-- However actions of two kinds are interleaved, each gets the answer that it gets when all of the
left kind are done before all of the right kind, and the last state is the same. -/
theorem Apart.runAll_eitherStep (apart : Apart left right Fit) (fit : Fit s)
    (actions : List (A ⊕ B)) :
    let mixed := runAll (eitherStep left right) s actions
    let front := runAll left s (lefts actions)
    let back := runAll right front.2 (rights actions)
    mixed.1.map Sum.isLeft = actions.map Sum.isLeft ∧
      lefts mixed.1 = front.1 ∧ rights mixed.1 = back.1 ∧ mixed.2 = back.2 := by
  induction actions generalizing s with
  | nil => exact ⟨rfl, rfl, rfl, rfl⟩
  | cons action actions ih =>
    cases action with
    | inl a =>
      obtain ⟨kinds, front, back, last⟩ := ih (apart.keepsLeft s a fit)
      exact ⟨congrArg (true :: ·) kinds, congrArg ((left s a).1 :: ·) front, back, last⟩
    | inr b =>
      -- The action comes first here, and behind all of the left kind otherwise.
      have past := apart.commutes_runAll fit (lefts actions) b
      obtain ⟨kinds, front, back, last⟩ := ih (apart.keepsRight s b fit)
      rw [past.leftAnswer] at front
      rw [past.state] at back last
      exact ⟨congrArg (false :: ·) kinds, front,
        congrArg₂ List.cons past.rightAnswer.symm back, last⟩

end NodeGroups
