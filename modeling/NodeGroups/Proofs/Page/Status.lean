import Mathlib.Data.List.Induction
import NodeGroups.Page.Status
import NodeGroups.Proofs.Past

set_option autoImplicit false

namespace NodeGroups.Page.Status

/-- What can be done to the state of a page. -/
inductive Action
  | markEdited
  | startCommit
  | endCommit (rearm : Bool) (outcome : Except String String)
  | startLoading
  | endLoading
  | announce (kind : BannerKind) (text : String)
  | hideBanner

namespace Action

/-- A commit is finished, whether or not one began. -/
def Ends : Action → Prop
  | .endCommit _ _ => True
  | _ => False

/-- There is something to commit: an edit was made, or a commit failed that can be tried again. -/
def Arms : Action → Prop
  | .markEdited => True
  | .endCommit rearm (.error _) => rearm = true
  | _ => False

end Action

/-- Does something to the state of a page, and gives its answer. -/
def act (s : Status) : Action → Except Failure Unit × Status
  | .markEdited => (.ok (), s.markEdited)
  | .startCommit =>
    match s.startCommit with
    | .ok next => (.ok (), next)
    | .error failure => (.error failure, s)
  | .endCommit rearm outcome => (.ok (), s.endCommit rearm outcome)
  | .startLoading => (.ok (), s.startLoading)
  | .endLoading => (.ok (), s.endLoading)
  | .announce kind text => (.ok (), s.announce kind text)
  | .hideBanner => (.ok (), s.hideBanner)

def after (past : List Action) : Status := past.foldl (fun s a => (s.act a).2) initial

/-- A commit that comes next begins. -/
def Begins (past : List Action) : Prop := ((after past).act .startCommit).1 = .ok ()

/-- Every commit that began was finished. -/
def Settled (past : List Action) : Prop :=
  ∀ earlier since, past = earlier ++ .startCommit :: since → Begins earlier → ∃ a ∈ since, a.Ends

/-- There was something to commit, and no commit has begun since. -/
def Armed (past : List Action) : Prop :=
  ∃ earlier a since, past = earlier ++ a :: since ∧ a.Arms ∧
    ∀ before behind, since = before ++ .startCommit :: behind → ¬ Begins (earlier ++ a :: before)

theorem after_concat (past : List Action) (a : Action) :
    after (past ++ [a]) = ((after past).act a).2 := by
  rw [after, List.foldl_append]
  rfl

theorem act_startCommit (s : Status) : s.act .startCommit =
    if s.canCommit then (.ok (), { s with armed := false, committing := true, busy := true })
    else (.error .commitLocked, s) := by
  rw [act, startCommit]
  cases s.canCommit <;> rfl

theorem begins_iff_canCommit (past : List Action) :
    Begins past ↔ (after past).canCommit = true := by
  rw [Begins, act_startCommit]
  split
  · rename_i can
    exact iff_of_true rfl can
  · rename_i cannot
    exact iff_of_false (fun ok => nomatch ok) cannot

theorem settled_nil : Settled [] := by
  intro earlier since none
  cases earlier <;> cases none

theorem settled_concat (past : List Action) (a : Action) :
    Settled (past ++ [a]) ↔ a.Ends ∨ (Settled past ∧ (a = .startCommit → ¬ Begins past)) := by
  constructor
  · intro settled
    by_cases ends : a.Ends
    · exact .inl ends
    · refine .inr ⟨fun earlier since split begins => ?_, ?_⟩
      · have whole : past ++ [a] = earlier ++ .startCommit :: (since ++ [a]) :=
          concat_eq_append_cons.mpr (.inr ⟨since, rfl, split⟩)
        obtain ⟨b, member, finishes⟩ := settled earlier (since ++ [a]) whole begins
        rcases List.mem_append.mp member with member | last
        · exact ⟨b, member, finishes⟩
        · rw [List.mem_singleton.mp last] at finishes
          exact absurd finishes ends
      · rintro rfl begins
        obtain ⟨b, member, -⟩ := settled past [] rfl begins
        exact absurd member List.not_mem_nil
  · intro after earlier since split begins
    rcases concat_eq_append_cons.mp split with ⟨rfl, rfl, rfl⟩ | ⟨rest, rfl, same⟩
    · rcases after with ends | ⟨-, refused⟩
      · exact ends.elim
      · exact absurd begins (refused rfl)
    · rcases after with ends | ⟨settled, -⟩
      · exact ⟨a, List.mem_append_right rest (List.mem_singleton_self a), ends⟩
      · obtain ⟨b, member, finishes⟩ := settled earlier rest same begins
        exact ⟨b, List.mem_append_left [a] member, finishes⟩

theorem not_armed_nil : ¬ Armed [] := by
  rintro ⟨earlier, a, since, none, -⟩
  cases earlier <;> cases none

theorem armed_concat (past : List Action) (a : Action) :
    Armed (past ++ [a]) ↔ a.Arms ∨ (Armed past ∧ (a = .startCommit → ¬ Begins past)) := by
  constructor
  · rintro ⟨earlier, b, since, split, arms, quiet⟩
    rcases concat_eq_append_cons.mp split with ⟨-, rfl, -⟩ | ⟨rest, rfl, rfl⟩
    · exact .inl arms
    · refine .inr ⟨⟨earlier, b, rest, rfl, arms, fun before behind between => ?_⟩, ?_⟩
      · exact quiet before (behind ++ [a])
          (concat_eq_append_cons.mpr (.inr ⟨behind, rfl, between⟩))
      · rintro rfl
        exact quiet rest [] rfl
  · rintro (arms | ⟨⟨earlier, b, since, rfl, arms, quiet⟩, refused⟩)
    · refine ⟨past, a, [], rfl, arms, fun before behind none => ?_⟩
      cases before <;> cases none
    · refine ⟨earlier, b, since ++ [a], concat_eq_append_cons.mpr (.inr ⟨since, rfl, rfl⟩), arms,
        fun before behind split => ?_⟩
      rcases concat_eq_append_cons.mp split with ⟨rfl, same, -⟩ | ⟨rest, -, rfl⟩
      · exact refused same.symm
      · exact quiet before rest rfl

/-- A commit is under way just if one that began was not finished. -/
theorem committing_after (past : List Action) :
    (after past).committing = false ↔ Settled past := by
  -- The induction is on the last action, since a past grows at its end.
  induction past using List.reverseRecOn with
  | nil => exact iff_of_true rfl settled_nil
  | append_singleton past a ih =>
    rw [after_concat, settled_concat]
    cases a with
    | startCommit =>
      rw [act_startCommit, begins_iff_canCommit]
      split
      · rename_i can
        simp [Action.Ends, can]
      · rename_i cannot
        simpa [Action.Ends, cannot] using ih
    | endCommit rearm outcome =>
      cases outcome <;> simp [act, endCommit, announce, Action.Ends]
    | markEdited => simpa [act, markEdited, Action.Ends] using ih
    | startLoading => simpa [act, startLoading, Action.Ends] using ih
    | endLoading => simpa [act, endLoading, Action.Ends] using ih
    | announce kind text => simpa [act, announce, Action.Ends] using ih
    | hideBanner => simpa [act, hideBanner, Action.Ends] using ih

/-- The commit action can be used just if there was something to commit since the last commit
began. -/
theorem armed_after (past : List Action) : (after past).armed = true ↔ Armed past := by
  induction past using List.reverseRecOn with
  | nil => exact iff_of_false Bool.false_ne_true not_armed_nil
  | append_singleton past a ih =>
    rw [after_concat, armed_concat]
    cases a with
    | startCommit =>
      rw [act_startCommit, begins_iff_canCommit]
      split
      · rename_i can
        simp [Action.Arms, can]
      · rename_i cannot
        simpa [Action.Arms, cannot] using ih
    | endCommit rearm outcome =>
      cases outcome with
      | ok message => simpa [act, endCommit, announce, Action.Arms] using ih
      | error message => simp [act, endCommit, announce, Action.Arms, ih, or_comm]
    | markEdited => simp [act, markEdited, Action.Arms]
    | startLoading => simpa [act, startLoading, Action.Arms] using ih
    | endLoading => simpa [act, endLoading, Action.Arms] using ih
    | announce kind text => simpa [act, announce, Action.Arms] using ih
    | hideBanner => simpa [act, hideBanner, Action.Arms] using ih

/-- Whatever was done to a page, a commit begins just if every commit that began was finished and
there was something to commit since the last of them; otherwise it is refused as locked, and the
state of the page stays as it was. -/
theorem begins_iff (past : List Action) :
    (Begins past ↔ Settled past ∧ Armed past) ∧
      (¬ Begins past → (after past).act .startCommit = (.error .commitLocked, after past)) := by
  constructor
  · rw [begins_iff_canCommit, ← committing_after, ← armed_after, canCommit, Bool.and_eq_true,
      Bool.not_eq_true', and_comm]
  · intro locked
    rw [begins_iff_canCommit] at locked
    rw [act_startCommit, if_neg locked]

end NodeGroups.Page.Status
