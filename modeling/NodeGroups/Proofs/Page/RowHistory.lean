import NodeGroups.Proofs.Page.Rows

set_option autoImplicit false

namespace NodeGroups.Page.Rows

variable {α β : Type}

/-- Rows under consecutive handles. -/
def numbered (first : Handle) (as : List α) : List (Handle × α) :=
  (as.zipIdx first).map Prod.swap

inductive Change (α : Type)
  /-- All rows were replaced by these, under handles from `first` on. -/
  | replaced (first : Handle) (as : List α)
  | added (h : Handle) (a : α)
  | removed (h : Handle)

namespace Change

/-- The rows that all rows were replaced by. -/
def replacement? : Change α → Option (List (Handle × α))
  | .replaced first as => some (numbered first as)
  | .added _ _ | .removed _ => none

def addition? : Change α → Option (Handle × α)
  | .added h a => some (h, a)
  | .replaced _ _ | .removed _ => none

def removal? : Change α → Option Handle
  | .removed h => some h
  | .replaced _ _ | .added _ _ => none

/-- What was done since the rows were last replaced. -/
def since (past : List (Change α)) : List (Change α) :=
  (past.reverse.takeWhile fun c => c.replacement?.isNone).reverse

/-- The rows that all rows were last replaced by; before that there are none. -/
def base (past : List (Change α)) : List (Handle × α) :=
  (past.reverse.findSome? replacement?).getD []

/-- The handles of the rows removed since all rows were last replaced. -/
def gone (past : List (Change α)) : List Handle := (since past).filterMap removal?

/-- The rows that stand: what was there when all were last replaced, and what was added since,
without what was removed since. -/
def standing (past : List (Change α)) : List (Handle × α) :=
  (base past ++ (since past).filterMap addition?).filter fun e => e.1 ∉ gone past

section Concat

variable (past : List (Change α))

theorem since_concat {c : Change α} (stays : c.replacement? = none) :
    since (past ++ [c]) = since past ++ [c] := by
  simp [since, stays]

theorem base_concat {c : Change α} (stays : c.replacement? = none) :
    base (past ++ [c]) = base past := by
  simp [base, stays]

theorem gone_replaced (first : Handle) (as : List α) :
    gone (past ++ [.replaced first as]) = [] := by
  simp [gone, since, replacement?]

theorem gone_added (h : Handle) (a : α) : gone (past ++ [.added h a]) = gone past := by
  simp [gone, since_concat past (c := .added h a) rfl, removal?]

theorem gone_removed (h : Handle) :
    gone (past ++ [.removed h]) = gone past ++ [h] := by
  simp [gone, since_concat past (c := .removed h) rfl, removal?]

theorem standing_replaced (first : Handle) (as : List α) :
    standing (past ++ [.replaced first as]) = numbered first as := by
  simp [standing, gone_replaced, base, since, replacement?, List.findSome?_cons]

theorem standing_added {h : Handle} (new : h ∉ gone past) (a : α) :
    standing (past ++ [.added h a]) = standing past ++ [(h, a)] := by
  have stays : (Change.added h a).replacement? = none := rfl
  simp [standing, gone_added, since_concat past stays, base_concat past stays, addition?, new]

theorem standing_removed (h : Handle) :
    standing (past ++ [.removed h]) = (standing past).filter fun e => e.1 ≠ h := by
  have stays : (Change.removed h : Change α).replacement? = none := rfl
  have fewer : ∀ e : Handle × α, decide (e.1 ∉ gone (past ++ [.removed h])) =
      (decide (e.1 ≠ h) && decide (e.1 ∉ gone past)) := by
    intro e
    rw [gone_removed, ← Bool.decide_and, decide_eq_decide, List.mem_append, List.mem_singleton]
    tauto
  simp only [standing, fewer, List.filter_filter]
  rw [since_concat past stays, base_concat past stays]
  simp [addition?]

end Concat

end Change

theorem handles_entries (rows : Rows α) {e : Handle × α} (member : e ∈ rows.entries) :
    e.1 ∈ rows.handles := List.mem_map_of_mem member

theorem entries_append (rows : Rows α) (more : List α) :
    (rows.append more).entries = rows.entries ++ numbered rows.next more := by
  induction more generalizing rows with
  | nil => simp [append, numbered]
  | cons a more ih =>
    have onward := ih (rows.push a)
    rw [append] at onward ⊢
    rw [List.foldl_cons, onward]
    simp [push, numbered]

theorem Distinct.append {rows : Rows α} (distinct : rows.Distinct) (more : List α) :
    (rows.append more).Distinct := by
  induction more generalizing rows with
  | nil => exact distinct
  | cons a more ih => exact ih (distinct.push a)

theorem Distinct.get?_of_entry {rows : Rows α} (distinct : rows.Distinct)
    {h : Handle} {a : α} (member : (h, a) ∈ rows.entries) : rows.get? h = some a := by
  obtain ⟨b, found⟩ := get?_of_mem (rows.handles_entries member)
  obtain ⟨front, back, split, -⟩ := entries_erase found
  have place : (h, b) ∈ rows.entries := by
    rw [split]
    exact List.mem_append_right front List.mem_cons_self
  have one : (h, b) = (h, a) := List.inj_on_of_nodup_map distinct.apart place member rfl
  cases one
  exact found

/-- While no two rows have one handle, a row is removed by leaving out its handle. -/
theorem Distinct.entries_erase_eq {rows : Rows α} (distinct : rows.Distinct) (h : Handle) :
    (rows.erase h).entries = rows.entries.filter fun e => e.1 ≠ h := by
  obtain ⟨entries, next⟩ := rows
  have apart := distinct.apart
  change (entries.map Prod.fst).Nodup at apart
  change entries.eraseP (fun e => e.1 == h) = entries.filter fun e => e.1 ≠ h
  clear distinct
  induction entries with
  | nil => rfl
  | cons e entries ih =>
    rw [List.map_cons, List.nodup_cons] at apart
    by_cases here : e.1 = h
    · have others : ∀ f ∈ entries, decide (f.1 ≠ h) = true := by
        intro f member
        refine decide_eq_true fun same => apart.1 ?_
        rw [here, ← same]
        exact List.mem_map_of_mem member
      rw [List.eraseP_cons_of_pos (by simp [here]), List.filter_cons_of_neg (by simp [here]),
        List.filter_eq_self.mpr others]
    · rw [List.eraseP_cons_of_neg (by simp [here]), List.filter_cons_of_pos (by simp [here]),
        ih apart.2]

/-- The rows of a list say what stands by its past, each under its handle, and no new row will get a
handle of the past. -/
structure Tells (rows : Rows β) (content : β → α) (past : List (Change α)) : Prop where
  distinct : rows.Distinct
  entries : rows.entries.map (fun e => (e.1, content e.2)) = Change.standing past
  spent : ∀ h ∈ Change.gone past, h < rows.next

section Tells

variable {rows : Rows β} {content : β → α} {past : List (Change α)}

theorem tells_empty (content : β → α) : (empty : Rows β).Tells content [] where
  distinct := distinct_empty
  entries := rfl
  spent := fun _ member => absurd member List.not_mem_nil

theorem Tells.toList (tells : rows.Tells content past) :
    rows.toList.map content = (Change.standing past).map Prod.snd := by
  rw [← tells.entries, Rows.toList, List.map_map, List.map_map]
  rfl

theorem Tells.idle (tells : rows.Tells content past) :
    rows.Tells content (past ++ (none : Option (Change α)).toList) := by
  rw [Option.toList_none, List.append_nil]
  exact tells

/-- A list that is filled anew tells only what it is filled with. -/
theorem Tells.replace (rows : Rows β) (content : β → α) (past : List (Change α)) (bs : List β) :
    (rows.clear.append bs).Tells content (past ++ [.replaced rows.next (bs.map content)]) where
  distinct := (distinct_clear rows).append bs
  entries := by
    rw [entries_append, Change.standing_replaced]
    change (numbered rows.next bs).map _ = _
    simp [numbered, List.zipIdx_map, Function.comp_def]
  spent := by
    rw [Change.gone_replaced]
    exact fun _ member => absurd member List.not_mem_nil

theorem Tells.push (tells : rows.Tells content past) (b : β) :
    (rows.push b).Tells content (past ++ [.added rows.next (content b)]) where
  distinct := tells.distinct.push b
  entries := by
    have new : rows.next ∉ Change.gone past := fun old => Nat.lt_irrefl _ (tells.spent _ old)
    rw [Change.standing_added past new, ← tells.entries]
    simp [Rows.push]
  spent := by
    rw [Change.gone_added, next_push]
    exact fun h member => Nat.lt_succ_of_lt (tells.spent h member)

theorem Tells.erase (tells : rows.Tells content past) {h : Handle} {b : β}
    (found : rows.get? h = some b) : (rows.erase h).Tells content (past ++ [.removed h]) where
  distinct := tells.distinct.erase h
  entries := by
    rw [Change.standing_removed, ← tells.entries, tells.distinct.entries_erase_eq,
      List.filter_map]
    rfl
  spent := by
    obtain ⟨front, back, split, -⟩ := entries_erase found
    have here : (h, b) ∈ rows.entries := by
      rw [split]
      exact List.mem_append_right front List.mem_cons_self
    intro k member
    rw [Change.gone_removed] at member
    rcases List.mem_append.mp member with old | new
    · exact tells.spent k old
    · rw [List.mem_singleton.mp new]
      exact tells.distinct.given h (rows.handles_entries here)

end Tells

end NodeGroups.Page.Rows
