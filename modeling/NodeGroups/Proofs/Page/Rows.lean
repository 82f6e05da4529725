import Mathlib.Data.List.Nodup
import NodeGroups.Page.Rows

set_option autoImplicit false

namespace NodeGroups.Page.Rows

variable {α : Type} {rows : Rows α}

/-- No handle stands for two rows, and the next one stands for none. -/
structure Distinct (rows : Rows α) : Prop where
  apart : rows.handles.Nodup
  given : ∀ h ∈ rows.handles, h < rows.next

theorem distinct_empty : (empty : Rows α).Distinct :=
  ⟨List.nodup_nil, fun _ member => absurd member List.not_mem_nil⟩

theorem distinct_clear (rows : Rows α) : rows.clear.Distinct :=
  ⟨List.nodup_nil, fun _ member => absurd member List.not_mem_nil⟩

theorem handles_push (rows : Rows α) (row : α) :
    (rows.push row).handles = rows.handles ++ [rows.next] := by
  rw [handles, push, List.map_append]
  rfl

theorem Distinct.push (distinct : rows.Distinct) (row : α) : (rows.push row).Distinct := by
  have fresh : rows.next ∉ rows.handles := fun old => Nat.lt_irrefl _ (distinct.given _ old)
  refine ⟨?_, fun h member => ?_⟩
  · rw [handles_push, List.nodup_append]
    refine ⟨distinct.apart, List.nodup_singleton _, ?_⟩
    intro h old last new same
    rw [List.mem_singleton.mp new] at same
    exact fresh (same ▸ old)
  · rw [handles_push] at member
    rw [next_push]
    rcases List.mem_append.mp member with old | new
    · exact Nat.lt_succ_of_lt (distinct.given h old)
    · rw [List.mem_singleton.mp new]
      exact Nat.lt_succ_self _

theorem Distinct.erase (distinct : rows.Distinct) (h : Handle) : (rows.erase h).Distinct := by
  have fewer : (rows.erase h).handles.Sublist rows.handles := List.eraseP_sublist.map Prod.fst
  exact ⟨distinct.apart.sublist fewer, fun k member => distinct.given k (fewer.mem member)⟩

theorem handles_modify (rows : Rows α) (h : Handle) (f : α → α) :
    (rows.modify h f).handles = rows.handles := by
  rw [handles, modify, List.map_map]
  refine List.map_congr_left fun e _ => ?_
  dsimp only [Function.comp_apply]
  split <;> rfl

theorem Distinct.modify (distinct : rows.Distinct) (h : Handle) (f : α → α) :
    (rows.modify h f).Distinct := by
  refine ⟨?_, fun k member => ?_⟩
  · rw [handles_modify]
    exact distinct.apart
  · rw [handles_modify] at member
    exact distinct.given k member

theorem get?_of_mem {h : Handle} (there : h ∈ rows.handles) : ∃ a, rows.get? h = some a := by
  obtain ⟨entries, next⟩ := rows
  change h ∈ entries.map Prod.fst at there
  change ∃ a, entries.lookup h = some a
  induction entries with
  | nil => exact absurd there List.not_mem_nil
  | cons e entries ih =>
    rw [List.lookup_cons]
    by_cases here : h = e.1
    · rw [here, beq_self_eq_true]
      exact ⟨e.2, rfl⟩
    · rw [beq_eq_false_iff_ne.mpr here]
      rw [List.map_cons, List.mem_cons, or_iff_right here] at there
      exact ih there

/-- The row that a handle finds is the one that is erased under it. -/
theorem entries_erase {h : Handle} {a : α} (found : rows.get? h = some a) :
    ∃ front back, rows.entries = front ++ (h, a) :: back ∧
      (rows.erase h).entries = front ++ back := by
  obtain ⟨entries, next⟩ := rows
  change entries.lookup h = some a at found
  change ∃ front back, entries = front ++ (h, a) :: back ∧
    entries.eraseP (fun e => e.1 == h) = front ++ back
  induction entries with
  | nil => cases found
  | cons e entries ih =>
    by_cases here : e.1 = h
    · subst here
      rw [List.lookup_cons, beq_self_eq_true] at found
      cases found
      exact ⟨[], entries, rfl, List.eraseP_cons_of_pos (beq_self_eq_true e.1)⟩
    · have other : (h == e.1) = false := beq_eq_false_iff_ne.mpr (Ne.symm here)
      rw [List.lookup_cons, other] at found
      obtain ⟨front, back, split, erased⟩ := ih found
      refine ⟨e :: front, back, congrArg (e :: ·) split, ?_⟩
      rw [List.eraseP_cons_of_neg (by simpa using here), erased, List.cons_append]

/-- What the rows say is what they said without one of them. -/
theorem map_toList_erase {β : Type} {h : Handle} {a : α} (found : rows.get? h = some a)
    (f : α → β) :
    ∃ front back, rows.toList.map f = front ++ f a :: back ∧
      (rows.erase h).toList.map f = front ++ back := by
  obtain ⟨front, back, split, erased⟩ := entries_erase found
  refine ⟨(front.map Prod.snd).map f, (back.map Prod.snd).map f, ?_, ?_⟩
  · rw [toList, split, List.map_append, List.map_append, List.map_cons, List.map_cons]
  · rw [toList, erased, List.map_append, List.map_append]

/-- A row that is changed to one that says the same leaves what the rows say. -/
theorem map_toList_modify {β : Type} (distinct : rows.Distinct) {h : Handle} {a b : α}
    (found : rows.get? h = some a) {f : α → β} (same : f b = f a) :
    (rows.modify h fun _ => b).toList.map f = rows.toList.map f := by
  obtain ⟨front, back, split, -⟩ := entries_erase found
  have place : (h, a) ∈ rows.entries := by
    rw [split]
    exact List.mem_append_right front List.mem_cons_self
  rw [toList, toList, modify, List.map_map, List.map_map, List.map_map]
  refine List.map_congr_left fun e member => ?_
  dsimp only [Function.comp_apply]
  split
  · rename_i here
    have only : e = (h, a) :=
      List.inj_on_of_nodup_map distinct.apart member place (beq_iff_eq.mp here)
    rw [only]
    exact same
  · rfl

end NodeGroups.Page.Rows
