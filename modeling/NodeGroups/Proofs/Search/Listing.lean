import NodeGroups.Search.Query

set_option autoImplicit false

namespace NodeGroups.Search.Query

/-- A query divides the labels of a kind in a certain way, and passes over all others. -/
def Sorts (q : Query) (Kind : String → Prop) (Good : String → List Fragment → Prop) : Prop :=
  ∀ label,
    (Kind label → ∃ fragments, q.fragmentsOf? label = some fragments ∧ Good label fragments) ∧
    (¬ Kind label → q.fragmentsOf? label = none)

variable {q : Query} {Kind : String → Prop} {Good : String → List Fragment → Prop}

/-- A record is listed under its identifier, its name and its label if it is enabled and its label
is of the kind. -/
theorem Sorts.suggestion?_cases (sorts : q.Sorts Kind Good) (field : String) (r : Record) :
    ((r.state = .enabled ∧ ∃ label ∈ r.field? field, Kind label) →
      ∃ label fragments, r.field? field = some label ∧
        q.suggestion? field r = some ⟨r.id, label, r.name, fragments⟩ ∧ Good label fragments) ∧
    (¬ (r.state = .enabled ∧ ∃ label ∈ r.field? field, Kind label) →
      q.suggestion? field r = none) := by
  constructor
  · rintro ⟨enabled, label, has, kind⟩
    obtain ⟨fragments, found, good⟩ := (sorts label).1 kind
    refine ⟨label, fragments, has, ?_, good⟩
    have on : r.isEnabled = true := by rw [Record.isEnabled, enabled]; rfl
    simp only [suggestion?, on, if_true, Option.mem_def.mp has, Option.bind_eq_bind,
      Option.bind_some, found]
    rfl
  · intro unwanted
    unfold suggestion?
    split
    · rename_i on
      cases has : r.field? field with
      | none => rfl
      | some label =>
        have enabled : r.state = .enabled := by
          rwa [Record.isEnabled, beq_iff_eq] at on
        have other : ¬ Kind label := fun kind => unwanted ⟨enabled, label, has, kind⟩
        simp only [Option.bind_eq_bind, Option.bind_some, (sorts label).2 other, Option.bind_none]
    · rfl

theorem Sorts.filter_eq (sorts : q.Sorts Kind Good) (field : String) {wanted : Record → Bool}
    (is : ∀ r, wanted r = true ↔ r.state = .enabled ∧ ∃ label ∈ r.field? field, Kind label)
    (records : List Record) :
    (q.filter field records).map (fun s => (s.recordId, s.title, some s.label)) =
        (records.filter wanted).map (fun r => (r.id, r.name, r.field? field)) ∧
      ∀ s ∈ q.filter field records, Good s.label s.fragments := by
  induction records with
  | nil => exact ⟨rfl, fun s member => absurd member List.not_mem_nil⟩
  | cons r records ih =>
    have first := sorts.suggestion?_cases field r
    rw [← is r] at first
    cases listed : wanted r with
    | true =>
      obtain ⟨label, fragments, has, found, good⟩ := first.1 listed
      have step : q.filter field (r :: records) =
          ⟨r.id, label, r.name, fragments⟩ :: q.filter field records :=
        List.filterMap_cons_some found
      rw [step, List.filter_cons_of_pos listed, List.map_cons, List.map_cons, ih.1, has]
      refine ⟨rfl, fun s member => ?_⟩
      rcases List.mem_cons.mp member with rfl | member
      · exact good
      · exact ih.2 s member
    | false =>
      have passed : ¬ wanted r = true := Bool.eq_false_iff.mp listed
      have step : q.filter field (r :: records) = q.filter field records :=
        List.filterMap_cons_none (first.2 passed)
      rw [step, List.filter_cons_of_neg passed]
      exact ih

end NodeGroups.Search.Query
