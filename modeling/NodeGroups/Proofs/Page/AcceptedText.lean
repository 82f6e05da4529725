import NodeGroups.Proofs.Page.ParameterInput

set_option autoImplicit false

namespace NodeGroups.Page.InputKind

open Text (isDigit)

/-- Behind a dot only the digits are kept. -/
theorem keepDecimal_true (cs : List Char) : keepDecimal true cs = cs.filter isDigit := by
  induction cs with
  | nil => rfl
  | cons c cs ih =>
    rw [keepDecimal]
    by_cases digit : isDigit c = true
    · rw [if_pos digit, List.filter_cons_of_pos digit, ih]
    · rw [if_neg digit, if_neg (by simp), List.filter_cons_of_neg digit, ih]

/-- The digits before the first dot, the dot if there is one, and the digits behind it. -/
theorem keepDecimal_false (cs : List Char) :
    keepDecimal false cs = (cs.takeWhile (· ≠ '.')).filter isDigit ++
      (if '.' ∈ cs then ['.'] else []) ++ (cs.dropWhile (· ≠ '.')).filter isDigit := by
  induction cs with
  | nil => rfl
  | cons c cs ih =>
    by_cases dot : c = '.'
    · -- The flag is raised here, and the rest is what is kept behind a dot.
      subst dot
      have other : ¬ isDigit '.' = true := by decide
      rw [keepDecimal, if_neg other, if_pos ⟨rfl, rfl⟩, keepDecimal_true,
        List.takeWhile_cons_of_neg (by simp), List.dropWhile_cons_of_neg (by simp),
        if_pos List.mem_cons_self, List.filter_cons_of_neg other]
      rfl
    · have later : '.' ∈ c :: cs ↔ '.' ∈ cs := by simp [Ne.symm dot]
      rw [keepDecimal, List.takeWhile_cons_of_pos (by simpa), List.dropWhile_cons_of_pos (by simpa),
        ih]
      simp only [later]
      by_cases digit : isDigit c = true
      · rw [if_pos digit, List.filter_cons_of_pos digit, List.cons_append, List.cons_append]
      · rw [if_neg digit, if_neg fun both => dot both.1, List.filter_cons_of_neg digit]

theorem keepDecimal_eq_self (dotSeen : Bool) {cs : List Char}
    (chars : ∀ c ∈ cs, isDigit c = true ∨ c = '.')
    (dots : cs.count '.' ≤ if dotSeen then 0 else 1) : keepDecimal dotSeen cs = cs := by
  induction cs generalizing dotSeen with
  | nil => rfl
  | cons c cs ih =>
    have others : ∀ d ∈ cs, isDigit d = true ∨ d = '.' :=
      fun d member => chars d (List.mem_cons_of_mem c member)
    rw [keepDecimal]
    by_cases digit : isDigit c = true
    · have other : c ≠ '.' := by
        rintro rfl
        exact absurd digit (by decide)
      rw [List.count_cons_of_ne other] at dots
      rw [if_pos digit, ih dotSeen others dots]
    · obtain rfl := (chars c List.mem_cons_self).resolve_left digit
      rw [List.count_cons_self] at dots
      cases dotSeen with
      | true => exact absurd dots (Nat.not_succ_le_zero _)
      | false =>
        have none : cs.count '.' ≤ 0 := Nat.le_of_succ_le_succ dots
        rw [if_neg digit, if_pos ⟨rfl, rfl⟩, ih true others none]

theorem sanitize_eq_self_of_accepts {kind : InputKind} {raw : String} (accepts : kind.Accepts raw) :
    kind.sanitize raw = raw := by
  cases kind with
  | number =>
    rw [sanitize, List.filter_eq_self.mpr accepts, String.ofList_toList]
  | floatText =>
    rw [sanitize, keepDecimal_eq_self false accepts.1 accepts.2, String.ofList_toList]
  | textArea => rfl
  | select => rfl
  | text => rfl

/-- What an input leaves of a text is accepted and left as it is from then on, and just the accepted
texts are left whole. A number keeps the digits of a text, in order. A float keeps them too, and a
dot behind those digits that stand before the first dot, if there is a dot. -/
theorem sanitize_projects (raw : String) :
    (∀ kind : InputKind, kind.Accepts (kind.sanitize raw) ∧
      kind.sanitize (kind.sanitize raw) = kind.sanitize raw ∧
      (kind.sanitize raw = raw ↔ kind.Accepts raw)) ∧
    (sanitize .number raw).toList = raw.toList.filter isDigit ∧
    (sanitize .floatText raw).toList = (raw.toList.takeWhile (· ≠ '.')).filter isDigit ++
      (if '.' ∈ raw.toList then ['.'] else []) ++
        (raw.toList.dropWhile (· ≠ '.')).filter isDigit := by
  refine ⟨fun kind => ?_, ?_, ?_⟩
  · have accepted := kind.accepts_sanitize raw
    refine ⟨accepted, sanitize_eq_self_of_accepts accepted, fun same => ?_,
      sanitize_eq_self_of_accepts⟩
    rw [← same]
    exact accepted
  · rw [sanitize, String.toList_ofList]
  · rw [sanitize, String.toList_ofList, keepDecimal_false]

/-- Signs, letters, digits that are not ASCII and every dot but the first are dropped. -/
example : sanitize .floatText "-1٣.2e.3" = "1.23" := by decide

end NodeGroups.Page.InputKind
