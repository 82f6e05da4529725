import Mathlib.Data.List.DropRight
import NodeGroups.Text.Blank

set_option autoImplicit false

namespace NodeGroups.Text

theorem dropEndWhile_eq_rdropWhile (p : Char → Bool) (cs : List Char) :
    dropEndWhile p cs = cs.rdropWhile p := rfl

theorem dropEndWhile_eq_nil {p : Char → Bool} {cs : List Char} :
    dropEndWhile p cs = [] ↔ ∀ c ∈ cs, p c = true := by
  rw [dropEndWhile_eq_rdropWhile, List.rdropWhile_eq_nil_iff]

theorem dropEndWhile_append_of_exists {p : Char → Bool} (cs : List Char) {ds : List Char}
    (stop : ∃ d ∈ ds, p d = false) : dropEndWhile p (cs ++ ds) = cs ++ dropEndWhile p ds := by
  induction ds using List.reverseRecOn with
  | nil =>
    obtain ⟨d, member, -⟩ := stop
    cases member
  | append_singleton ds d ih =>
    rw [← List.append_assoc]
    by_cases run : p d = true
    · have before : ∃ d ∈ ds, p d = false := by
        obtain ⟨other, member, stops⟩ := stop
        rcases List.mem_append.mp member with member | member
        · exact ⟨other, member, stops⟩
        · rw [List.mem_singleton.mp member, run] at stops
          cases stops
      rw [dropEndWhile_append_of_pos _ run, dropEndWhile_append_of_pos _ run, ih before]
    · have stops : p d = false := by simpa using run
      rw [dropEndWhile_append_of_neg _ stops, dropEndWhile_append_of_neg _ stops,
        List.append_assoc]

theorem dropEndWhile_append_of_forall {p : Char → Bool} (cs : List Char) {ds : List Char}
    (run : ∀ d ∈ ds, p d = true) : dropEndWhile p (cs ++ ds) = dropEndWhile p cs := by
  induction ds using List.reverseRecOn with
  | nil => rw [List.append_nil]
  | append_singleton ds d ih =>
    have last : p d = true := run d (by simp)
    have others : ∀ e ∈ ds, p e = true := fun e member => run e (by simp [member])
    rw [← List.append_assoc, dropEndWhile_append_of_pos _ last, ih others]

/-- What is dropped is a run of the character, and the rest does not end with it. -/
theorem exists_eq_dropEndWhile_append (c : Char) (cs : List Char) :
    (∃ n, cs = dropEndWhile (· == c) cs ++ List.replicate n c) ∧
      (dropEndWhile (· == c) cs).getLast? ≠ some c := by
  constructor
  · have run : ∀ d ∈ cs.rtakeWhile (· == c), d = c := by
      intro d member
      have same : (d == c) = true := List.mem_rtakeWhile_imp (p := (· == c)) member
      exact beq_iff_eq.mp same
    exact ⟨_, by rw [← List.eq_replicate_of_mem run, dropEndWhile_eq_rdropWhile,
      List.rdropWhile_append_rtakeWhile]⟩
  · intro last
    have some : dropEndWhile (· == c) cs ≠ [] := by
      intro none
      rw [none] at last
      cases last
    rw [List.getLast?_eq_some_getLast some] at last
    have stops := List.rdropWhile_last_not (· == c) cs some
    exact stops (beq_iff_eq.mpr (Option.some.inj last))

/-- What is dropped is a run of the character, and the rest does not start with it. -/
theorem exists_eq_append_dropWhile (c : Char) (cs : List Char) :
    (∃ n, cs = List.replicate n c ++ cs.dropWhile (· == c)) ∧
      (cs.dropWhile (· == c)).head? ≠ some c := by
  constructor
  · have run : ∀ d ∈ cs.takeWhile (· == c), d = c := by
      intro d member
      have same : (d == c) = true := List.mem_takeWhile_imp (p := (· == c)) member
      exact beq_iff_eq.mp same
    exact ⟨_, by rw [← List.eq_replicate_of_mem run, List.takeWhile_append_dropWhile]⟩
  · intro first
    have stops := List.head?_dropWhile_not (· == c) cs
    rw [first] at stops
    simp at stops

theorem trim_eq_empty {s : String} : trim s = "" ↔ isBlankText s = true := by
  rw [← String.toList_inj, toList_trim, trimChars, String.toList_empty, dropEndWhile_eq_nil,
    isBlankText, List.all_eq_true]
  constructor
  · intro blank
    have none : s.toList.dropWhile isBlank = [] := by
      by_contra some
      have stops := List.head_dropWhile_not isBlank some
      rw [blank _ (List.head_mem some)] at stops
      cases stops
    exact List.dropWhile_eq_nil_iff.mp none
  · intro blank c member
    exact blank c ((List.dropWhile_sublist isBlank).subset member)

theorem trim_trim (s : String) : trim (trim s) = trim s := by
  rw [← String.toList_inj, toList_trim, toList_trim]
  have front : (trimChars s.toList).dropWhile isBlank = trimChars s.toList := by
    -- The front of what is left is the first character that is not blank, if there is one.
    rw [List.dropWhile_eq_self_iff]
    intro some
    have kept : trimChars s.toList <+: s.toList.dropWhile isBlank := List.rdropWhile_prefix _ _
    have length := Nat.lt_of_lt_of_le some kept.length_le
    rw [kept.getElem some]
    exact List.dropWhile_get_zero_not isBlank s.toList length
  rw [trimChars, front, trimChars, dropEndWhile_eq_rdropWhile, dropEndWhile_eq_rdropWhile,
    List.rdropWhile_idempotent]

end NodeGroups.Text
