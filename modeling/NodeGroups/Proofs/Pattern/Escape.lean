import NodeGroups.Pattern.Compile

set_option autoImplicit false

namespace NodeGroups.Pattern

open Text (CharSet)

@[simp] theorem skip_false (cs : List Char) : skip false cs = cs := rfl

theorem mem_of_isMeta {c : Char} (special : isMeta c = true) :
    c ∈ ['\\', '.', '+', '*', '?', '(', ')', '|', '[', ']', '\x7b', '\x7d', '^', '$', '#', '&',
      '-', '~'] := by
  have listed : "\\.+*?()|[]\x7b\x7d^$#&-~".toList = ['\\', '.', '+', '*', '?', '(', ')', '|', '[',
      ']', '\x7b', '\x7d', '^', '$', '#', '&', '-', '~'] := by
    decide
  rw [isMeta, listed] at special
  exact List.contains_iff_mem.mp special

/-- A backslash in front of a character with a meaning takes the meaning away. -/
theorem readEscape_of_isMeta {c : Char} (special : isMeta c = true) (cs : List Char) :
    readEscape false (c :: cs) = some (.ofChar c, cs) := by
  have member := mem_of_isMeta special
  simp only [List.mem_cons, List.not_mem_nil, or_false] at member
  rcases member with rfl | rfl | rfl | rfl | rfl | rfl | rfl | rfl | rfl | rfl | rfl | rfl | rfl |
    rfl | rfl | rfl | rfl | rfl <;> rfl

/-- The characters that start an operator or a group, or end one. -/
def operators : List Char := [')', '|', '(', '[', '?', '*', '+', '\x7b']

/-- Any other character starts an atom. -/
theorem readPattern_of_atom {c : Char} (other : c ∉ operators) {cs rest : List Char}
    {part : Syntax} (atom : readAtom false c cs = some (part, rest)) (fuel : Nat) (p : Progress) :
    readPattern (fuel + 1) false p (c :: cs) = readPattern fuel false (p.add part) rest := by
  simp only [operators, List.mem_cons, List.not_mem_nil, or_false, not_or] at other
  rw [readPattern, skip_false]
  split
  · contradiction
  · rename_i same
    exact absurd (List.cons.inj same).1 other.1
  · rename_i same
    exact absurd (List.cons.inj same).1 other.2.1
  · rename_i same
    exact absurd (List.cons.inj same).1 other.2.2.1
  · rename_i same
    exact absurd (List.cons.inj same).1 other.2.2.2.1
  · rename_i same
    obtain ⟨rfl, rfl⟩ := List.cons.inj same
    have operator : ¬ (c = '?' ∨ c = '*' ∨ c = '+' ∨ c = '\x7b') := by
      simpa only [not_or] using other.2.2.2.2
    rw [if_neg operator, atom]

/-- A character without a meaning is an atom that stands for itself. -/
theorem readAtom_of_not_isMeta {c : Char} (plain : isMeta c = false) (cs : List Char) :
    readAtom false c cs = some (.ofChar c, cs) := by
  have different : ∀ d, isMeta d = true → c ≠ d := by
    rintro d special rfl
    rw [plain] at special
    cases special
  unfold readAtom
  split
  · exact absurd rfl (different '\\' (by decide))
  · exact absurd rfl (different '.' (by decide))
  · exact absurd rfl (different '^' (by decide))
  · exact absurd rfl (different '$' (by decide))
  · rfl

theorem isMeta_of_mem_operators : ∀ c ∈ operators, isMeta c = true := by
  have all : operators.all isMeta = true := by decide
  exact List.all_eq_true.mp all

/-- A text is read as one atom after another, each of which matches a character of a set. -/
inductive Spells : List Char → List Syntax → List CharSet → Prop
  | nil : Spells [] [] []
  | cons {c : Char} {cs rest : List Char} {part : Syntax} {parts : List Syntax} {set : CharSet}
      {sets : List CharSet} (other : c ∉ operators)
      (atom : readAtom false c cs = some (part, rest)) (onward : rest.length ≤ cs.length)
      (flat : part.depth = 0) (means : part.regex? {} = some (.oneOf set, {}))
      (more : Spells rest parts sets) : Spells (c :: cs) (part :: parts) (set :: sets)

/-- The expression that reads a row of sets. -/
def Regex.row (sets : List CharSet) : Regex := .ofSequence (sets.map .oneOf)

namespace Spells

variable {cs : List Char} {parts : List Syntax} {sets : List CharSet}

theorem length_le (spells : Spells cs parts sets) : parts.length ≤ cs.length := by
  induction spells with
  | nil => exact Nat.le_refl 0
  | cons other atom onward flat means more ih =>
    exact Nat.succ_le_succ (Nat.le_trans ih onward)

/-- Every atom becomes a part of its own. -/
theorem readPattern (spells : Spells cs parts sets) (fuel : Nat) (p : Progress)
    (enough : parts.length < fuel) :
    Pattern.readPattern fuel false p cs =
      some (({ p with parts := parts.reverse ++ p.parts }.done, p.names), []) := by
  induction spells generalizing fuel p with
  | nil =>
    obtain ⟨fuel, rfl⟩ : ∃ k, fuel = k + 1 := ⟨fuel - 1, by omega⟩
    rfl
  | @cons c cs rest part parts set sets other atom onward flat means more ih =>
    obtain ⟨fuel, rfl⟩ : ∃ k, fuel = k + 1 := ⟨fuel - 1, by omega⟩
    have behind : (part :: parts).reverse ++ p.parts =
        parts.reverse ++ (p.add part).parts := by
      simp only [List.reverse_cons, List.append_assoc, List.singleton_append, Progress.add]
    rw [readPattern_of_atom other atom, ih _ _ (Nat.lt_of_succ_lt_succ enough), behind]
    rfl

theorem depth_ofParts (spells : Spells cs parts sets) : (Syntax.ofParts parts).depth ≤ 1 := by
  have flat : listDepth parts = 0 := by
    induction spells with
    | nil => rfl
    | cons other atom onward flat means more ih => rw [listDepth, flat, ih, Nat.max_self]
  match parts with
  | [] => exact Nat.zero_le 1
  | [part] =>
    rw [listDepth, listDepth, Nat.max_zero] at flat
    change part.depth ≤ 1
    omega
  | part :: next :: parts =>
    change listDepth (part :: next :: parts) + 1 ≤ 1
    omega

/-- A text of atoms is the pattern of these, one after another. -/
theorem parse? (spells : Spells cs parts sets) :
    Syntax.parse? cs = some (.ofParts parts) := by
  have whole : ({ branches := [], parts := parts.reverse ++ [], names := [] } : Progress).done =
      .ofParts parts := by
    simp only [Progress.done, List.append_nil, List.reverse_reverse, List.reverse_cons,
      List.reverse_nil, List.nil_append, Syntax.ofBranches]
  have shallow : (Syntax.ofParts parts).depth ≤ maxDepth :=
    Nat.le_trans spells.depth_ofParts (by decide)
  rw [Syntax.parse?, spells.readPattern _ _ (Nat.lt_succ_of_le spells.length_le)]
  simp only [whole, shallow, if_true]

theorem regexes? (spells : Spells cs parts sets) :
    Pattern.regexes? {} parts = some (sets.map .oneOf, {}) := by
  induction spells with
  | nil => rfl
  | cons other atom onward flat means more ih =>
    rw [Pattern.regexes?, means]
    simp only [Option.bind_eq_bind, Option.bind_some, ih]
    rfl

theorem regex? (spells : Spells cs parts sets) :
    (Syntax.ofParts parts).regex? {} = some (.row sets, {}) := by
  have all := spells.regexes?
  cases spells with
  | nil => rfl
  | cons other atom onward flat means more =>
    cases more with
    | nil => exact means
    | cons =>
      change (Syntax.concatenation (_ :: _ :: _)).regex? {} = _
      rw [Syntax.regex?, all]
      rfl

/-- A text of atoms compiles to the program of its sets, if that is not too large. -/
theorem compile {text : String} (spells : Spells text.toList parts sets) :
    Pattern.compile text =
      if (Regex.row sets).footprint ≤ maxFootprint then .ok (Regex.row sets).program
      else .error .tooLarge := by
  rw [Pattern.compile, spells.parse?]
  simp only [Option.bind_eq_bind, Option.bind_some, spells.regex?]

end Spells

/-- The sets of characters that a text stands for, case being of no account. -/
def caseForms (cs : List Char) : List CharSet :=
  cs.map fun c => Text.CaseFold.closure (.single c)

/-- A character, escaped if it has a meaning, is an atom for its case forms. -/
theorem spells_escape_char (c : Char) {rest : List Char} {parts : List Syntax}
    {sets : List CharSet} (more : Spells rest parts sets) :
    Spells ((if isMeta c then ['\\', c] else [c]) ++ rest) (.ofChar c :: parts)
      (Text.CaseFold.closure (.single c) :: sets) := by
  cases special : isMeta c with
  | true =>
    have backslash : '\\' ∉ operators := by decide
    change Spells ('\\' :: c :: rest) _ _
    exact .cons backslash (readEscape_of_isMeta special rest)
      (Nat.le_succ rest.length) rfl rfl more
  | false =>
    have other : c ∉ operators := by
      intro member
      rw [isMeta_of_mem_operators c member] at special
      cases special
    exact .cons other (readAtom_of_not_isMeta special rest) (Nat.le_refl rest.length) rfl rfl more

/-- An escaped text is the row of its characters. -/
theorem spells_escape (cs : List Char) : Spells (escape cs) (cs.map .ofChar) (caseForms cs) := by
  induction cs with
  | nil => exact .nil
  | cons c cs ih => exact spells_escape_char c ih

/-- An escaped text compiles to the program of its case forms, if that is not too large. -/
theorem compile_escape (text : String) :
    compile (String.ofList (escape text.toList)) =
      if (Regex.row (caseForms text.toList)).footprint ≤ maxFootprint then
        .ok (Regex.row (caseForms text.toList)).program
      else .error .tooLarge := by
  have spells := spells_escape text.toList
  rw [← String.toList_ofList (l := escape text.toList)] at spells
  exact spells.compile

end NodeGroups.Pattern
