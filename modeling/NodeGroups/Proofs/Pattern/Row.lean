import NodeGroups.Proofs.Pattern.Escape
import NodeGroups.Proofs.Text.CaseFold

set_option autoImplicit false

namespace NodeGroups.Pattern

open Text (CharSet)

/-- The code at an address reads the sets one after another and then accepts. -/
def Chain (code : Code) : List CharSet → Nat → Prop
  | [], address => code[address]? = some .accept
  | s :: sets, address => ∃ next, code[address]? = some (.read s next) ∧ Chain code sets next

/-- Whether a text starts with a character of each set in turn. -/
def startsWithin : List CharSet → List Char → Bool
  | [], _ => true
  | _ :: _, [] => false
  | s :: sets, c :: cs => s.contains c && startsWithin sets cs

theorem Chain.push {code : Code} {sets : List CharSet} {address : Nat}
    (chain : Chain code sets address) (i : Instruction) : Chain (code.push i) sets address := by
  have kept : ∀ (k : Nat) (j : Instruction), code[k]? = some j → (code.push i)[k]? = some j := by
    intro k j found
    have inside := (Array.getElem?_eq_some_iff.mp found).1
    rw [Array.getElem?_push_lt inside, ← found, Array.getElem?_eq_getElem inside]
  induction sets generalizing address with
  | nil => exact kept address _ chain
  | cons s sets ih =>
    obtain ⟨next, found, rest⟩ := chain
    exact ⟨next, kept address _ found, ih rest⟩

theorem Chain.append {code : Code} {sets : List CharSet} {next : Nat}
    (chain : Chain code sets next) (s : CharSet) :
    Chain (code.append (.read s next)).2 (s :: sets) (code.append (.read s next)).1 :=
  ⟨next, Array.getElem?_push_size, chain.push _⟩

/-- A row of sets is translated in front of the chain at which it goes on. -/
theorem chain_translate (sets : List CharSet) {rest : List CharSet} {next : Nat} {code : Code}
    (chain : Chain code rest next) :
    Chain ((Regex.row sets).translate next code).2 (sets ++ rest)
      ((Regex.row sets).translate next code).1 := by
  induction sets with
  | nil => exact chain
  | cons s sets ih =>
    cases sets with
    | nil => exact chain.append s
    | cons t sets => exact ih.append s

theorem chain_program (sets : List CharSet) :
    Chain (Regex.row sets).program.code sets (Regex.row sets).program.start := by
  have accepts : Chain #[.accept] [] 0 := rfl
  have chain := chain_translate sets accepts
  rw [List.append_nil] at chain
  exact chain

namespace Program

theorem waiting_accept {p : Program} {address : Nat} (found : p.code[address]? = some .accept)
    (before after : Option Char) : p.waiting before after [address] = ⟨[], true⟩ := by
  obtain ⟨inside, found⟩ := Array.getElem?_eq_some_iff.mp found
  simp [waiting, follow, inside, found]

theorem waiting_read {p : Program} {address next : Nat} {s : CharSet}
    (found : p.code[address]? = some (.read s next)) (before after : Option Char) :
    p.waiting before after [address] = ⟨[(s, next)], false⟩ := by
  obtain ⟨inside, found⟩ := Array.getElem?_eq_some_iff.mp found
  simp [waiting, follow, inside, found]

/-- One thread on a chain reads a character a step, and accepts at the end of the chain or never. -/
theorem run_chain {p : Program} (sets : List CharSet) {address : Nat}
    (chain : Chain p.code sets address) (before : Option Char) (length : Nat) (best : Option Nat)
    (cs : List Char) :
    p.run before [address] length best cs =
      if startsWithin sets cs then some (length + sets.length) else best := by
  induction sets generalizing address before length cs with
  | nil =>
    cases cs with
    | nil => simp [run, waiting_accept chain, startsWithin]
    | cons c cs => simp [run, waiting_accept chain, startsWithin]
  | cons s sets ih =>
    obtain ⟨next, found, rest⟩ := chain
    cases cs with
    | nil => simp [run, waiting_read found, startsWithin]
    | cons c cs =>
      by_cases reads : s.contains c = true
      · have onward := ih rest (some c) (length + 1) cs
        simp only [run, waiting_read found, List.filterMap_cons, reads, if_true,
          List.filterMap_nil, List.isEmpty_cons, Bool.false_eq_true, if_false, startsWithin,
          Bool.true_and]
        rw [onward, List.length_cons, Nat.add_assoc, Nat.add_comm 1]
      · simp [run, waiting_read found, startsWithin, reads]

/-- A row of sets matches what starts with a character of each of them, and nothing else. -/
theorem lengthAt_row (sets : List CharSet) (before : Option Char) (cs : List Char) :
    (Regex.row sets).program.lengthAt before cs =
      if startsWithin sets cs then some sets.length else none := by
  rw [lengthAt, run_chain sets (chain_program sets), Nat.zero_add]

end Program

/-- A character that a pattern takes as it stands, or for any character of a line if it is a dot. -/
def Plain (c : Char) : Prop := c ∉ operators ∧ c ∉ ['\\', '^', '$']

instance (c : Char) : Decidable (Plain c) := inferInstanceAs (Decidable (_ ∧ _))

theorem readAtom_of_plain {c : Char} (plain : Plain c) (dot : c ≠ '.') (cs : List Char) :
    readAtom false c cs = some (.ofChar c, cs) := by
  have different := plain.2
  simp only [List.mem_cons, List.not_mem_nil, or_false, not_or] at different
  unfold readAtom
  split
  · exact absurd rfl different.1
  · exact absurd rfl dot
  · exact absurd rfl different.2.1
  · exact absurd rfl different.2.2
  · rfl

/-- A plain text is a row of atoms that match it. -/
theorem spells_plain {cs : List Char} (plain : ∀ c ∈ cs, Plain c) :
    ∃ parts sets, Spells cs parts sets ∧ startsWithin sets cs = true := by
  induction cs with
  | nil => exact ⟨[], [], .nil, rfl⟩
  | cons c cs ih =>
    obtain ⟨parts, sets, more, within⟩ := ih fun d member => plain d (List.mem_cons_of_mem c member)
    have here := plain c List.mem_cons_self
    by_cases dot : c = '.'
    · subst dot
      have own : (CharSet.complement ⟨#[(0x0A, 0x0A)]⟩).contains '.' = true := by decide
      refine ⟨.dot :: parts, CharSet.complement ⟨#[(0x0A, 0x0A)]⟩ :: sets,
        .cons here.1 rfl (Nat.le_refl cs.length) rfl rfl more, ?_⟩
      rw [startsWithin, own, within, Bool.and_self]
    · have own : (Text.CaseFold.closure (.single c)).contains c = true :=
        (Text.CaseFold.contains_closure_single c c).mpr rfl
      refine ⟨.ofChar c :: parts, Text.CaseFold.closure (.single c) :: sets,
        .cons here.1 (readAtom_of_plain here dot cs) (Nat.le_refl cs.length) rfl rfl more, ?_⟩
      rw [startsWithin, own, within, Bool.and_self]

/-- A plain text compiles to the program of a row that matches it, if that is not too large. -/
theorem compile_plain {text : String} (plain : ∀ c ∈ text.toList, Plain c) :
    ∃ sets, startsWithin sets text.toList = true ∧
      compile text = if (Regex.row sets).footprint ≤ maxFootprint then .ok (Regex.row sets).program
        else .error .tooLarge := by
  obtain ⟨parts, sets, spells, within⟩ := spells_plain plain
  exact ⟨sets, within, spells.compile⟩

end NodeGroups.Pattern
