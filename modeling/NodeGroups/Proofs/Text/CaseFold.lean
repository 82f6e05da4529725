import NodeGroups.Proofs.Text.CharSet
import NodeGroups.Text.CaseFold

set_option autoImplicit false

namespace NodeGroups.Text.CaseFold

open CharSet (Covers Ascending)

/-- The numbers of a list as the bits of one number. -/
def bits (ns : List Nat) : Nat := ns.foldr (fun n m => m ||| Nat.pow 2 n) 0

theorem testBit_bits (ns : List Nat) (n : Nat) : (bits ns).testBit n = true ↔ n ∈ ns := by
  induction ns with
  | nil => simp [bits]
  | cons m ns ih =>
    have unfolded : bits (m :: ns) = bits ns ||| 2 ^ m := rfl
    rw [unfolded, Nat.testBit_or, Bool.or_eq_true, ih, Nat.testBit_two_pow, decide_eq_true_eq,
      List.mem_cons, or_comm, eq_comm]

/-- Lists without a common bit have no common number. -/
theorem not_mem_of_bits {ns ms : List Nat} (apart : bits ns &&& bits ms = 0) {n : Nat}
    (member : n ∈ ns) : n ∉ ms := by
  intro other
  have both : (bits ns &&& bits ms).testBit n = true := by
    rw [Nat.testBit_and, (testBit_bits ns n).mpr member, (testBit_bits ms n).mpr other,
      Bool.and_self]
  rw [apart, Nat.zero_testBit] at both
  cases both

-- The table has some two hundred runs, and evaluating it nests as deep.
set_option maxRecDepth 10000 in
theorem runs_ordered : (runs.toList.all fun r => Nat.ble r.first r.last) = true := by
  decide +kernel

set_option maxRecDepth 10000 in
theorem runs_neighbours :
    ((runs.toList.map fun r => (r.first, r.last)).zip
      (runs.toList.map fun r => (r.first, r.last)).tail).all
        (fun p => Nat.blt p.1.2 p.2.1) = true := by
  decide +kernel

/-- A run ends, like the characters to which it folds, on one side of the surrogates. -/
def Run.isScalar (r : Run) : Bool :=
  let last := r.target + (r.last - r.first)
  Nat.blt last 0xD800 || (Nat.blt 0xDFFF r.target && Nat.blt last 0x110000)

set_option maxRecDepth 10000 in
theorem runs_scalar : runs.toList.all Run.isScalar = true := by
  decide +kernel

set_option maxRecDepth 10000 in
theorem targets_apart : bits (pairs.map (·.1)) &&& bits (pairs.map (·.2)) = 0 := by
  decide +kernel

theorem first_le_last {r : Run} (member : r ∈ runs) : r.first ≤ r.last :=
  Nat.le_of_ble_eq_true (List.all_eq_true.mp runs_ordered r (Array.mem_toList_iff.mpr member))

theorem spans_ascending : Ascending spans.toList := by
  rw [spans, List.toList_toArray]
  refine Ascending.of_neighbours _ ?_ runs_neighbours
  intro span member
  obtain ⟨r, listed, rfl⟩ := List.mem_map.mp member
  exact first_le_last (Array.mem_toList_iff.mp listed)

/-- A pair is one of the characters of a run, and as far into it as its target is. -/
theorem mem_pairs {t n : Nat} :
    (t, n) ∈ pairs ↔ ∃ r ∈ runs, ∃ i, i ≤ (r.last - r.first) / r.step ∧
      t = r.target + i * r.step ∧ n = r.first + i * r.step := by
  simp only [pairs, Run.pairs, List.mem_flatMap, Array.mem_toList_iff, List.mem_map,
    List.mem_range, Nat.lt_succ_iff, Prod.mk.injEq]
  constructor
  · rintro ⟨r, listed, i, bound, rfl, rfl⟩
    exact ⟨r, listed, i, bound, rfl, rfl⟩
  · rintro ⟨r, listed, i, bound, rfl, rfl⟩
    exact ⟨r, listed, i, bound, rfl, rfl⟩

theorem mem_of_run? {n : Nat} {r : Run} (found : run? n = some r) : r ∈ runs :=
  Array.mem_of_getElem? found

/-- A code point between the ends of a run is in no other. -/
theorem run?_of_mem {n : Nat} {r : Run} (listed : r ∈ runs) (low : r.first ≤ n)
    (high : n ≤ r.last) : run? n = some r := by
  obtain ⟨k, found⟩ := Array.getElem?_of_mem listed
  have span : spans[k]? = some (r.first, r.last) := by
    rw [spans, List.getElem?_toArray, List.getElem?_map, Array.getElem?_toList, found]
    rfl
  rw [run?, CharSet.seek_unique spans_ascending span low high, found]

theorem foldCode_eq_or_mem (n : Nat) : foldCode n = n ∨ (foldCode n, n) ∈ pairs := by
  unfold foldCode
  split
  · rename_i r found
    split
    · rename_i inside
      refine Or.inr (mem_pairs.mpr ⟨r, mem_of_run? found, (n - r.first) / r.step,
        Nat.div_le_div_right (by omega), ?_⟩)
      rw [Nat.div_mul_cancel (Nat.dvd_of_mod_eq_zero inside.2.2)]
      exact ⟨rfl, by omega⟩
    · exact Or.inl rfl
  · exact Or.inl rfl

/-- The source of a pair folds to its target. -/
theorem foldCode_of_mem {t n : Nat} (pair : (t, n) ∈ pairs) : foldCode n = t := by
  obtain ⟨r, listed, i, bound, rfl, rfl⟩ := mem_pairs.mp pair
  have reach : i * r.step ≤ r.last - r.first :=
    Nat.le_trans (Nat.mul_le_mul_right r.step bound) (Nat.div_mul_le_self _ _)
  have order := first_le_last listed
  have found := run?_of_mem listed (show r.first ≤ r.first + i * r.step by omega)
    (show r.first + i * r.step ≤ r.last by omega)
  have offset : r.first + i * r.step - r.first = i * r.step := Nat.add_sub_cancel_left ..
  have inside : r.first ≤ r.first + i * r.step ∧ r.first + i * r.step ≤ r.last ∧
      (r.first + i * r.step - r.first) % r.step = 0 := by
    rw [offset]
    exact ⟨by omega, by omega, Nat.mul_mod_left i r.step⟩
  unfold foldCode
  rw [found]
  dsimp only
  rw [if_pos inside, offset]

/-- What a character folds to does not fold any further. -/
theorem foldCode_target {t n : Nat} (pair : (t, n) ∈ pairs) : foldCode t = t := by
  rcases foldCode_eq_or_mem t with same | other
  · exact same
  · have target : t ∈ pairs.map (·.1) := List.mem_map.mpr ⟨_, pair, rfl⟩
    have source : t ∈ pairs.map (·.2) := List.mem_map.mpr ⟨_, other, rfl⟩
    exact absurd source (not_mem_of_bits targets_apart target)

theorem target_isValidChar {t n : Nat} (pair : (t, n) ∈ pairs) : t.isValidChar := by
  obtain ⟨r, listed, i, bound, rfl, rfl⟩ := mem_pairs.mp pair
  have reach : i * r.step ≤ r.last - r.first :=
    Nat.le_trans (Nat.mul_le_mul_right r.step bound) (Nat.div_mul_le_self _ _)
  have scalar := List.all_eq_true.mp runs_scalar r (Array.mem_toList_iff.mpr listed)
  simp only [Run.isScalar, Bool.or_eq_true, Bool.and_eq_true, Nat.blt_eq] at scalar
  unfold Nat.isValidChar
  omega

theorem toNat_ofNat_of_isValidChar {n : Nat} (valid : n.isValidChar) :
    (Char.ofNat n).toNat = n := by
  rw [Char.ofNat, dif_pos valid]
  rfl

theorem toNat_fold (c : Char) : (fold c).toNat = foldCode c.toNat := by
  have valid : (foldCode c.toNat).isValidChar := by
    rcases foldCode_eq_or_mem c.toNat with same | pair
    · rw [same]
      exact c.valid
    · exact target_isValidChar pair
  exact toNat_ofNat_of_isValidChar valid

theorem fold_eq_iff (c d : Char) : fold c = fold d ↔ foldCode c.toNat = foldCode d.toNat := by
  rw [← Char.toNat_inj, toNat_fold, toNat_fold]

/-- Code points have one case form in common when they are equal or in pairs of one target. -/
theorem foldCode_eq_iff (m n : Nat) :
    foldCode m = foldCode n ↔
      m = n ∨ ∃ t, (∃ s, (t, s) ∈ pairs ∧ (m = t ∨ m = s)) ∧
        ∃ s, (t, s) ∈ pairs ∧ (n = t ∨ n = s) := by
  constructor
  · intro same
    rcases foldCode_eq_or_mem m with fixedM | pairM
    · rcases foldCode_eq_or_mem n with fixedN | pairN
      · exact Or.inl (by rw [← fixedM, same, fixedN])
      · rw [← same, fixedM] at pairN
        exact Or.inr ⟨m, ⟨n, pairN, Or.inl rfl⟩, n, pairN, Or.inr rfl⟩
    · refine Or.inr ⟨foldCode m, ⟨m, pairM, Or.inr rfl⟩, ?_⟩
      rcases foldCode_eq_or_mem n with fixedN | pairN
      · exact ⟨m, pairM, Or.inl (by rw [same, fixedN])⟩
      · exact ⟨n, same ▸ pairN, Or.inr rfl⟩
  · have folds : ∀ t k, (∃ s, (t, s) ∈ pairs ∧ (k = t ∨ k = s)) → foldCode k = t := by
      rintro t k ⟨s, pair, rfl | rfl⟩
      · exact foldCode_target pair
      · exact foldCode_of_mem pair
    rintro (rfl | ⟨t, formM, formN⟩)
    · rfl
    · rw [folds t m formM, folds t n formN]

/-- The targets of the pairs in which a character of a set is, as ranges. -/
def targets (s : CharSet) : List (Nat × Nat) :=
  pairs.filterMap fun p =>
    if s.containsCode p.1 || s.containsCode p.2 then some (p.1, p.1) else none

theorem hits_eq (s : CharSet) : hits s = CharSet.ofRanges (targets s) := rfl

theorem containsCode_hits (s : CharSet) (t : Nat) :
    (hits s).containsCode t = true ↔
      ∃ n, (t, n) ∈ pairs ∧ (s.containsCode t = true ∨ s.containsCode n = true) := by
  rw [hits_eq, targets, CharSet.containsCode_ofRanges]
  · simp only [Covers, List.mem_filterMap, Option.ite_none_right_eq_some, Bool.or_eq_true,
      Option.some.injEq, Prod.exists, Prod.mk.injEq]
    constructor
    · rintro ⟨lo, hi, ⟨target, source, pair, contained, rfl, rfl⟩, low, high⟩
      have same : target = t := Nat.le_antisymm low high
      subst same
      exact ⟨source, pair, contained⟩
    · rintro ⟨n, pair, contained⟩
      exact ⟨t, t, ⟨t, n, pair, contained, rfl, rfl⟩, Nat.le_refl t, Nat.le_refl t⟩
  · intro r member
    simp only [List.mem_filterMap, Option.ite_none_right_eq_some, Option.some.injEq,
      Prod.exists] at member
    obtain ⟨target, source, -, -, rfl⟩ := member
    exact Nat.le_refl target

theorem mem_forms {targets : CharSet} {r : Nat × Nat} :
    r ∈ forms targets ↔ ∃ t n, (t, n) ∈ pairs ∧ targets.containsCode t = true ∧
      (r = (t, t) ∨ r = (n, n)) := by
  simp only [forms, List.mem_flatMap, List.mem_ite_nil_right, List.mem_cons, List.not_mem_nil,
    or_false, Prod.exists]

theorem forms_ordered (targets : CharSet) : ∀ r ∈ forms targets, r.1 ≤ r.2 := by
  intro r member
  obtain ⟨t, n, -, -, rfl | rfl⟩ := mem_forms.mp member
  · exact Nat.le_refl t
  · exact Nat.le_refl n

theorem containsCode_closure {s : CharSet} (ascending : Ascending s.ranges.toList) (n : Nat) :
    (closure s).containsCode n = true ↔ s.containsCode n = true ∨
      ∃ t, (∃ m, (t, m) ∈ pairs ∧ (s.containsCode t = true ∨ s.containsCode m = true)) ∧
        ∃ m, (t, m) ∈ pairs ∧ (n = t ∨ n = m) := by
  rw [closure, CharSet.containsCode_union ascending
    (CharSet.ofRanges_ascending _ (forms_ordered _)),
    CharSet.containsCode_ofRanges _ (forms_ordered _)]
  refine or_congr Iff.rfl ?_
  constructor
  · rintro ⟨r, member, low, high⟩
    obtain ⟨t, m, pair, hit, rfl | rfl⟩ := mem_forms.mp member
    · exact ⟨t, (containsCode_hits s t).mp hit, m, pair, Or.inl (Nat.le_antisymm high low)⟩
    · exact ⟨t, (containsCode_hits s t).mp hit, m, pair, Or.inr (Nat.le_antisymm high low)⟩
  · rintro ⟨t, hit, m, pair, rfl | rfl⟩
    · exact ⟨_, mem_forms.mpr ⟨n, m, pair, (containsCode_hits s n).mpr hit, Or.inl rfl⟩,
        Nat.le_refl n, Nat.le_refl n⟩
    · exact ⟨_, mem_forms.mpr ⟨t, n, pair, (containsCode_hits s t).mpr hit, Or.inr rfl⟩,
        Nat.le_refl n, Nat.le_refl n⟩

/-- The case forms of a character are the characters that fold to the same. -/
theorem contains_closure_single (c d : Char) :
    (closure (CharSet.single c)).contains d = true ↔ fold c = fold d := by
  rw [CharSet.contains, containsCode_closure (CharSet.single_ascending c), fold_eq_iff,
    foldCode_eq_iff]
  simp only [CharSet.containsCode_single]
  have swap : d.toNat = c.toNat ↔ c.toNat = d.toNat := eq_comm
  have turn : ∀ t m : Nat, (t = c.toNat ∨ m = c.toNat) ↔ (c.toNat = t ∨ c.toNat = m) :=
    fun t m => or_congr eq_comm eq_comm
  simp only [swap, turn]

/-- A character that no other folds to and that folds to no other has no forms but itself. -/
theorem closure_single_of_targets {c : Char} (alone : targets (.single c) = []) :
    closure (.single c) = .single c := by
  have hits : CaseFold.hits (.single c) = ⟨#[]⟩ := by
    rw [hits_eq, alone]
    simp [CharSet.ofRanges]
  have forms : CaseFold.forms ⟨#[]⟩ = [] := by decide +kernel
  rw [closure, hits, forms]
  simp [CharSet.union, CharSet.single, CharSet.ofRanges, CharSet.addRange]

end NodeGroups.Text.CaseFold
