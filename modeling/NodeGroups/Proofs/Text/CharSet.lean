import NodeGroups.Text.CharSet

set_option autoImplicit false

namespace NodeGroups.Text.CharSet

/-- A code point lies in one of the ranges. -/
def Covers (rs : List (Nat × Nat)) (n : Nat) : Prop := ∃ r ∈ rs, r.1 ≤ n ∧ n ≤ r.2

/-- Ranges with their ends in order, each of which ends before the next one starts. -/
structure Ascending (rs : List (Nat × Nat)) : Prop where
  ordered : ∀ r ∈ rs, r.1 ≤ r.2
  apart : rs.Pairwise (fun a b => a.2 < b.1)

theorem covers_nil (n : Nat) : ¬ Covers [] n := by
  rintro ⟨r, member, -⟩
  cases member

theorem covers_cons (r : Nat × Nat) (rs : List (Nat × Nat)) (n : Nat) :
    Covers (r :: rs) n ↔ (r.1 ≤ n ∧ n ≤ r.2) ∨ Covers rs n := by
  simp only [Covers, List.mem_cons, exists_eq_or_imp]

theorem covers_append (rs more : List (Nat × Nat)) (n : Nat) :
    Covers (rs ++ more) n ↔ Covers rs n ∨ Covers more n := by
  simp only [Covers, List.mem_append, or_and_right, exists_or]

/-- Ranges ascend when each ends before the one next to it starts. -/
theorem Ascending.of_neighbours (rs : List (Nat × Nat)) (ordered : ∀ r ∈ rs, r.1 ≤ r.2)
    (neighbours : (rs.zip rs.tail).all (fun p => Nat.blt p.1.2 p.2.1) = true) : Ascending rs := by
  refine ⟨ordered, ?_⟩
  induction rs with
  | nil => exact List.Pairwise.nil
  | cons a rs ih =>
    cases rs with
    | nil => exact List.pairwise_singleton _ a
    | cons b rs =>
      simp only [List.tail_cons, List.zip_cons_cons, List.all_cons, Bool.and_eq_true,
        Nat.blt_eq] at neighbours
      obtain ⟨step, rest⟩ := neighbours
      have apart := ih (fun r member => ordered r (List.mem_cons_of_mem a member)) rest
      refine List.pairwise_cons.mpr ⟨?_, apart⟩
      intro c member
      rcases List.mem_cons.mp member with rfl | member
      · exact step
      · have first := ordered b (by simp)
        have := (List.pairwise_cons.mp apart).1 c member
        omega

/-- What a search between two places knows: the ranges in front of the first end before `n`, and
those from the second on do not. -/
structure Bracketed (ranges : Array (Nat × Nat)) (n lo hi : Nat) : Prop where
  order : lo ≤ hi
  bounded : hi ≤ ranges.size
  before : ∀ i r, ranges[i]? = some r → i < lo → r.2 < n
  after : ∀ i r, ranges[i]? = some r → hi ≤ i → n ≤ r.2

theorem Bracketed.full (ranges : Array (Nat × Nat)) (n : Nat) :
    Bracketed ranges n 0 ranges.size := by
  refine ⟨Nat.zero_le _, Nat.le_refl _, ?_, ?_⟩
  · intro i r _ below
    omega
  · intro i r found above
    have inside := (Array.getElem?_eq_some_iff.mp found).1
    omega

theorem Ascending.ends_mono {ranges : Array (Nat × Nat)} (ascending : Ascending ranges.toList)
    {i j : Nat} {a b : Nat × Nat} (le : i ≤ j) (ha : ranges[i]? = some a)
    (hb : ranges[j]? = some b) : a.2 ≤ b.2 := by
  rw [← Array.getElem?_toList] at ha hb
  obtain ⟨hi, rfl⟩ := List.getElem?_eq_some_iff.mp ha
  obtain ⟨hj, rfl⟩ := List.getElem?_eq_some_iff.mp hb
  rcases Nat.lt_or_eq_of_le le with lt | rfl
  · have step := List.pairwise_iff_getElem.mp ascending.apart i j hi hj lt
    have := ascending.ordered _ (List.getElem_mem hj)
    omega
  · exact Nat.le_refl _

/-- A search with enough fuel ends at a place that brackets `n` from both sides. -/
theorem seek_bracketed {ranges : Array (Nat × Nat)} (ascending : Ascending ranges.toList)
    {n : Nat} (fuel lo hi : Nat) (inv : Bracketed ranges n lo hi)
    (enough : hi - lo < Nat.pow 2 fuel) :
    Bracketed ranges n (seek ranges n fuel lo hi) (seek ranges n fuel lo hi) := by
  induction fuel generalizing lo hi with
  | zero =>
    have same : hi = lo := by
      have := inv.order
      have one : Nat.pow 2 0 = 1 := rfl
      omega
    subst same
    exact inv
  | succ fuel ih =>
    rw [seek]
    have double : Nat.pow 2 (fuel + 1) = Nat.pow 2 fuel * 2 := rfl
    split
    · have same : hi = lo := Nat.le_antisymm (by assumption) inv.order
      subst same
      exact inv
    · rename_i wide
      have inside : (lo + hi) / 2 < ranges.size := by
        have := inv.bounded
        omega
      have middle : ranges[(lo + hi) / 2]? = some ranges[(lo + hi) / 2] :=
        Array.getElem?_eq_getElem inside
      simp only [middle]
      split
      · rename_i less
        refine ih _ _ ⟨by omega, inv.bounded, ?_, inv.after⟩ (by omega)
        intro i r found below
        have := ascending.ends_mono (by omega) found middle
        omega
      · rename_i notLess
        refine ih _ _ ⟨by omega, by omega, inv.before, ?_⟩ (by omega)
        intro i r found above
        have := ascending.ends_mono above middle found
        omega

/-- The place that a search finds is the first whose range does not end before `n`. -/
theorem seek_first {ranges : Array (Nat × Nat)} (ascending : Ascending ranges.toList) (n : Nat) :
    Bracketed ranges n (seek ranges n (ranges.size.log2 + 1) 0 ranges.size)
      (seek ranges n (ranges.size.log2 + 1) 0 ranges.size) := by
  apply seek_bracketed ascending _ _ _ (Bracketed.full ranges n)
  rw [Nat.sub_zero]
  exact Nat.lt_log2_self

/-- Only the range at the place found can hold `n`. -/
theorem seek_unique {ranges : Array (Nat × Nat)} (ascending : Ascending ranges.toList) {n i : Nat}
    {r : Nat × Nat} (found : ranges[i]? = some r) (low : r.1 ≤ n) (high : n ≤ r.2) :
    seek ranges n (ranges.size.log2 + 1) 0 ranges.size = i := by
  have inv := seek_first ascending n
  generalize seek ranges n (ranges.size.log2 + 1) 0 ranges.size = k at inv ⊢
  have upper : k ≤ i := by
    apply Decidable.byContradiction
    intro above
    have := inv.before i r found (by omega)
    omega
  apply Decidable.byContradiction
  intro different
  have below : k < i := by omega
  have inside : i < ranges.size := (Array.getElem?_eq_some_iff.mp found).1
  have first : ranges[k]? = some ranges[k] := Array.getElem?_eq_getElem (by omega)
  have reach := inv.after k _ first (Nat.le_refl k)
  rw [← Array.getElem?_toList] at found first
  obtain ⟨hi, rfl⟩ := List.getElem?_eq_some_iff.mp found
  obtain ⟨hk, same⟩ := List.getElem?_eq_some_iff.mp first
  have gap := List.pairwise_iff_getElem.mp ascending.apart k i hk hi below
  rw [same] at gap
  omega

theorem containsCode_iff {s : CharSet} (ascending : Ascending s.ranges.toList) (n : Nat) :
    s.containsCode n = true ↔ Covers s.ranges.toList n := by
  constructor
  · intro contained
    unfold containsCode at contained
    split at contained
    · rename_i r found
      rw [← Array.getElem?_toList] at found
      exact ⟨r, List.mem_of_getElem? found, by simpa using contained⟩
    · cases contained
  · rintro ⟨r, member, low, high⟩
    obtain ⟨i, found⟩ := List.getElem?_of_mem member
    rw [Array.getElem?_toList] at found
    have place := seek_unique ascending found low high
    simp only [containsCode, place, found, low, high, decide_true, Bool.and_self]

/-- Ranges given last first, as they are while they are being joined. -/
structure Descending (acc : List (Nat × Nat)) : Prop where
  ordered : ∀ r ∈ acc, r.1 ≤ r.2
  apart : acc.Pairwise (fun a b => b.2 < a.1)

theorem Descending.reverse {acc : List (Nat × Nat)} (descending : Descending acc) :
    Ascending acc.reverse := by
  refine ⟨?_, List.pairwise_reverse.mpr descending.apart⟩
  intro r member
  exact descending.ordered r (List.mem_reverse.mp member)

theorem addRange_descending {acc : List (Nat × Nat)} {r : Nat × Nat}
    (descending : Descending acc) (ordered : r.1 ≤ r.2) (later : ∀ a ∈ acc, a.1 ≤ r.1) :
    Descending (addRange acc r) := by
  cases acc with
  | nil => exact ⟨by simpa [addRange] using ordered, by simp [addRange]⟩
  | cons a rest =>
    have first := descending.ordered a List.mem_cons_self
    have rests : ∀ b ∈ rest, b.1 ≤ b.2 := fun b member =>
      descending.ordered b (List.mem_cons_of_mem a member)
    obtain ⟨below, apart⟩ := List.pairwise_cons.mp descending.apart
    rw [addRange]
    split
    · refine ⟨?_, List.pairwise_cons.mpr ⟨below, apart⟩⟩
      intro b member
      rcases List.mem_cons.mp member with rfl | member
      · exact Nat.le_trans first (Nat.le_max_left _ _)
      · exact rests b member
    · rename_i gap
      refine ⟨?_, List.pairwise_cons.mpr ⟨?_, descending.apart⟩⟩
      · intro b member
        rcases List.mem_cons.mp member with rfl | member
        · exact ordered
        · exact descending.ordered b member
      · intro b member
        rcases List.mem_cons.mp member with rfl | member
        · omega
        · have := below b member
          omega

/-- What a range adds is the range, also where it is joined with the one before. -/
theorem covers_addRange {acc : List (Nat × Nat)} {r : Nat × Nat}
    (later : ∀ a ∈ acc, a.1 ≤ r.1) (n : Nat) :
    Covers (addRange acc r) n ↔ Covers acc n ∨ (r.1 ≤ n ∧ n ≤ r.2) := by
  cases acc with
  | nil => simp only [addRange, covers_cons, covers_nil, or_false, false_or]
  | cons a rest =>
    have start := later a List.mem_cons_self
    rw [addRange]
    split
    · simp only [covers_cons]
      have : (a.1 ≤ n ∧ n ≤ max a.2 r.2) ↔ (a.1 ≤ n ∧ n ≤ a.2) ∨ (r.1 ≤ n ∧ n ≤ r.2) := by
        omega
      rw [this]
      exact or_right_comm
    · rw [covers_cons r]
      exact or_comm

theorem mem_addRange_start {acc : List (Nat × Nat)} {r b : Nat × Nat}
    (member : b ∈ addRange acc r) : b.1 = r.1 ∨ ∃ a ∈ acc, b.1 = a.1 := by
  cases acc with
  | nil =>
    rw [List.mem_singleton.mp member]
    exact Or.inl rfl
  | cons a rest =>
    rw [addRange] at member
    split at member
    · rcases List.mem_cons.mp member with rfl | member
      · exact Or.inr ⟨a, List.mem_cons_self, rfl⟩
      · exact Or.inr ⟨b, List.mem_cons_of_mem a member, rfl⟩
    · rcases List.mem_cons.mp member with rfl | member
      · exact Or.inl rfl
      · exact Or.inr ⟨b, member, rfl⟩

/-- Joining keeps what was joined so far in order, as long as ranges come by their starts. -/
theorem foldl_addRange (rs : List (Nat × Nat)) (acc : List (Nat × Nat))
    (descending : Descending acc) (ordered : ∀ r ∈ rs, r.1 ≤ r.2)
    (sorted : rs.Pairwise (fun a b => a.1 ≤ b.1)) (later : ∀ r ∈ rs, ∀ a ∈ acc, a.1 ≤ r.1) :
    Descending (rs.foldl addRange acc) ∧
      ∀ n, Covers (rs.foldl addRange acc) n ↔ Covers acc n ∨ Covers rs n := by
  induction rs generalizing acc with
  | nil =>
    refine ⟨descending, ?_⟩
    intro n
    simp only [List.foldl_nil, covers_nil, or_false]
  | cons r rs ih =>
    obtain ⟨first, sorted⟩ := List.pairwise_cons.mp sorted
    have now := later r List.mem_cons_self
    have joined := addRange_descending descending (ordered r List.mem_cons_self) now
    have still : ∀ q ∈ rs, ∀ a ∈ addRange acc r, a.1 ≤ q.1 := by
      intro q hq a ha
      rcases mem_addRange_start ha with same | ⟨b, hb, same⟩
      · rw [same]
        exact first q hq
      · rw [same]
        exact later q (List.mem_cons_of_mem r hq) b hb
    obtain ⟨shape, cover⟩ := ih (addRange acc r) joined
      (fun q hq => ordered q (List.mem_cons_of_mem r hq)) sorted still
    refine ⟨shape, ?_⟩
    intro n
    rw [List.foldl_cons, cover, covers_addRange now, covers_cons, or_assoc]

theorem sorted_starts (rs : List (Nat × Nat)) :
    (rs.mergeSort (fun a b => a.1 ≤ b.1)).Pairwise (fun a b => a.1 ≤ b.1) := by
  have sorted := @List.pairwise_mergeSort _ (fun a b : Nat × Nat => decide (a.1 ≤ b.1))
    (by intro a b c; simp only [decide_eq_true_eq]; omega)
    (by intro a b; simp only [Bool.or_eq_true, decide_eq_true_eq]; omega) rs
  simpa only [decide_eq_true_eq] using sorted

/-- Sorted ranges are joined in order, and cover what they covered. -/
theorem foldl_sorted (rs : List (Nat × Nat)) (ordered : ∀ r ∈ rs, r.1 ≤ r.2) :
    Descending ((rs.mergeSort (fun a b => a.1 ≤ b.1)).foldl addRange []) ∧
      ∀ n, Covers ((rs.mergeSort (fun a b => a.1 ≤ b.1)).foldl addRange []) n ↔
        Covers [] n ∨ Covers (rs.mergeSort (fun a b => a.1 ≤ b.1)) n := by
  have none : Descending [] := ⟨by simp, by simp⟩
  refine foldl_addRange _ [] none ?_ (sorted_starts rs) (by simp)
  exact fun r member => ordered r (List.mem_mergeSort.mp member)

theorem ofRanges_ascending (rs : List (Nat × Nat)) (ordered : ∀ r ∈ rs, r.1 ≤ r.2) :
    Ascending (ofRanges rs).ranges.toList :=
  (foldl_sorted rs ordered).1.reverse

theorem covers_ofRanges (rs : List (Nat × Nat)) (ordered : ∀ r ∈ rs, r.1 ≤ r.2) (n : Nat) :
    Covers (ofRanges rs).ranges.toList n ↔ Covers rs n := by
  have cover := (foldl_sorted rs ordered).2 n
  simpa only [ofRanges, Covers, List.mem_reverse, List.mem_mergeSort, List.not_mem_nil, false_and,
    exists_false, false_or] using cover

/-- A code point is in the set of some ranges when it lies in one of them. -/
theorem containsCode_ofRanges (rs : List (Nat × Nat)) (ordered : ∀ r ∈ rs, r.1 ≤ r.2) (n : Nat) :
    (ofRanges rs).containsCode n = true ↔ Covers rs n := by
  rw [containsCode_iff (ofRanges_ascending rs ordered), covers_ofRanges rs ordered]

theorem containsCode_union {a b : CharSet} (left : Ascending a.ranges.toList)
    (right : Ascending b.ranges.toList) (n : Nat) :
    (a.union b).containsCode n = true ↔ a.containsCode n = true ∨ b.containsCode n = true := by
  have ordered : ∀ r ∈ a.ranges.toList ++ b.ranges.toList, r.1 ≤ r.2 := by
    intro r member
    exact (List.mem_append.mp member).elim (left.ordered r) (right.ordered r)
  rw [union, containsCode_ofRanges _ ordered, covers_append, containsCode_iff left,
    containsCode_iff right]

theorem single_ascending (c : Char) : Ascending (single c).ranges.toList := by
  constructor
  · simp [single]
  · simp [single]

theorem containsCode_single (c : Char) (n : Nat) :
    (single c).containsCode n = true ↔ n = c.toNat := by
  rw [containsCode_iff (single_ascending c)]
  simp only [single, covers_cons, covers_nil, or_false]
  omega

end NodeGroups.Text.CharSet
