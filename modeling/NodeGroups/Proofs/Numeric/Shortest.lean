import NodeGroups.Numeric.Shortest

set_option autoImplicit false

namespace NodeGroups.Numeric.Decimal

theorem pow10_of_nonpos {t : Int} (nonpos : t ≤ 0) : pow10 t = 1 := by
  simp [pow10, Int.toNat_of_nonpos nonpos]

theorem pow2_pos (e : Int) : 0 < pow2 e := Nat.pow_pos (by decide)

theorem pow10_pos (t : Int) : 0 < pow10 t := Nat.pow_pos (by decide)

theorem pow10_le {s t : Int} (le : s ≤ t) : pow10 s ≤ pow10 t :=
  Nat.pow_le_pow_right (by decide) (Int.toNat_le_toNat le)

theorem strip_pos {d : Nat} (positive : 0 < d) (fuel : Nat) (t : Int) :
    0 < (strip fuel d t).digits := by
  induction fuel generalizing d t with
  | zero => exact positive
  | succ fuel ih =>
    rw [strip]
    split
    · exact ih (by omega) (t + 1)
    · exact positive

section Grids

variable {b : Basin} {m : Nat} {e t : Int}

/-- Zero is in no basin of a positive number. -/
theorem not_contains_zero (low : 0 < b.low) : b.contains e 0 t = false := by
  have less : compareScaled 0 t b.low (e - 2) = .lt := by
    rw [compareScaled, Nat.zero_mul, Nat.zero_mul]
    exact Nat.compare_eq_lt.mpr
      (Nat.mul_pos (Nat.mul_pos low (pow2_pos _)) (pow10_pos _))
  simp [Basin.contains, less]

theorem onGrid_pos (low : 0 < b.low) {d : Nat} (found : onGrid b m e t = some d) : 0 < d := by
  have zero : ∀ n, b.contains e n t = true → 0 < n := by
    intro n inside
    refine Nat.pos_of_ne_zero fun none => ?_
    rw [none, not_contains_zero low] at inside
    cases inside
  unfold onGrid at found
  dsimp only at found
  split at found
  · cases found
  · rename_i inside _
    cases found
    exact zero _ inside
  · cases found
    exact Nat.succ_pos _
  · rename_i inside _
    have below := zero _ inside
    split at found
    · cases found
      exact below
    · cases found
      exact Nat.succ_pos _
    · obtain rfl := Option.some.inj found
      split
      · exact below
      · exact Nat.succ_pos _

/-- The search ends with positive digits, or rounds down to the grid below the last that it
tried. -/
theorem search_pos (low : 0 < b.low) (fuel : Nat) (t : Int) :
    0 < (search b m e fuel t).digits ∨ search b m e fuel t =
      ⟨(m * pow2 e * pow10 (-(t - fuel))) / (pow2 (-e) * pow10 (t - fuel)), t - fuel⟩ := by
  induction fuel generalizing t with
  | zero =>
    right
    rw [search, Int.natCast_zero, Int.sub_zero]
  | succ fuel ih =>
    rw [search]
    split
    · rename_i d found
      exact .inl (strip_pos (onGrid_pos low found) 20 t)
    · have next : t - 1 - (fuel : Int) = t - (fuel + 1 : Nat) := by omega
      rw [← next]
      exact ih (t - 1)

end Grids

/-- A grid above one is no coarser than the number, even where the guess at its magnitude was too
large. -/
theorem le_of_magnitude {m : Nat} {e t : Int} (positive : 0 < m) (grid : t + 17 = magnitude m e)
    (large : 1 ≤ t) (small : t ≤ 15) : pow2 (-e) * pow10 t ≤ m * pow2 e := by
  have scaled : ∀ s : Int, compareScaled 1 s m e ≠ .gt → t ≤ s →
      pow2 (-e) * pow10 t ≤ m * pow2 e := by
    intro s less le
    rw [compareScaled, pow10_of_nonpos (show -s ≤ 0 by omega), Nat.one_mul, Nat.mul_one] at less
    have bound : pow10 s * pow2 (-e) ≤ m * pow2 e :=
      Nat.not_lt.mp fun gt => less (Nat.compare_eq_gt.mpr gt)
    calc pow2 (-e) * pow10 t
      _ ≤ pow2 (-e) * pow10 s := Nat.mul_le_mul_left _ (pow10_le le)
      _ = pow10 s * pow2 (-e) := Nat.mul_comm _ _
      _ ≤ m * pow2 e := bound
  unfold magnitude at grid
  rw [Int.fdiv_eq_ediv_of_nonneg _ (by decide)] at grid
  dsimp only at grid
  split at grid
  · rename_i next
    exact scaled _ (by simpa using next) (by omega)
  · split at grid
    · -- Nothing was compared with the grid, but the guess came from the length of the number.
      have long : 63 ≤ (m.log2 : Int) + e := by omega
      have digits : pow10 t ≤ 2 ^ 63 := Nat.le_trans (pow10_le small) (by decide)
      calc pow2 (-e) * pow10 t
        _ ≤ pow2 (-e) * 2 ^ 63 := Nat.mul_le_mul_left _ digits
        _ = 2 ^ ((-e).toNat + 63) := (Nat.pow_add ..).symm
        _ ≤ 2 ^ (m.log2 + e.toNat) := Nat.pow_le_pow_right (by decide) (by omega)
        _ = 2 ^ m.log2 * pow2 e := Nat.pow_add ..
        _ ≤ m * pow2 e := Nat.mul_le_mul_right _ (Nat.log2_self_le (by omega))
    · rename_i here
      exact scaled _ (by simpa using here) (by omega)

/-- The shortest decimal of a positive number has positive digits if it is one of the grids above
one and below `10 ^ 16`. -/
theorem shortest_pos (f : Format) {m : Nat} (e : Int) (positive : 0 < m)
    (large : 1 ≤ (shortest f m e).exponent) (small : (shortest f m e).exponent ≤ 15) :
    0 < (shortest f m e).digits := by
  have low : 0 < (basin f m e).low := by
    unfold basin
    dsimp only
    split <;> omega
  rcases search_pos low 17 (magnitude m e) with found | rounded
  · exact found
  · unfold shortest at large small ⊢
    rw [rounded] at large small ⊢
    dsimp only at large small ⊢
    rw [pow10_of_nonpos (by omega), Nat.mul_one]
    exact Nat.div_pos (le_of_magnitude positive (by omega) large small)
      (Nat.mul_pos (pow2_pos _) (pow10_pos _))

end NodeGroups.Numeric.Decimal
