import Mathlib.Algebra.Order.Field.Power
import Mathlib.Algebra.Order.Field.Rat
import Mathlib.Tactic.Linarith
import Mathlib.Tactic.Positivity
import NodeGroups.Proofs.Numeric.Shortest

set_option autoImplicit false

namespace NodeGroups.Numeric

open Decimal (pow10_pos pow2_pos)

namespace Binary

/-- Whether one number is less than another. A NaN is less than nothing, and nothing is less than
it. -/
def less : Binary → Binary → Bool
  | .nan, _ => false
  | _, .nan => false
  | .infinite s, .infinite t => s && !t
  | .infinite s, .finite .. => s
  | .finite .., .infinite t => !t
  | .finite s m e, .finite t n g =>
    let low := min e g
    Format.signed s (m * pow2 (e - low)) < Format.signed t (n * pow2 (g - low))

def value (negative : Bool) (m : Nat) (e : Int) : ℚ := Format.signed negative m * 2 ^ e

theorem value_false (m : Nat) (e : Int) : value false m e = m * 2 ^ e := rfl

theorem value_true (m : Nat) (e : Int) : value true m e = -(m * 2 ^ e) := by
  simp [value, Format.signed]

theorem value_zero (negative : Bool) (e : Int) : value negative 0 e = 0 := by
  simp [value, Format.signed]

end Binary

theorem pow2_of_nonneg {e : Int} (nonneg : 0 ≤ e) : (pow2 e : ℚ) = 2 ^ e := by
  obtain ⟨n, rfl⟩ := Int.eq_ofNat_of_zero_le nonneg
  rw [pow2, Int.toNat_natCast, zpow_natCast]
  exact Nat.cast_pow 2 n

theorem two_zpow (e : Int) : (2 : ℚ) ^ e = pow2 e / pow2 (-e) := by
  have one : ∀ {n : Int}, n ≤ 0 → pow2 n = 1 := fun nonpos => by
    rw [pow2, Int.toNat_of_nonpos nonpos]
  rcases le_total 0 e with nonneg | nonpos
  · rw [pow2_of_nonneg nonneg, one (by omega), Nat.cast_one, div_one]
  · rw [one nonpos, pow2_of_nonneg (by omega : 0 ≤ -e), zpow_neg, Nat.cast_one, one_div, inv_inv]

/-- A number is a multiple of every smaller power of two. -/
theorem mul_zpow_eq (m : Nat) {e g : Int} (le : g ≤ e) :
    (m : ℚ) * 2 ^ e = ((m * pow2 (e - g) : Nat) : ℚ) * 2 ^ g := by
  rw [Nat.cast_mul, pow2_of_nonneg (by omega), mul_assoc, ← zpow_add₀ (by norm_num)]
  congr 2
  omega

theorem pow_mul_zpow (n : Nat) (e : Int) : ((2 ^ n : Nat) : ℚ) * 2 ^ e = 2 ^ (n + e) := by
  rw [Nat.cast_pow, Nat.cast_ofNat, ← zpow_natCast, ← zpow_add₀ (by norm_num)]

theorem signed_mul_zpow (s : Bool) (m : Nat) {e g : Int} (le : g ≤ e) :
    Binary.value s m e = (Format.signed s (m * pow2 (e - g)) : ℚ) * 2 ^ g := by
  have whole := mul_zpow_eq m le
  cases s with
  | false => exact whole
  | true =>
    rw [Binary.value_true, whole, ← neg_mul]
    simp [Format.signed]

theorem Binary.less_finite {s t : Bool} {m n : Nat} {e g : Int} :
    (Binary.finite s m e).less (.finite t n g) = true ↔ value s m e < value t n g := by
  rw [signed_mul_zpow s m (min_le_left e g), signed_mul_zpow t n (min_le_right e g),
    mul_lt_mul_iff_left₀ (by positivity), Int.cast_lt]
  exact decide_eq_true_iff

theorem Binary.less_zero_iff {s : Bool} {m : Nat} {e : Int} :
    (Binary.finite s m e).less .zero = false ↔ 0 ≤ value s m e := by
  rw [Bool.eq_false_iff, ne_eq, zero, less_finite, value_zero, not_lt]

theorem Binary.not_less_zero {x : Binary} (nonneg : x.isNonnegative = true) :
    x.less .zero = false := by
  cases x with
  | nan => rfl
  | infinite s =>
    cases s with
    | false => rfl
    | true => cases nonneg
  | finite s m e =>
    rw [less_zero_iff]
    cases s with
    | false =>
      rw [value_false]
      positivity
    | true =>
      have none : m = 0 := by simpa [isNonnegative] using nonneg
      rw [none, value_zero]

namespace Format

theorem le_divNearest {k num den : Nat} (positive : 0 < den) (le : k * den ≤ num) :
    k ≤ divNearest num den := by
  have below : k ≤ num / den := (Nat.le_div_iff_mul_le positive).mpr le
  unfold divNearest
  dsimp only
  split
  · exact Nat.le_succ_of_le below
  · exact below

theorem divNearest_le {k num den : Nat} (positive : 0 < den) (le : num ≤ k * den) :
    divNearest num den ≤ k := by
  have split := Nat.div_add_mod num den
  unfold divNearest
  dsimp only
  split_ifs with up
  · -- The remainder is not zero, so that the quotient is below `k`.
    refine Nat.div_lt_of_lt_mul (lt_of_le_of_ne (by rwa [Nat.mul_comm]) ?_)
    rintro rfl
    rw [Nat.mul_mod_right] at up
    omega
  · exact Nat.div_le_of_le_mul (by rwa [Nat.mul_comm])

section Round

variable (f : Format) (num den : Nat)

/-- The exponent for which a quotient has a mantissa of full length. -/
def fitted : Int :=
  let guess : Int := (num.log2 : Int) - den.log2 - f.precision + 1
  let top : Int := guess + f.precision - 1
  if num * pow2 (-top) < den * pow2 top then guess - 1 else guess

/-- The exponent that a quotient is rounded to. -/
def exponent : Int := max (f.fitted num den) f.minExponent

/-- The mantissa that a quotient is rounded to. -/
def mantissa : Nat :=
  divNearest (num * pow2 (-f.exponent num den)) (den * pow2 (f.exponent num den))

/-- The numbers of a format: a mantissa no longer than the precision, and an exponent within the
range. Zeros, infinities and NaNs are in every format. -/
def Has (f : Format) : Binary → Prop
  | .finite _ m e =>
    m = 0 ∨ m < 2 ^ f.precision ∧ f.minExponent ≤ e ∧ e ≤ f.maxExponent
  | .nan | .infinite _ => True

/-- The size of a number of the format. -/
def Fits (x : ℚ) : Prop :=
  ∃ (m : Nat) (e : Int), m < 2 ^ f.precision ∧ f.minExponent ≤ e ∧ e ≤ f.maxExponent ∧
    x = m * 2 ^ e

end Round

section Round

variable {f : Format} {num den : Nat}

theorem quotient_le_zpow_iff (positive : 0 < den) (k : Nat) (e : Int) :
    (k : ℚ) * 2 ^ e ≤ num / den ↔ k * (den * pow2 e) ≤ num * pow2 (-e) := by
  have lower : (0 : ℚ) < den := by exact_mod_cast positive
  have scale : (0 : ℚ) < pow2 (-e) := by exact_mod_cast pow2_pos (-e)
  rw [two_zpow, ← mul_div_assoc, div_le_div_iff₀ scale lower]
  norm_cast
  rw [Nat.mul_assoc, Nat.mul_comm (pow2 e)]

theorem zpow_le_quotient_iff (positive : 0 < den) (k : Nat) (e : Int) :
    (num : ℚ) / den ≤ k * 2 ^ e ↔ num * pow2 (-e) ≤ k * (den * pow2 e) := by
  have lower : (0 : ℚ) < den := by exact_mod_cast positive
  have scale : (0 : ℚ) < pow2 (-e) := by exact_mod_cast pow2_pos (-e)
  rw [two_zpow, ← mul_div_assoc, div_le_div_iff₀ lower scale]
  norm_cast
  rw [Nat.mul_assoc, Nat.mul_comm (pow2 e)]

/-- The lengths of its parts give a quotient up to a power of two. -/
theorem quotient_bracket (upper : 0 < num) (lower : 0 < den) :
    (2 : ℚ) ^ ((num.log2 : Int) - den.log2 - 1) ≤ num / den ∧
      (num : ℚ) / den < 2 ^ ((num.log2 : Int) - den.log2 + 1) := by
  have positive : (0 : ℚ) < den := by exact_mod_cast lower
  have bounds : ∀ {n : Nat}, 0 < n →
      (2 : ℚ) ^ (n.log2 : Int) ≤ n ∧ (n : ℚ) < 2 ^ (n.log2 + 1 : Int) := by
    intro n some
    rw [zpow_natCast]
    exact ⟨by exact_mod_cast Nat.log2_self_le some.ne', by exact_mod_cast Nat.lt_log2_self⟩
  have split : ∀ {e g h : Int}, e + g = h → (2 : ℚ) ^ e * 2 ^ g = 2 ^ h := by
    rintro e g _ rfl
    exact (zpow_add₀ (by norm_num) e g).symm
  constructor
  · rw [le_div_iff₀ positive]
    calc (2 : ℚ) ^ ((num.log2 : Int) - den.log2 - 1) * den
      _ ≤ 2 ^ ((num.log2 : Int) - den.log2 - 1) * 2 ^ (den.log2 + 1 : Int) := by
        gcongr
        exact (bounds lower).2.le
      _ = 2 ^ (num.log2 : Int) := split (by omega)
      _ ≤ num := (bounds upper).1
  · rw [div_lt_iff₀ positive]
    calc (num : ℚ)
      _ < 2 ^ (num.log2 + 1 : Int) := (bounds upper).2
      _ = 2 ^ ((num.log2 : Int) - den.log2 + 1) * 2 ^ (den.log2 : Int) := (split (by omega)).symm
      _ ≤ 2 ^ ((num.log2 : Int) - den.log2 + 1) * den := by
        gcongr
        exact (bounds lower).1

/-- With a full length of mantissa a quotient lies between two powers of two. -/
theorem fitted_spec (upper : 0 < num) (lower : 0 < den) :
    (2 : ℚ) ^ (f.fitted num den + f.precision - 1) ≤ num / den ∧
      (num : ℚ) / den < 2 ^ (f.fitted num den + f.precision) := by
  obtain ⟨low, high⟩ := quotient_bracket upper lower
  unfold fitted
  dsimp only
  generalize (num.log2 : Int) - den.log2 = top at low high ⊢
  have compare : (2 : ℚ) ^ top ≤ num / den ↔ den * pow2 top ≤ num * pow2 (-top) := by
    rw [← Nat.one_mul (den * pow2 top), ← quotient_le_zpow_iff lower, Nat.cast_one, one_mul]
  rw [show top - f.precision + 1 + f.precision - 1 = top by omega]
  split
  · rename_i less
    have below := not_le.mp (mt compare.mp (not_le.mpr less))
    rw [show top - f.precision + 1 - 1 + f.precision - 1 = top - 1 by omega,
      show top - f.precision + 1 - 1 + f.precision = top by omega]
    exact ⟨low, below⟩
  · rename_i more
    have above := compare.mpr (not_lt.mp more)
    rw [show top - f.precision + 1 + f.precision - 1 = top by omega,
      show top - f.precision + 1 + f.precision = top + 1 by omega]
    exact ⟨above, high⟩

/-- What a quotient is rounded to is no less than a multiple of the power of two that it is rounded
by, if the quotient is no less. -/
theorem le_mantissa (lower : 0 < den) {k : Nat}
    (le : (k : ℚ) * 2 ^ f.exponent num den ≤ num / den) : k ≤ f.mantissa num den :=
  le_divNearest (Nat.mul_pos lower (pow2_pos _)) ((quotient_le_zpow_iff lower k _).mp le)

theorem mantissa_le (lower : 0 < den) {k : Nat}
    (le : (num : ℚ) / den ≤ k * 2 ^ f.exponent num den) : f.mantissa num den ≤ k :=
  divNearest_le (Nat.mul_pos lower (pow2_pos _)) ((zpow_le_quotient_iff lower k _).mp le)

/-- A number of the format with a smaller exponent is less than a mantissa of half length, and the
quotient is no less than that. -/
theorem lt_zpow_le_quotient (upper : 0 < num) (lower : 0 < den) {m : Nat} {e : Int}
    (short : m < 2 ^ f.precision) (least : f.minExponent ≤ e) (less : e < f.exponent num den) :
    (m : ℚ) * 2 ^ e < 2 ^ (f.exponent num den + f.precision - 1) ∧
      (2 : ℚ) ^ (f.exponent num den + f.precision - 1) ≤ num / den := by
  -- The exponent is above the least one, so that the mantissa has full length.
  have chosen : f.exponent num den = f.fitted num den := by
    unfold exponent at less ⊢
    omega
  refine ⟨?_, chosen ▸ (fitted_spec upper lower).1⟩
  calc (m : ℚ) * 2 ^ e
    _ < 2 ^ (f.precision : Int) * 2 ^ e := by
      gcongr
      rw [zpow_natCast]
      exact_mod_cast short
    _ = 2 ^ (f.precision + e) := (zpow_add₀ (by norm_num) _ _).symm
    _ ≤ 2 ^ (f.exponent num den + f.precision - 1) :=
      zpow_le_zpow_right₀ (by norm_num) (by omega)

/-- A number of the format is a multiple of the power of two that a quotient is rounded by, or both
the quotient and its rounding are larger. -/
theorem fits_cases (full : 0 < f.precision) (upper : 0 < num) (lower : 0 < den) {x : ℚ}
    (fits : f.Fits x) : (∃ k : Nat, x = k * 2 ^ f.exponent num den) ∨
      x < num / den ∧ x < f.mantissa num den * 2 ^ f.exponent num den := by
  obtain ⟨m, e, short, least, -, rfl⟩ := fits
  by_cases fine : f.exponent num den ≤ e
  · exact .inl ⟨m * pow2 (e - f.exponent num den), mul_zpow_eq m fine⟩
  · obtain ⟨small, large⟩ := lt_zpow_le_quotient upper lower short least (not_le.mp fine)
    have half : ((2 ^ (f.precision - 1) : Nat) : ℚ) * 2 ^ f.exponent num den =
        2 ^ (f.exponent num den + f.precision - 1) := by
      rw [pow_mul_zpow]
      congr 1
      omega
    have long : 2 ^ (f.precision - 1) ≤ f.mantissa num den :=
      le_mantissa lower (half.le.trans large)
    refine .inr ⟨small.trans_le large, small.trans_le (half.ge.trans ?_)⟩
    gcongr

theorem le_rounded (full : 0 < f.precision) (upper : 0 < num) (lower : 0 < den) {x : ℚ}
    (fits : f.Fits x) (le : x ≤ num / den) :
    x ≤ f.mantissa num den * 2 ^ f.exponent num den := by
  rcases fits_cases full upper lower fits with ⟨k, rfl⟩ | ⟨-, less⟩
  · gcongr
    exact_mod_cast le_mantissa lower le
  · exact less.le

theorem rounded_le (full : 0 < f.precision) (upper : 0 < num) (lower : 0 < den) {x : ℚ}
    (fits : f.Fits x) (le : num / den ≤ x) :
    f.mantissa num den * 2 ^ f.exponent num den ≤ x := by
  rcases fits_cases full upper lower fits with ⟨k, rfl⟩ | ⟨less, -⟩
  · gcongr
    exact_mod_cast mantissa_le lower le
  · exact absurd le (not_le.mpr less)

/-- A mantissa is no longer than the precision, but for the next power of two. -/
theorem mantissa_le_pow (upper : 0 < num) (lower : 0 < den) :
    f.mantissa num den ≤ 2 ^ f.precision := by
  refine mantissa_le lower ((fitted_spec (f := f) upper lower).2.le.trans ?_)
  rw [pow_mul_zpow]
  refine zpow_le_zpow_right₀ (by norm_num) ?_
  unfold exponent
  omega

/-- A quotient that is not zero is rounded to its mantissa; the next power of two is written with
the next exponent. -/
theorem round_eq (negative : Bool) (upper : 0 < num) : f.round negative num den =
    if f.mantissa num den = 0 then .finite negative 0 0
    else if f.mantissa num den = 2 ^ f.precision then
      if f.maxExponent < f.exponent num den + 1 then .infinite negative
      else .finite negative (2 ^ (f.precision - 1)) (f.exponent num den + 1)
    else if f.maxExponent < f.exponent num den then .infinite negative
    else .finite negative (f.mantissa num den) (f.exponent num den) := by
  have opened : f.round negative num den =
      if f.mantissa num den = 0 then .finite negative 0 0
      else
        let x := if f.mantissa num den = Nat.pow 2 f.precision then
          (Nat.pow 2 (f.precision - 1), f.exponent num den + 1)
          else (f.mantissa num den, f.exponent num den)
        if f.maxExponent < x.2 then .infinite negative else .finite negative x.1 x.2 := by
    rw [round, if_neg upper.ne']
    rfl
  rw [opened]
  by_cases next : f.mantissa num den = 2 ^ f.precision
  · rw [if_pos next, if_pos (show f.mantissa num den = Nat.pow 2 f.precision from next)]
    rfl
  · rw [if_neg next, if_neg (show ¬ f.mantissa num den = Nat.pow 2 f.precision from next)]

/-- A quotient that is not zero is rounded to a number of the format, or it is larger than all of
them and becomes infinite. -/
theorem round_cases (full : 0 < f.precision) (negative : Bool) (upper : 0 < num) (lower : 0 < den) :
    (∃ m e, f.round negative num den = .finite negative m e ∧
      f.Has (.finite negative m e) ∧
        (m : ℚ) * 2 ^ e = f.mantissa num den * 2 ^ f.exponent num den) ∨
    f.round negative num den = .infinite negative ∧ ∀ x, f.Fits x → x < num / den := by
  have most := mantissa_le_pow (f := f) upper lower
  have least : f.minExponent ≤ f.exponent num den := le_max_right _ _
  rw [round_eq negative upper]
  generalize same : f.mantissa num den = m at most ⊢
  by_cases zero : m = 0
  · rw [if_pos zero]
    exact .inl ⟨0, 0, rfl, .inl rfl, by rw [zero, Nat.cast_zero, zero_mul, zero_mul]⟩
  rw [if_neg zero]
  by_cases long : m = 2 ^ f.precision
  · rw [if_pos long]
    split
    · -- The quotient is no less than what is rounded to, and that is beyond the format.
      rename_i beyond
      refine .inr ⟨rfl, fun x fits => not_le.mp fun le => ?_⟩
      have below := rounded_le full upper lower fits le
      obtain ⟨n, g, short, -, most, rfl⟩ := fits
      refine absurd below (not_le.mpr ?_)
      rw [same, long]
      calc (n : ℚ) * 2 ^ g
        _ < (2 ^ f.precision : Nat) * 2 ^ g := by gcongr
        _ ≤ (2 ^ f.precision : Nat) * 2 ^ f.exponent num den := by
          gcongr
          · norm_num
          · omega
    · refine .inl ⟨_, _, rfl, .inr ⟨?_, by omega, by omega⟩, ?_⟩
      · exact Nat.pow_lt_pow_right (by decide) (by omega)
      · rw [long, pow_mul_zpow, pow_mul_zpow]
        congr 1
        omega
  · rw [if_neg long]
    split
    · rename_i beyond
      refine .inr ⟨rfl, ?_⟩
      rintro x ⟨n, g, short, low, high, rfl⟩
      obtain ⟨small, large⟩ := lt_zpow_le_quotient upper lower short low (high.trans_lt beyond)
      exact small.trans_le large
    · exact .inl ⟨m, _, rfl, .inr ⟨by omega, least, by omega⟩, rfl⟩

theorem has_round (full : 0 < f.precision) (negative : Bool) (num : Nat) (lower : 0 < den) :
    f.Has (f.round negative num den) := by
  rcases Nat.eq_zero_or_pos num with rfl | upper
  · exact .inl rfl
  · rcases round_cases full negative upper lower with ⟨m, e, rounded, has, -⟩ | ⟨rounded, -⟩
    · rw [rounded]
      exact has
    · rw [rounded]
      trivial

theorem has_ofInt (full : 0 < f.precision) (n : Int) : f.Has (f.ofInt n) :=
  has_round full _ _ Nat.one_pos

theorem has_convert (full : 0 < f.precision) (x : Binary) : f.Has (f.convert x) := by
  cases x with
  | nan => trivial
  | infinite s => trivial
  | finite s m e => exact has_round full _ _ (pow2_pos _)

theorem has_ofDecimal (full : 0 < f.precision) (negative : Bool) (n : Nat) (e : Int) :
    f.Has (f.ofDecimal negative n e) := by
  unfold ofDecimal
  split_ifs
  · exact .inl rfl
  · trivial
  · exact .inl rfl
  · exact has_round full _ _ (pow10_pos _)

theorem Has.fits {s : Bool} {m : Nat} {e : Int} (has : f.Has (.finite s m e)) (some : m ≠ 0) :
    f.Fits (m * 2 ^ e) :=
  let ⟨short, least, most⟩ := has.resolve_left some
  ⟨m, e, short, least, most, rfl⟩

/-- A number of the format that is no larger than a quotient is no larger than what that is rounded
to. -/
theorem round_false_not_less (full : 0 < f.precision) (upper : 0 < num) (lower : 0 < den) {s : Bool}
    {m : Nat} {e : Int} (has : f.Has (.finite s m e))
    (le : Binary.value s m e ≤ num / den) :
    (f.round false num den).less (.finite s m e) = false := by
  rcases round_cases full false upper lower with ⟨n, g, rounded, -, same⟩ | ⟨rounded, -⟩
  · rw [rounded, Bool.eq_false_iff, ne_eq, Binary.less_finite, not_lt, Binary.value_false, same]
    cases s with
    | false =>
      rcases Nat.eq_zero_or_pos m with rfl | some
      · rw [Binary.value_zero]
        positivity
      · exact le_rounded full upper lower (has.fits some.ne') le
    | true =>
      rw [Binary.value_true]
      exact (neg_nonpos.mpr (by positivity)).trans (by positivity)
  · rw [rounded]
    rfl

theorem round_true_not_less (full : 0 < f.precision) (upper : 0 < num) (lower : 0 < den) {s : Bool}
    {m : Nat} {e : Int} (has : f.Has (.finite s m e))
    (le : Binary.value s m e ≤ -(num / den)) :
    (f.round true num den).less (.finite s m e) = false := by
  have positive : (0 : ℚ) < num / den := by positivity
  have below : Binary.value s m e < 0 := le.trans_lt (neg_neg_iff_pos.mpr positive)
  cases s with
  | false =>
    rw [Binary.value_false] at below
    exact absurd below (not_lt.mpr (by positivity))
  | true =>
    rw [Binary.value_true] at le below
    have some : m ≠ 0 := by
      rintro rfl
      rw [Nat.cast_zero, zero_mul, neg_zero] at below
      exact lt_irrefl 0 below
    have fits := has.fits some
    rcases round_cases full true upper lower with ⟨n, g, rounded, -, same⟩ | ⟨-, beyond⟩
    · rw [rounded, Bool.eq_false_iff, ne_eq, Binary.less_finite, not_lt, Binary.value_true,
        Binary.value_true, same]
      exact neg_le_neg (rounded_le full upper lower fits (neg_le_neg_iff.mp le))
    · exact absurd (beyond _ fits) (not_lt.mpr (neg_le_neg_iff.mp le))

end Round

section Sum

variable {f : Format}

theorem scaled_quotient (n : Nat) (e : Int) :
    ((n * pow2 e : Nat) : ℚ) / (pow2 (-e) : Nat) = n * 2 ^ e := by
  rw [two_zpow, Nat.cast_mul, mul_div_assoc]

/-- What is rounded in a sum is the sum of the values. -/
theorem add_value (s t : Bool) (m n : Nat) (e g : Int) :
    Binary.value s m e + Binary.value t n g =
      ((signed s (m * pow2 (e - min e g)) + signed t (n * pow2 (g - min e g)) : Int) : ℚ) *
        2 ^ min e g := by
  rw [signed_mul_zpow s m (min_le_left e g), signed_mul_zpow t n (min_le_right e g), ← add_mul,
    ← Int.cast_add]

/-- A sum with a number that is not below zero is not less than the other number, if that is one of
the format. -/
theorem add_not_less (full : 0 < f.precision) {x y : Binary} (has : f.Has x)
    (nonneg : y.less .zero = false) : (f.add x y).less x = false := by
  cases y with
  | nan => cases x <;> rfl
  | infinite t =>
    cases t with
    | true => cases nonneg
    | false =>
      cases x with
      | nan => rfl
      | infinite s => cases s <;> rfl
      | finite s m e => rfl
  | finite t n g =>
    cases x with
    | nan => rfl
    | infinite s => cases s <;> rfl
    | finite s m e =>
      have grows := Binary.less_zero_iff.mp nonneg
      have sum := add_value s t m n e g
      rw [add]
      generalize Format.signed s (m * pow2 (e - min e g)) +
        Format.signed t (n * pow2 (g - min e g)) = total at sum ⊢
      have le : Binary.value s m e ≤ total * 2 ^ min e g := by linarith
      split
      · rename_i zero
        rw [Bool.eq_false_iff, ne_eq, Binary.less_finite, not_lt]
        rwa [zero, Int.cast_zero, zero_mul, ← Binary.value_zero (s && t) 0] at le
      · rename_i some
        have upper : 0 < total.natAbs * pow2 (min e g) :=
          Nat.mul_pos (Int.natAbs_pos.mpr some) (pow2_pos _)
        rw [roundScaled]
        rcases lt_or_gt_of_ne some with below | above
        · have size : (total.natAbs : ℚ) = -total := by
            rw [Nat.cast_natAbs, abs_of_neg below, Int.cast_neg]
          rw [decide_eq_true below]
          refine round_true_not_less full upper (pow2_pos _) has ?_
          rwa [scaled_quotient, size, neg_mul, neg_neg]
        · have size : (total.natAbs : ℚ) = total := by
            rw [Nat.cast_natAbs, abs_of_pos above]
          rw [decide_eq_false above.le.not_gt]
          refine round_false_not_less full upper (pow2_pos _) has ?_
          rwa [scaled_quotient, size]

/-- For every number of the format that is below zero there is one to which it adds up to less. -/
theorem exists_add_less {y : Binary} (has : f.Has y) (negative : y.less .zero = true) :
    ∃ x, f.Has x ∧ (f.add x y).less x = true := by
  cases y with
  | nan => cases negative
  | infinite t =>
    cases t with
    | false => cases negative
    | true => exact ⟨.zero, .inl rfl, rfl⟩
  | finite t n g =>
    -- The number is taken from its own size, which leaves nothing.
    rw [Binary.zero, Binary.less_finite, Binary.value_zero] at negative
    cases t with
    | false =>
      rw [Binary.value_false] at negative
      exact absurd negative (not_lt.mpr (by positivity))
    | true =>
      refine ⟨.finite false n g, has, ?_⟩
      have nothing : f.add (.finite false n g) (.finite true n g) = .finite false 0 0 := by
        simp [add, signed]
      rw [nothing, Binary.less_finite, Binary.value_zero, Binary.value_false]
      rw [Binary.value_true] at negative
      linarith

end Sum

end Format

end NodeGroups.Numeric
