import NodeGroups.Numeric.Binary

set_option autoImplicit false

namespace NodeGroups.Numeric

/-- A positive decimal `digits · 10 ^ exponent`. -/
structure Decimal where
  digits : Nat
  exponent : Int
  deriving DecidableEq

namespace Decimal

/-- Compares `a · 10 ^ t` with `b · 2 ^ e`. -/
def compareScaled (a : Nat) (t : Int) (b : Nat) (e : Int) : Ordering :=
  compare (a * pow10 t * pow2 (-e)) (b * pow2 e * pow10 (-t))

/-- The exponent `k` with `10 ^ k ≤ m · 2 ^ e < 10 ^ (k + 1)`, for positive `m`. -/
def magnitude (m : Nat) (e : Int) : Int :=
  let guess := (((m.log2 : Int) + e) * 30103).fdiv 100000
  if compareScaled 1 (guess + 1) m e != .gt then guess + 1
  else if compareScaled 1 guess m e == .gt then guess - 1
  else guess

/-- The reals that round to a number, in quarters of its last place: `low` and `high` are the ends
around `4 · m`, and `closed` says whether the ends round to it as well. -/
structure Basin where
  low : Nat
  high : Nat
  closed : Bool

/-- The basin of `m · 2 ^ e`. Below a power of two the numbers lie twice as close. -/
def basin (f : Format) (m : Nat) (e : Int) : Basin :=
  let narrow := m == Nat.pow 2 (f.precision - 1) && f.minExponent < e
  { low := if narrow then 4 * m - 1 else 4 * m - 2
    high := 4 * m + 2
    closed := m % 2 == 0 }

/-- Whether `d · 10 ^ t` lies in the basin of a number with exponent `e`. -/
def Basin.contains (b : Basin) (e : Int) (d : Nat) (t : Int) : Bool :=
  let low := compareScaled d t b.low (e - 2)
  let high := compareScaled d t b.high (e - 2)
  (low == .gt || (b.closed && low == .eq)) && (high == .lt || (b.closed && high == .eq))

/-- The point of the grid `10 ^ t` that stands for `m · 2 ^ e`: of the two neighbours of the number
the one in the basin, of two such the nearer one. -/
def onGrid (b : Basin) (m : Nat) (e : Int) (t : Int) : Option Nat :=
  let below := (m * pow2 e * pow10 (-t)) / (pow2 (-e) * pow10 t)
  let lower := b.contains e below t
  let upper := b.contains e (below + 1) t
  match lower, upper with
  | false, false => none
  | true, false => some below
  | false, true => some (below + 1)
  | true, true =>
    match compareScaled (2 * below + 1) t (2 * m) e with
    | .gt => some below
    | .lt => some (below + 1)
    | .eq => some (if below % 2 = 0 then below else below + 1)

/-- Removes trailing zeros, at most `fuel` of them. -/
def strip : Nat → Nat → Int → Decimal
  | 0, d, t => ⟨d, t⟩
  | fuel + 1, d, t => if d % 10 = 0 ∧ d ≠ 0 then strip fuel (d / 10) (t + 1) else ⟨d, t⟩

/-- Tries grids with more and more digits, `fuel` of them, from the grid `10 ^ t` on. -/
def search (b : Basin) (m : Nat) (e : Int) : Nat → Int → Decimal
  | 0, t => ⟨(m * pow2 e * pow10 (-t)) / (pow2 (-e) * pow10 t), t⟩
  | fuel + 1, t =>
    match onGrid b m e t with
    | some d => strip 20 d t
    | none => search b m e fuel (t - 1)

/-- The shortest decimal that rounds to the positive number `m · 2 ^ e` of the format. -/
def shortest (f : Format) (m : Nat) (e : Int) : Decimal :=
  search (basin f m e) m e 17 (magnitude m e)

end Decimal

end NodeGroups.Numeric
