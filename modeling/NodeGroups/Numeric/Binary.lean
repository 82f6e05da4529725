/-!
Binary floating point numbers as exact integers: a sign, a mantissa and a power of two. A `Format`
says how many bits the mantissa has and which exponents there are; every operation computes the
exact result and then rounds once to the nearest number of the format, a tie going to the even
mantissa.
-/

set_option autoImplicit false

namespace NodeGroups.Numeric

/-- A floating point number: `finite s m e` is `±m · 2 ^ e`. -/
inductive Binary
  | nan
  | infinite (negative : Bool)
  | finite (negative : Bool) (mantissa : Nat) (exponent : Int)
  deriving DecidableEq, Inhabited

/-- Precision and range of a kind of floating point number. -/
structure Format where
  /-- Bits of the mantissa. -/
  precision : Nat
  /-- Exponent of the smallest positive number. -/
  minExponent : Int
  /-- Exponent of the largest finite number. -/
  maxExponent : Int

def binary64 : Format := ⟨53, -1074, 971⟩

def binary32 : Format := ⟨24, -149, 104⟩

/-- Positive integer part of a power: `2 ^ e`, and 1 for a negative exponent. -/
def pow2 (e : Int) : Nat := Nat.pow 2 e.toNat

/-- Positive integer part of a power: `10 ^ e`, and 1 for a negative exponent. -/
def pow10 (e : Int) : Nat := Nat.pow 10 e.toNat

namespace Binary

def zero : Binary := .finite false 0 0

def isFinite : Binary → Bool
  | .finite .. => true
  | _ => false

/-- Not below zero; negative zero passes, a NaN does not. -/
def isNonnegative : Binary → Bool
  | .nan => false
  | .infinite negative => !negative
  | .finite negative mantissa _ => !negative || mantissa == 0

/-- Zero of either sign. -/
def isZero : Binary → Bool
  | .finite _ mantissa _ => mantissa == 0
  | _ => false

def neg : Binary → Binary
  | .nan => .nan
  | .infinite s => .infinite (!s)
  | .finite s m e => .finite (!s) m e

end Binary

namespace Format

/-- The quotient nearest to `num / den`, a tie going to the even one. -/
def divNearest (num den : Nat) : Nat :=
  let q := num / den
  let r := num % den
  if den < 2 * r ∨ (2 * r = den ∧ q % 2 = 1) then q + 1 else q

/-- Rounds `±num / den` into the format. -/
def round (f : Format) (negative : Bool) (num den : Nat) : Binary :=
  if num = 0 then .finite negative 0 0
  else
    let guess : Int := (num.log2 : Int) - den.log2 - f.precision + 1
    let top : Int := guess + f.precision - 1
    let fitted := if num * pow2 (-top) < den * pow2 top then guess - 1 else guess
    let e := max fitted f.minExponent
    let m := divNearest (num * pow2 (-e)) (den * pow2 e)
    if m = 0 then .finite negative 0 0
    else
      let (m, e) :=
        if m = Nat.pow 2 f.precision then (Nat.pow 2 (f.precision - 1), e + 1) else (m, e)
      if f.maxExponent < e then .infinite negative else .finite negative m e

/-- Rounds `±n · 2 ^ e` into the format. -/
def roundScaled (f : Format) (negative : Bool) (n : Nat) (e : Int) : Binary :=
  f.round negative (n * pow2 e) (pow2 (-e))

def ofInt (f : Format) (n : Int) : Binary :=
  f.round (n < 0) n.natAbs 1

/-- The number of the format nearest to a number of any format. -/
def convert (f : Format) : Binary → Binary
  | .nan => .nan
  | .infinite s => .infinite s
  | .finite s m e => f.roundScaled s m e

/-- A magnitude with its sign. -/
def signed (negative : Bool) (n : Nat) : Int :=
  if negative then -(n : Int) else n

/-- Sum. Two zeros give a negative zero only when both are negative. -/
def add (f : Format) : Binary → Binary → Binary
  | .nan, _ => .nan
  | _, .nan => .nan
  | .infinite s, .infinite t => if s = t then .infinite s else .nan
  | .infinite s, .finite .. => .infinite s
  | .finite .., .infinite t => .infinite t
  | .finite s m e, .finite t n g =>
    let low := min e g
    let total := signed s (m * pow2 (e - low)) + signed t (n * pow2 (g - low))
    if total = 0 then .finite (s && t) 0 0
    else f.roundScaled (total < 0) total.natAbs low

/-- Product of finite numbers; any other product is a NaN here. -/
def mul (f : Format) : Binary → Binary → Binary
  | .finite s m e, .finite t n g => f.roundScaled (s != t) (m * n) (e + g)
  | _, _ => .nan

/-- Quotient of finite numbers with a divisor other than zero; any other is a NaN here. -/
def div (f : Format) : Binary → Binary → Binary
  | .finite s m e, .finite t n g =>
    if n = 0 then .nan
    else f.round (s != t) (m * pow2 (e - g)) (n * pow2 (g - e))
  | _, _ => .nan

/-- The number of the format nearest to `±n · 10 ^ e`. Exponents far outside the range of double
precision are decided without computing the power. -/
def ofDecimal (f : Format) (negative : Bool) (n : Nat) (e : Int) : Binary :=
  if n = 0 then .finite negative 0 0
  else if 400 < e then .infinite negative
  else if e < -(400 + (n.log2 : Int)) then .finite negative 0 0
  else f.round negative (n * pow10 e) (pow10 (-e))

end Format

end NodeGroups.Numeric
