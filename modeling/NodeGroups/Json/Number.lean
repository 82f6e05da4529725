import NodeGroups.Numeric.Shortest

set_option autoImplicit false

namespace NodeGroups.Json

open Numeric

/-- An exact integer or a double. -/
inductive Number
  | int (n : Int)
  | float (x : Binary)
  deriving DecidableEq, Inhabited

/-- A number as written: its digits in the order of the text. -/
structure Numeral where
  negative : Bool
  /-- Digits before the point. -/
  whole : List Char
  /-- Digits after the point, if there is one. -/
  fraction : Option (List Char)
  /-- Whether the exponent has a minus sign, and its digits, if there is an exponent. -/
  exponent : Option (Bool × List Char)
  deriving DecidableEq

/-- The largest integer kept exactly. -/
def maxInteger : Nat := Nat.pow 2 64 - 1

/-- The largest magnitude of a negative integer kept exactly. -/
def maxNegated : Nat := Nat.pow 2 63

namespace Numeral

/-- Appends digits to an integer while it does not exceed `maxInteger`; also gives the digits
left over. -/
def append : Nat → List Char → Nat × List Char
  | n, [] => (n, [])
  | n, c :: cs =>
    let next := n * 10 + (c.toNat - '0'.toNat)
    if next ≤ maxInteger then append next cs else (n, c :: cs)

/-- Multiplies a double by `10 ^ e` in steps of at most `10 ^ 308`, each rounded. There is no
result when the product is too large. -/
def scale : Nat → Binary → Int → Option Binary
  | 0, x, _ => some x
  | fuel + 1, x, e =>
    if e.natAbs ≤ 308 then
      let power := binary64.ofDecimal false 1 e.natAbs
      if 0 ≤ e then
        let y := binary64.mul x power
        if y.isFinite then some y else none
      else some (binary64.div x power)
    else if x.isZero then some x
    else if 0 ≤ e then none
    else scale fuel (binary64.div x (binary64.ofDecimal false 1 308)) (e + 308)

/-- The double `±n · 10 ^ e`, for `n` at most `maxInteger`; three steps reach zero or the end. -/
def toFloat? (negative : Bool) (n : Nat) (e : Int) : Option Number :=
  (scale 3 (binary64.ofInt n) e).map fun x => .float (if negative then x.neg else x)

/-- Exponents above this are not computed with. -/
def maxExponent : Nat := Nat.pow 2 31 - 1

/-- The number that a numeral stands for. Leading digits that fit an integer are taken exactly and
the others only counted, so a float is the rounded product of a rounded integer and a rounded
power of ten. A number too large for a double has no value. -/
def value? (t : Numeral) : Option Number :=
  let (whole, wholeRest) := append 0 t.whole
  match t.fraction, t.exponent with
  | none, none =>
    if wholeRest.isEmpty then
      if !t.negative then some (.int whole)
      else if whole ≠ 0 ∧ whole ≤ maxNegated then some (.int (-(whole : Int)))
      else some (.float (binary64.ofInt whole).neg)
    else toFloat? t.negative whole wholeRest.length
  | fraction, exponent =>
    let fraction := fraction.getD []
    let (significand, fractionRest) := append whole fraction
    let shift : Int := wholeRest.length - ((fraction.length - fractionRest.length : Nat) : Int)
    match exponent with
    | none => toFloat? t.negative significand shift
    | some (down, digits) =>
      let e := Nat.ofDigitChars 10 digits 0
      if maxExponent < e then
        if significand ≠ 0 ∧ !down then none
        else some (.float (.finite t.negative 0 0))
      else toFloat? t.negative significand (if down then shift - e else shift + e)

end Numeral

namespace Number

def natChars (n : Nat) : List Char := Nat.toDigits 10 n

/-- Digits of an integer, with a minus sign when negative. -/
def intChars (n : Int) : List Char :=
  if n < 0 then '-' :: natChars n.natAbs else natChars n.natAbs

/-- A positive decimal in the layout of JSON output: positional from `1e-5` up to below `1e16`,
with `.0` when integral, and otherwise one digit before the point and an exponent with its sign. -/
def decimalChars (d : Decimal) : List Char :=
  let digits := natChars d.digits
  let count : Int := digits.length
  let point : Int := count + d.exponent
  if 0 ≤ d.exponent ∧ point ≤ 16 then
    digits ++ List.replicate d.exponent.toNat '0' ++ ['.', '0']
  else if 0 < point ∧ point ≤ 16 then
    digits.take point.toNat ++ '.' :: digits.drop point.toNat
  else if -5 < point ∧ point ≤ 0 then
    '0' :: '.' :: List.replicate (-point).toNat '0' ++ digits
  else
    let mantissa := match digits with
      | [] => []
      | [c] => [c]
      | c :: cs => c :: '.' :: cs
    let e := point - 1
    mantissa ++ 'e' :: (if e < 0 then '-' else '+') :: natChars e.natAbs

/-- The text of a number; infinities and NaN have none in JSON and are written as `null`. -/
def chars : Number → List Char
  | .int n => intChars n
  | .float (.finite negative m e) =>
    let magnitude := if m = 0 then ['0', '.', '0'] else decimalChars (Decimal.shortest binary64 m e)
    if negative then '-' :: magnitude else magnitude
  | .float _ => ['n', 'u', 'l', 'l']

def text (n : Number) : String := String.ofList n.chars

/-- Equality of values: the zeros of both signs are equal. -/
def sameValue : Number → Number → Bool
  | .float x, .float y => x == y || (x.isZero && y.isZero)
  | a, b => a == b

end Number

end NodeGroups.Json
