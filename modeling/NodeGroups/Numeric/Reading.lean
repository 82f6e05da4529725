import NodeGroups.Numeric.Binary
import NodeGroups.Text.Digit

set_option autoImplicit false

namespace NodeGroups.Numeric

open Text (isDigit)

/-- A natural number up to `max`: digits, with a plus sign in front or not. -/
def natOfText? (max : Nat) (text : String) : Option Nat :=
  let digits := match text.toList with
    | '+' :: cs => cs
    | cs => cs
  if digits.isEmpty || !digits.all isDigit then none
  else
    let n := Nat.ofDigitChars 10 digits 0
    if n ≤ max then some n else none

def splitSign : List Char → Bool × List Char
  | '-' :: cs => (true, cs)
  | '+' :: cs => (false, cs)
  | cs => (false, cs)

/-- The exponent at the end of a decimal, zero if there is none. -/
def exponentOfChars? : List Char → Option Int
  | [] => some 0
  | c :: cs =>
    if c = 'e' ∨ c = 'E' then
      let (negative, digits) := splitSign cs
      if digits.isEmpty || !digits.all isDigit then none
      else
        let n : Int := Nat.ofDigitChars 10 digits 0
        some (if negative then -n else n)
    else none

/-- A floating point number in decimal notation: a sign, digits with a point among them or not, and
an exponent or not; or a sign and `inf`, `infinity` or `nan` in any case. -/
def Format.ofText? (f : Format) (text : String) : Option Binary :=
  let (negative, cs) := splitSign text.toList
  let word := String.ofList (cs.map Char.toLower)
  if word = "inf" ∨ word = "infinity" then some (.infinite negative)
  else if word = "nan" then some .nan
  else
    let whole := cs.takeWhile isDigit
    let rest := cs.dropWhile isDigit
    let (fraction, rest) := match rest with
      | '.' :: r => (r.takeWhile isDigit, r.dropWhile isDigit)
      | r => ([], r)
    let digits := whole ++ fraction
    if digits.isEmpty then none
    else (exponentOfChars? rest).map fun e =>
      f.ofDecimal negative (Nat.ofDigitChars 10 digits 0) (e - fraction.length)

end NodeGroups.Numeric
