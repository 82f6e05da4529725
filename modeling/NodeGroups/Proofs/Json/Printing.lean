import NodeGroups.Json.Printer
import NodeGroups.Proofs.Json.Grammar

set_option autoImplicit false

namespace NodeGroups.Json

open Grammar

theorem hexValue?_digitChar {n : Nat} (lt : n < 16) : Text.hexValue? n.digitChar = some n := by
  revert n
  decide

/-- The printer writes every character in one of its forms. -/
theorem charText_escapeChar (c : Char) : CharText c (escapeChar c) := by
  have short : ∀ e, (e, c) ∈ shortEscapes → CharText c ['\\', e] := .short
  unfold escapeChar
  split
  · exact short '"' (by simp [shortEscapes, *])
  rename_i quote
  split
  · exact short '\\' (by simp [shortEscapes, *])
  rename_i backslash
  split
  · exact short 'b' (by simp [shortEscapes, *])
  split
  · exact short 'f' (by simp [shortEscapes, *])
  split
  · exact short 'n' (by simp [shortEscapes, *])
  split
  · exact short 'r' (by simp [shortEscapes, *])
  split
  · exact short 't' (by simp [shortEscapes, *])
  split
  · rename_i control
    refine .code _ ⟨'0', '0', _, _, 0, 0, c.toNat / 16, c.toNat % 16, rfl, rfl, rfl,
      hexValue?_digitChar (by omega), hexValue?_digitChar (Nat.mod_lt _ (by decide)), ?_⟩
    omega
  · rename_i visible
    exact .plain (Nat.not_lt.mp visible) quote backslash

theorem charsText_flatMap (cs : List Char) : CharsText cs (cs.flatMap escapeChar) := by
  induction cs with
  | nil => exact .nil
  | cons c cs ih => exact .cons (charText_escapeChar c) ih

theorem stringText_quote (s : String) : StringText s (quote s) :=
  ⟨s.toList.flatMap escapeChar, charsText_flatMap s.toList, rfl⟩

theorem digits_natChars (n : Nat) : Digits (Number.natChars n) := by
  refine ⟨Nat.toDigits_ne_nil, fun c member => ?_⟩
  have digit := Nat.isDigit_of_mem_toDigits (by decide) (by decide) member
  simpa [Char.isDigit, Text.isDigit, Char.le_def] using digit

/-- A number is written without zeros in front. -/
theorem head_natChars {n : Nat} (positive : 0 < n) : (Number.natChars n).head? ≠ some '0' := by
  have single : ∀ m < 10, 0 < m → m.digitChar ≠ '0' := by decide
  induction n using Nat.strongRecOn with
  | ind n ih =>
    rw [Number.natChars, Nat.toDigits_eq_if (by decide)]
    split
    · rename_i small
      exact fun zero => single n small positive (Option.some.inj zero)
    · rename_i large
      have front := ih (n / 10) (Nat.div_lt_self positive (by decide)) (by omega)
      rw [Number.natChars] at front
      cases digits : Nat.toDigits 10 (n / 10) with
      | nil => exact absurd digits Nat.toDigits_ne_nil
      | cons d ds =>
        rw [digits] at front
        exact front

theorem leading_natChars (n : Nat) :
    Number.natChars n = ['0'] ∨ (Number.natChars n).head? ≠ some '0' := by
  rcases Nat.eq_zero_or_pos n with rfl | positive
  · exact .inl rfl
  · exact .inr (head_natChars positive)

theorem ofDigitChars_natChars (n : Nat) : Nat.ofDigitChars 10 (Number.natChars n) 0 = n :=
  Nat.ofDigitChars_toDigits (by decide) (by decide)

/-- An integer is written as a numeral with its sign and its digits. -/
theorem numeralText_int (n : Int) :
    NumeralText ⟨decide (n < 0), Number.natChars n.natAbs, none, none⟩ (Number.intChars n) := by
  refine ⟨digits_natChars n.natAbs, leading_natChars n.natAbs, [], [], .none, .none, ?_⟩
  rw [List.append_nil, List.append_nil, Number.intChars]
  split
  · rename_i negative
    rw [decide_eq_true negative]
    rfl
  · rename_i natural
    rw [decide_eq_false natural]
    rfl

theorem le_ofDigitChars (ds : List Char) (n : Nat) : n ≤ Nat.ofDigitChars 10 ds n := by
  induction ds generalizing n with
  | nil => exact Nat.le_refl n
  | cons d ds ih =>
    rw [Nat.ofDigitChars_cons]
    have onward := ih (10 * n + (d.toNat - '0'.toNat))
    omega

/-- Digits that stay within the exact integers are all taken. -/
theorem append_of_le {ds : List Char} {n : Nat} (le : Nat.ofDigitChars 10 ds n ≤ maxInteger) :
    Numeral.append n ds = (Nat.ofDigitChars 10 ds n, []) := by
  induction ds generalizing n with
  | nil => rfl
  | cons d ds ih =>
    rw [Nat.ofDigitChars_cons] at le ⊢
    rw [Numeral.append, Nat.mul_comm n 10,
      if_pos (Nat.le_trans (le_ofDigitChars ds (10 * n + (d.toNat - '0'.toNat))) le)]
    exact ih le

/-- The digits of a number within the exact integers are all taken. -/
theorem append_natChars {n : Nat} (le : n ≤ maxInteger) :
    Numeral.append 0 (Number.natChars n) = (n, []) := by
  rw [append_of_le (by rwa [ofDigitChars_natChars]), ofDigitChars_natChars]

/-- The integers that are kept exactly. -/
def IsExact (n : Int) : Prop := -(maxNegated : Int) ≤ n ∧ n ≤ maxInteger

instance (n : Int) : Decidable (IsExact n) := inferInstanceAs (Decidable (_ ∧ _))

/-- An exact integer is written as a numeral that stands for it. -/
theorem numeralText_intChars {n : Int} (exact : IsExact n) :
    ∃ t : Numeral, NumeralText t (Number.intChars n) ∧ t.value? = some (.int n) := by
  have small : n.natAbs ≤ maxInteger := by
    have halves : maxNegated ≤ maxInteger := by decide
    have bounds := exact
    unfold IsExact at bounds
    omega
  refine ⟨⟨decide (n < 0), Number.natChars n.natAbs, none, none⟩, numeralText_int n, ?_⟩
  rw [Numeral.value?, append_natChars small]
  obtain ⟨low, high⟩ := exact
  by_cases negative : n < 0
  · have magnitude : n.natAbs ≠ 0 ∧ n.natAbs ≤ maxNegated := by omega
    have value : -(n.natAbs : Int) = n := by omega
    rw [decide_eq_true negative]
    exact (if_pos magnitude).trans (congrArg (fun m => some (Number.int m)) value)
  · have value : (n.natAbs : Int) = n := by omega
    rw [decide_eq_false negative]
    exact congrArg (fun m => some (Number.int m)) value

mutual

/-- All numbers in a value are exact integers. -/
def isIntegral : Json → Bool
  | .number (.int n) => decide (IsExact n)
  | .number (.float _) => false
  | .array xs => areIntegral xs
  | .object ms => haveIntegral ms
  | _ => true

def areIntegral : List Json → Bool
  | [] => true
  | x :: xs => isIntegral x && areIntegral xs

def haveIntegral : List (String × Json) → Bool
  | [] => true
  | (_, x) :: ms => isIntegral x && haveIntegral ms

end

theorem blank_nil : Blank [] := fun _ member => absurd member List.not_mem_nil

mutual

theorem phraseText_compactChars : (v : Json) → v.isIntegral = true →
    PhraseText (.value v) (compactChars v)
  | .null, _ => .null
  | .bool true, _ => .true
  | .bool false, _ => .false
  | .number (.int n), exact => by
    obtain ⟨t, text, stands⟩ := numeralText_intChars (of_decide_eq_true exact)
    exact .number text stands
  | .number (.float x), exact => nomatch exact
  | .string s, _ => .string (stringText_quote s)
  | .array [], _ => .emptyArray blank_nil
  | .array (x :: xs), exact => by
    obtain ⟨first, others⟩ := Bool.and_eq_true_iff.mp exact
    exact .array (b := []) blank_nil
      (phraseText_compactItems xs others (phraseText_compactChars x first))
  | .object [], _ => .emptyObject blank_nil
  | .object ((k, x) :: ms), exact => by
    obtain ⟨first, others⟩ := Bool.and_eq_true_iff.mp exact
    exact .object (b := []) blank_nil
      (phraseText_compactMembers ms others k (phraseText_compactChars x first)) (.refl _)

theorem phraseText_compactItems : (xs : List Json) → areIntegral xs = true → {x : Json} →
    {t : List Char} → PhraseText (.value x) t → PhraseText (.items (x :: xs)) (t ++ compactItems xs)
  | [], _, _, _, first => .lastItem first blank_nil
  | y :: ys, exact, _, _, first => by
    obtain ⟨next, others⟩ := Bool.and_eq_true_iff.mp exact
    exact .item (b := []) (c := []) first blank_nil blank_nil
      (phraseText_compactItems ys others (phraseText_compactChars y next))

theorem phraseText_compactMembers : (ms : List (String × Json)) → haveIntegral ms = true →
    (k : String) → {x : Json} → {t : List Char} → PhraseText (.value x) t →
    PhraseText (.members ((k, x) :: ms)) ((quote k ++ ':' :: t) ++ compactMembers ms)
  | [], _, k, _, _, first => by
    rw [List.append_assoc]
    exact .lastMember (stringText_quote k) blank_nil blank_nil first blank_nil
  | (l, y) :: ms, exact, k, _, _, first => by
    obtain ⟨next, others⟩ := Bool.and_eq_true_iff.mp exact
    rw [List.append_assoc]
    exact .member (a := []) (b := []) (c := []) (d := []) (stringText_quote k) blank_nil blank_nil
      first blank_nil blank_nil
      (phraseText_compactMembers ms others l (phraseText_compactChars y next))

end

/-- The compact text of a value is a text of the value. -/
theorem textOf_compact {v : Json} (exact : v.isIntegral = true) : TextOf v (compact v) := by
  refine ⟨[], compactChars v, [], blank_nil, phraseText_compactChars v exact, blank_nil, ?_⟩
  rw [compact, String.toList_ofList, List.nil_append, List.append_nil]

end NodeGroups.Json
