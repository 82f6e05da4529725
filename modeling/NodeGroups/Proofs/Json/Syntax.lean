import NodeGroups.Proofs.Json.Printing
import NodeGroups.Proofs.Numeric.Shortest

set_option autoImplicit false

namespace NodeGroups.Json.Grammar

inductive Part
  | value
  /-- The items of an array, at least one, and its end. -/
  | items
  /-- The members of an object, at least one, and its end. -/
  | members

inductive PartText : Part → List Char → Prop
  | null : PartText .value ['n', 'u', 'l', 'l']
  | true : PartText .value ['t', 'r', 'u', 'e']
  | false : PartText .value ['f', 'a', 'l', 's', 'e']
  | number {n : Numeral} {t : List Char} (numeral : NumeralText n t) : PartText .value t
  | string {s : String} {t : List Char} (text : StringText s t) : PartText .value t
  | emptyArray {b : List Char} (blank : Blank b) : PartText .value ('[' :: (b ++ [']']))
  | array {b t : List Char} (blank : Blank b) (items : PartText .items t) :
      PartText .value ('[' :: (b ++ t))
  | emptyObject {b : List Char} (blank : Blank b) :
      PartText .value ('\x7b' :: (b ++ ['\x7d']))
  | object {b t : List Char} (blank : Blank b) (members : PartText .members t) :
      PartText .value ('\x7b' :: (b ++ t))
  | lastItem {t b : List Char} (item : PartText .value t) (blank : Blank b) :
      PartText .items (t ++ (b ++ [']']))
  | item {t b c u : List Char} (item : PartText .value t) (before : Blank b) (after : Blank c)
      (others : PartText .items u) : PartText .items (t ++ (b ++ ',' :: (c ++ u)))
  | lastMember {k : String} {kt a b t c : List Char} (key : StringText k kt) (before : Blank a)
      (after : Blank b) (value : PartText .value t) (blank : Blank c) :
      PartText .members (kt ++ (a ++ ':' :: (b ++ (t ++ (c ++ ['\x7d'])))))
  | member {k : String} {kt a b t c d u : List Char} (key : StringText k kt) (before : Blank a)
      (after : Blank b) (value : PartText .value t) (behind : Blank c) (next : Blank d)
      (others : PartText .members u) :
      PartText .members (kt ++ (a ++ ':' :: (b ++ (t ++ (c ++ ',' :: (d ++ u))))))

/-- A text is one JSON value and nothing else but white space. -/
def IsJson (text : String) : Prop :=
  ∃ b t c, Blank b ∧ PartText .value t ∧ Blank c ∧ text.toList = b ++ (t ++ c)

end NodeGroups.Json.Grammar

namespace NodeGroups.Json

open Grammar
open Numeric (Decimal binary64)

theorem digits_append {ds es : List Char} (digits : Digits ds)
    (others : ∀ c ∈ es, Text.isDigit c = true) : Digits (ds ++ es) := by
  obtain ⟨some, all⟩ := digits
  refine ⟨by simp [some], fun c member => ?_⟩
  rcases List.mem_append.mp member with front | back
  · exact all c front
  · exact others c back

theorem isDigit_of_mem_zeros {n : Nat} {c : Char} (member : c ∈ List.replicate n '0') :
    Text.isDigit c = true := by
  rw [List.eq_of_mem_replicate member]
  decide

theorem digits_zero : Digits ['0'] :=
  ⟨List.cons_ne_nil '0' [], fun _ => isDigit_of_mem_zeros (n := 1)⟩

theorem blank_space : Blank [' '] := by simp [Blank]

theorem blank_newline (level : Nat) : Blank (newline level) := by
  intro c member
  rcases List.mem_cons.mp member with rfl | space
  · exact .inr (.inl rfl)
  · exact .inl (List.eq_of_mem_replicate space)

def Unsigned (t : List Char) : Prop := ∃ n, n.negative = false ∧ NumeralText n t

theorem unsigned_parts {whole f e : List Char} {fraction : Option (List Char)}
    {exponent : Option (Bool × List Char)} (digits : Digits whole)
    (leading : whole = ['0'] ∨ whole.head? ≠ some '0') (behind : FractionText fraction f)
    (scaled : ExponentText exponent e) : Unsigned (whole ++ (f ++ e)) :=
  ⟨⟨false, whole, fraction, exponent⟩, rfl, digits, leading, f, e, behind, scaled, rfl⟩

section Layouts

variable {ds : List Char}

/-- An integral decimal, with a fraction of zero. -/
theorem unsigned_integral (digits : Digits ds) {zeros : Nat}
    (leading : ds.head? ≠ some '0' ∨ ds = ['0'] ∧ zeros = 0) :
    Unsigned (ds ++ List.replicate zeros '0' ++ ['.', '0']) := by
  refine unsigned_parts (digits_append digits fun c => isDigit_of_mem_zeros) ?_
    (.some digits_zero) .none
  rcases leading with first | ⟨rfl, rfl⟩
  · cases ds with
    | nil => exact absurd rfl digits.1
    | cons c cs => exact .inr first
  · exact .inl rfl

/-- A decimal with its point among the digits. -/
theorem unsigned_pointed (digits : Digits ds) (leading : ds.head? ≠ some '0') {point : Nat}
    (some : 0 < point) (behind : point < ds.length) :
    Unsigned (ds.take point ++ '.' :: ds.drop point) := by
  have front : (ds.take point).head? = ds.head? := by
    rw [List.head?_take, if_neg (by omega)]
  have whole : Digits (ds.take point) :=
    ⟨List.ne_nil_of_length_pos (by rw [List.length_take]; omega),
      fun c member => digits.2 c (List.mem_of_mem_take member)⟩
  have fraction : Digits (ds.drop point) :=
    ⟨List.ne_nil_of_length_pos (by rw [List.length_drop]; omega),
      fun c member => digits.2 c (List.mem_of_mem_drop member)⟩
  have parts := unsigned_parts whole (.inr (by rwa [front])) (.some fraction) .none
  rwa [List.append_nil] at parts

/-- A decimal below one. -/
theorem unsigned_fraction (digits : Digits ds) (zeros : Nat) :
    Unsigned ('0' :: '.' :: (List.replicate zeros '0' ++ ds)) := by
  have fraction : Digits (List.replicate zeros '0' ++ ds) := by
    refine ⟨by simp [digits.1], fun c member => ?_⟩
    rcases List.mem_append.mp member with front | back
    · exact isDigit_of_mem_zeros front
    · exact digits.2 c back
  have parts := unsigned_parts digits_zero (.inl rfl) (.some fraction) .none
  rwa [List.append_nil] at parts

/-- A decimal with one digit before its point and an exponent. -/
theorem unsigned_scaled {c : Char} {cs : List Char} (digits : Digits (c :: cs)) (e : Int) :
    Unsigned ((match c :: cs with
      | [] => []
      | [c] => [c]
      | c :: cs => c :: '.' :: cs) ++
        'e' :: (if e < 0 then '-' else '+') :: Number.natChars e.natAbs) := by
  have whole : Digits [c] :=
    ⟨nofun, fun d member => digits.2 d (List.mem_cons.mpr (.inl (List.mem_singleton.mp member)))⟩
  have first : [c] = ['0'] ∨ [c].head? ≠ some '0' := by
    by_cases zero : c = '0'
    · exact .inl (by rw [zero])
    · exact .inr (by simpa using zero)
  obtain ⟨exponent, scaled⟩ : ∃ exponent, ExponentText exponent
      ('e' :: (if e < 0 then '-' else '+') :: Number.natChars e.natAbs) := by
    split
    · exact ⟨_, .minus (.inl rfl) (digits_natChars _)⟩
    · exact ⟨_, .plus (.inl rfl) (digits_natChars _)⟩
  cases cs with
  | nil => exact unsigned_parts whole first .none scaled
  | cons d cs =>
    have fraction : Digits (d :: cs) :=
      ⟨List.cons_ne_nil d cs, fun b member => digits.2 b (List.mem_cons_of_mem c member)⟩
    exact unsigned_parts whole first (.some fraction) scaled

end Layouts

/-- A decimal is written as a numeral, unless it is a zero before other zeros. -/
theorem unsigned_decimalChars {d : Decimal}
    (positive : 1 ≤ d.exponent → d.exponent ≤ 15 → 0 < d.digits) :
    Unsigned (Number.decimalChars d) := by
  have digits := digits_natChars d.digits
  have leading : (Number.natChars d.digits).head? ≠ some '0' ∨
      Number.natChars d.digits = ['0'] ∧ d.digits = 0 := by
    rcases Nat.eq_zero_or_pos d.digits with zero | some
    · rw [zero]
      exact .inr ⟨rfl, rfl⟩
    · exact .inl (head_natChars some)
  unfold Number.decimalChars
  generalize Number.natChars d.digits = ds at digits leading
  have count : 0 < ds.length := List.length_pos_iff.mpr digits.1
  have single : ds = ['0'] → ds.length = 1 := congrArg List.length
  dsimp only
  split
  · refine unsigned_integral digits (leading.imp_right fun ⟨zero, digitless⟩ => ⟨zero, ?_⟩)
    have length := single zero
    omega
  split
  · refine unsigned_pointed digits (leading.resolve_right fun ⟨zero, _⟩ => ?_) (by omega) (by omega)
    have length := single zero
    omega
  split
  · exact unsigned_fraction digits _
  · cases ds with
    | nil => exact absurd rfl digits.1
    | cons c cs => exact unsigned_scaled digits ((c :: cs).length + d.exponent - 1)

theorem unsigned_natChars (n : Nat) : Unsigned (Number.natChars n) := by
  have parts := unsigned_parts (digits_natChars n) (leading_natChars n) .none .none
  rwa [List.append_nil, List.append_nil] at parts

/-- A numeral may have a minus sign. -/
theorem Unsigned.signed {t : List Char} (unsigned : Unsigned t) (negative : Prop)
    [Decidable negative] : ∃ n, NumeralText n (if negative then '-' :: t else t) := by
  obtain ⟨n, sign, digits, leading, f, e, fraction, exponent, rfl⟩ := unsigned
  rw [sign]
  have numeral : NumeralText { n with negative := decide negative }
      ((if decide negative then ['-'] else []) ++ (n.whole ++ (f ++ e))) :=
    ⟨digits, leading, f, e, fraction, exponent, rfl⟩
  by_cases signed : negative
  · exact ⟨_, by simpa [signed] using numeral⟩
  · exact ⟨_, by simpa [signed] using numeral⟩

/-- Every number is written as a numeral or as `null`. -/
theorem numeralText_chars (n : Number) :
    (∃ t, NumeralText t n.chars) ∨ n.chars = ['n', 'u', 'l', 'l'] := by
  cases n with
  | int n => exact .inl ((unsigned_natChars n.natAbs).signed (n < 0))
  | float x =>
    cases x with
    | nan => exact .inr rfl
    | infinite negative => exact .inr rfl
    | finite negative m e =>
      have unsigned : Unsigned (if m = 0 then ['0', '.', '0']
          else Number.decimalChars (Decimal.shortest binary64 m e)) := by
        split
        · exact unsigned_fraction digits_zero 0
        · rename_i some
          exact unsigned_decimalChars (Decimal.shortest_pos binary64 e (Nat.pos_of_ne_zero some))
      exact .inl (unsigned.signed (negative = true))

theorem partText_chars (n : Number) : PartText .value n.chars := by
  rcases numeralText_chars n with ⟨t, numeral⟩ | none
  · exact .number numeral
  · rw [none]
    exact .null

mutual

theorem partText_prettyChars : (level : Nat) → (v : Json) →
    PartText .value (prettyChars level v)
  | _, .null => .null
  | _, .bool true => .true
  | _, .bool false => .false
  | _, .number n => partText_chars n
  | _, .string s => .string (stringText_quote s)
  | _, .array [] => .emptyArray blank_nil
  | level, .array (x :: xs) => by
    have items := partText_prettyItems level xs (partText_prettyChars (level + 1) x)
    have text := PartText.array (blank_newline (level + 1)) items
    simpa [prettyChars] using text
  | _, .object [] => .emptyObject blank_nil
  | level, .object ((k, x) :: ms) => by
    have members := partText_prettyMembers level ms k (partText_prettyChars (level + 1) x)
    have text := PartText.object (blank_newline (level + 1)) members
    simpa [prettyChars] using text

theorem partText_prettyItems : (level : Nat) → (xs : List Json) → {t : List Char} →
    PartText .value t → PartText .items (t ++ prettyItems level xs)
  | level, [], _, first => .lastItem first (blank_newline level)
  | level, y :: ys, _, first => by
    have others := partText_prettyItems level ys (partText_prettyChars (level + 1) y)
    have text := PartText.item first blank_nil (blank_newline (level + 1)) others
    simpa [prettyItems] using text

theorem partText_prettyMembers : (level : Nat) → (ms : List (String × Json)) → (k : String) →
    {t : List Char} → PartText .value t →
    PartText .members (quote k ++ (':' :: ' ' :: t ++ prettyMembers level ms))
  | level, [], k, _, first => by
    have text := PartText.lastMember (stringText_quote k) blank_nil blank_space first
      (blank_newline level)
    simpa [prettyMembers] using text
  | level, (l, y) :: ms, k, _, first => by
    have others := partText_prettyMembers level ms l (partText_prettyChars (level + 1) y)
    have text := PartText.member (stringText_quote k) blank_nil blank_space first blank_nil
      (blank_newline (level + 1)) others
    simpa [prettyMembers] using text

end

/-- The pretty text of a value and a line break are JSON. -/
theorem isJson_pretty (v : Json) : IsJson (v.pretty ++ "\n") := by
  refine ⟨[], prettyChars 0 v, ['\n'], blank_nil, partText_prettyChars 0 v, by simp [Blank], ?_⟩
  rw [pretty, String.toList_append, String.toList_ofList]
  rfl

theorem newline_not_mem_digits {ds : List Char} (digits : ∀ c ∈ ds, Text.isDigit c = true) :
    '\n' ∉ ds := fun member => absurd (digits _ member) (by decide)

theorem newline_not_mem_numeral {n : Numeral} {t : List Char} (text : NumeralText n t) :
    '\n' ∉ t := by
  obtain ⟨negative, whole, _, _⟩ := n
  obtain ⟨digits, -, f, e, fraction, exponent, rfl⟩ := text
  have inFraction : '\n' ∉ f := by
    cases fraction with
    | none => exact List.not_mem_nil
    | some behind => simp [newline_not_mem_digits behind.2]
  have inExponent : '\n' ∉ e := by
    cases exponent with
    | none => exact List.not_mem_nil
    | some letter power | plus letter power | minus letter power =>
      rcases letter with rfl | rfl <;> simp [newline_not_mem_digits power.2]
  have inSign : '\n' ∉ (if negative then ['-'] else []) := by split <;> decide
  have inWhole : '\n' ∉ whole := newline_not_mem_digits digits.2
  simp [inSign, inWhole, inFraction, inExponent]

theorem newline_not_mem_chars (n : Number) : '\n' ∉ n.chars := by
  rcases numeralText_chars n with ⟨t, text⟩ | none
  · exact newline_not_mem_numeral text
  · rw [none]
    decide

theorem newline_not_mem_escapeChar (c : Char) : '\n' ∉ escapeChar c := by
  have digit : ∀ n < 16, '\n' ≠ n.digitChar := by decide
  unfold escapeChar
  split
  · decide
  split
  · decide
  split
  · decide
  split
  · decide
  split
  · decide
  rename_i other
  split
  · decide
  split
  · decide
  split
  · have high := digit (c.toNat / 16) (by omega)
    have low := digit (c.toNat % 16) (Nat.mod_lt _ (by decide))
    simp [high, low]
  · exact fun member => other (List.mem_singleton.mp member).symm

theorem newline_not_mem_quote (s : String) : '\n' ∉ quote s := by
  simp [quote, newline_not_mem_escapeChar]

mutual

/-- The compact text of a value is one line. -/
theorem newline_not_mem_compactChars : (v : Json) → '\n' ∉ compactChars v
  | .null | .bool true | .bool false | .array [] | .object [] => by decide
  | .number n => newline_not_mem_chars n
  | .string s => newline_not_mem_quote s
  | .array (x :: xs) => by
    simp [compactChars, newline_not_mem_compactChars x, newline_not_mem_compactItems xs]
  | .object ((k, x) :: ms) => by
    simp [compactChars, newline_not_mem_quote, newline_not_mem_compactChars x,
      newline_not_mem_compactMembers ms]

theorem newline_not_mem_compactItems : (xs : List Json) → '\n' ∉ compactItems xs
  | [] => by decide
  | x :: xs => by
    simp [compactItems, newline_not_mem_compactChars x, newline_not_mem_compactItems xs]

theorem newline_not_mem_compactMembers : (ms : List (String × Json)) → '\n' ∉ compactMembers ms
  | [] => by decide
  | (k, x) :: ms => by
    simp [compactMembers, newline_not_mem_quote, newline_not_mem_compactChars x,
      newline_not_mem_compactMembers ms]

end

end NodeGroups.Json
