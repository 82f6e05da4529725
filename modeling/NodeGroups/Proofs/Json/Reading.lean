import Mathlib.Data.List.Forall2
import NodeGroups.Json.Source
import NodeGroups.Proofs.Json.Grammar

set_option autoImplicit false

namespace NodeGroups.Json.Source

open Grammar

theorem isSpace_of_blank {b : List Char} (blank : Blank b) : ∀ c ∈ b, isSpace c = true := by
  intro c member
  rcases blank c member with rfl | rfl | rfl | rfl <;> rfl

theorem skip_blank {b : List Char} (blank : Blank b) (rest : List Char) :
    skip (b ++ rest) = skip rest :=
  List.dropWhile_append_of_pos (isSpace_of_blank blank)

theorem skip_cons {c : Char} (solid : isSpace c = false) (rest : List Char) :
    skip (c :: rest) = c :: rest :=
  List.dropWhile_cons_of_neg (by rw [solid]; exact Bool.false_ne_true)

/-- White space before something else is passed over. -/
theorem skip_blank_cons {b : List Char} (blank : Blank b) {c : Char} (solid : isSpace c = false)
    (rest : List Char) : skip (b ++ c :: rest) = c :: rest := by
  rw [skip_blank blank, skip_cons solid]

theorem hexValue?_lt {c : Char} {n : Nat} (known : Text.hexValue? c = some n) : n < 16 := by
  unfold Text.hexValue? Text.isDigit at known
  split at known
  · rename_i digit
    cases known
    simp only [Bool.and_eq_true, decide_eq_true_eq, Char.le_def, UInt32.le_iff_toNat_le] at digit
    change c.toNat - 48 < 16
    have above : c.toNat ≤ 57 := digit.2
    omega
  · split at known
    · rename_i small
      cases known
      simp only [Char.le_def, UInt32.le_iff_toNat_le] at small
      change c.toNat - 97 + 10 < 16
      have above : c.toNat ≤ 102 := small.2
      omega
    · split at known
      · rename_i large
        cases known
        simp only [Char.le_def, UInt32.le_iff_toNat_le] at large
        change c.toNat - 65 + 10 < 16
        have above : c.toNat ≤ 70 := large.2
        omega
      · cases known

theorem natOfDigits?_of_fourDigits {n : Nat} {ds : List Char} (digits : FourDigits n ds) :
    ∃ a b c d, ds = [a, b, c, d] ∧ Text.natOfDigits? 16 [a, b, c, d] = some n := by
  obtain ⟨a, b, c, d, w, x, y, z, rfl, hw, hx, hy, hz, rfl⟩ := digits
  refine ⟨a, b, c, d, rfl, ?_⟩
  have value : ∀ e v, Text.hexValue? e = some v → Text.digitValue? 16 e = some v := by
    intro e v known
    rw [Text.digitValue?, known, Option.filter_some, decide_eq_true (hexValue?_lt known)]
    rfl
  simp [Text.natOfDigits?, value _ _ hw, value _ _ hx, value _ _ hy, value _ _ hz]

theorem escaped?_of_listed {e c : Char} (listed : (e, c) ∈ shortEscapes) :
    escaped? e = some c ∧ e ≠ 'u' := by
  simp only [shortEscapes, List.mem_cons, List.not_mem_nil, or_false, Prod.mk.injEq] at listed
  rcases listed with ⟨rfl, rfl⟩ | ⟨rfl, rfl⟩ | ⟨rfl, rfl⟩ | ⟨rfl, rfl⟩ | ⟨rfl, rfl⟩ | ⟨rfl, rfl⟩ |
    ⟨rfl, rfl⟩ | ⟨rfl, rfl⟩ <;> decide

theorem pieces_plain {c : Char} (visible : 0x20 ≤ c.toNat) (quote : c ≠ '"') (backslash : c ≠ '\\')
    (acc : List Piece) (r : List Char) : pieces acc (c :: r) = pieces (.char c :: acc) r := by
  rw [pieces]
  · rw [if_neg (not_or.mpr ⟨Nat.not_lt.mpr visible, backslash⟩)]
  · exact quote
  · exact fun _ _ _ _ _ same => absurd same backslash
  · exact fun _ _ same => absurd same backslash

theorem pieces_short {e c : Char} (listed : (e, c) ∈ shortEscapes) (acc : List Piece)
    (r : List Char) : pieces acc ('\\' :: e :: r) = pieces (.char c :: acc) r := by
  obtain ⟨known, other⟩ := escaped?_of_listed listed
  rw [pieces]
  · rw [known]
  · exact fun _ _ _ _ _ same => absurd same other

theorem pieces_code {n : Nat} {ds : List Char} (digits : FourDigits n ds) (acc : List Piece)
    (r : List Char) : pieces acc ('\\' :: 'u' :: (ds ++ r)) = pieces (.ofUnit n :: acc) r := by
  obtain ⟨a, b, c, d, rfl, read⟩ := natOfDigits?_of_fourDigits digits
  change pieces acc ('\\' :: 'u' :: a :: b :: c :: d :: r) = _
  rw [pieces, read]

/-- A character in a string is read as pieces that join to it. -/
theorem pieces_charText {c : Char} {t : List Char} (text : CharText c t) :
    ∃ ps, (∀ acc r, pieces acc (t ++ r) = pieces (ps.reverse ++ acc) r) ∧
      ∀ qs, join (ps ++ qs) = (join qs).map (c :: ·) := by
  cases text with
  | plain visible quote backslash =>
    exact ⟨[.char c], pieces_plain visible quote backslash, fun qs => rfl⟩
  | short e listed => exact ⟨[.char c], pieces_short listed, fun qs => rfl⟩
  | code ds digits =>
    have unit : Piece.ofUnit c.toNat = .char c := by
      have whole := c.valid
      change c.toNat.isValidChar at whole
      rw [Piece.ofUnit, if_neg, Char.ofNat_toNat]
      rcases whole with low | ⟨high, -⟩
      · exact fun half => absurd half.1 (Nat.not_le.mpr low)
      · exact fun half => absurd half.2 (Nat.not_lt.mpr high)
    refine ⟨[.char c], fun acc r => ?_, fun qs => rfl⟩
    rw [← unit]
    exact pieces_code digits acc r
  | pair hs ls wide high low =>
    have bounded : c.toNat < 0x110000 := by
      have whole : c.toNat.isValidChar := c.valid
      unfold Nat.isValidChar at whole
      omega
    generalize atHigh : 0xD800 + (c.toNat - 0x10000) / 0x400 = h at high
    generalize atLow : 0xDC00 + (c.toNat - 0x10000) % 0x400 = l at low
    have first : Piece.ofUnit h = .half h := if_pos ⟨by omega, by omega⟩
    have second : Piece.ofUnit l = .half l := if_pos ⟨by omega, by omega⟩
    refine ⟨[.half h, .half l], fun acc r => ?_, fun qs => ?_⟩
    · rw [List.append_assoc]
      change pieces acc ('\\' :: 'u' :: (hs ++ '\\' :: 'u' :: (ls ++ r))) = _
      rw [pieces_code high, pieces_code low, first, second]
      rfl
    · have joined : (h - 0xD800) * 0x400 + (l - 0xDC00) + 0x10000 = c.toNat := by omega
      change (if h < 0xDC00 ∧ 0xDC00 ≤ l then _ else _) = _
      rw [if_pos ⟨by omega, by omega⟩, joined, Char.ofNat_toNat]
      rfl

/-- Characters in a string are read as pieces that join to them. -/
theorem pieces_charsText {cs t : List Char} (text : CharsText cs t) :
    ∃ ps, (∀ acc r, pieces acc (t ++ '"' :: r) = some (acc.reverse ++ ps, r)) ∧
      join ps = some cs := by
  induction text with
  | nil =>
    refine ⟨[], fun acc r => ?_, rfl⟩
    rw [List.append_nil]
    rfl
  | cons first others ih =>
    obtain ⟨ps, readFirst, joinFirst⟩ := pieces_charText first
    obtain ⟨qs, readOthers, joinOthers⟩ := ih
    refine ⟨ps ++ qs, fun acc r => ?_, ?_⟩
    · rw [List.append_assoc, readFirst, readOthers, List.reverse_append, List.reverse_reverse,
        List.append_assoc]
    · rw [joinFirst, joinOthers]
      rfl

/-- A string is read to its closing quote. -/
theorem readString_of_text {s : String} {t : List Char} (text : StringText s t) :
    ∃ u, t = '"' :: u ∧ ∀ r, readString (u ++ r) = some (some s, r) := by
  obtain ⟨u, characters, rfl⟩ := text
  obtain ⟨ps, reads, joins⟩ := pieces_charsText characters
  refine ⟨u ++ ['"'], rfl, fun r => ?_⟩
  rw [List.append_assoc]
  change (pieces [] (u ++ '"' :: r)).map _ = _
  rw [reads]
  change some ((join ps).map String.ofList, r) = _
  rw [joins, Option.map_some, String.ofList_toList]

/-- What follows does not go on with a number. -/
def Ends (rest : List Char) : Prop :=
  ∀ c r, rest = c :: r → Text.isDigit c = false ∧ c ≠ '.' ∧ c ≠ 'e' ∧ c ≠ 'E'

theorem ends_cons {c : Char} (other : Text.isDigit c = false ∧ c ≠ '.' ∧ c ≠ 'e' ∧ c ≠ 'E')
    (r : List Char) : Ends (c :: r) := by
  intro d s same
  rw [← (List.cons.inj same).1]
  exact other

theorem ends_blank {b : List Char} (blank : Blank b) {rest : List Char} (ends : Ends rest) :
    Ends (b ++ rest) := by
  cases b with
  | nil => exact ends
  | cons c b =>
    refine ends_cons ?_ _
    rcases blank c List.mem_cons_self with rfl | rfl | rfl | rfl <;> decide

theorem digits_head {ds : List Char} (digits : Digits ds) (rest : List Char) :
    ∃ d t, ds ++ rest = d :: t ∧ Text.isDigit d = true := by
  cases ds with
  | nil => exact absurd rfl digits.1
  | cons d ds => exact ⟨d, ds ++ rest, rfl, digits.2 d List.mem_cons_self⟩

theorem readDigits_of_digits {ds : List Char} (digits : Digits ds) {rest : List Char}
    (ends : ∀ c r, rest = c :: r → Text.isDigit c = false) :
    readDigits (ds ++ rest) = some (ds, rest) := by
  have stops : rest.takeWhile Text.isDigit = [] ∧ rest.dropWhile Text.isDigit = rest := by
    cases rest with
    | nil => exact ⟨rfl, rfl⟩
    | cons c r =>
      have other := ends c r rfl
      exact ⟨List.takeWhile_cons_of_neg (by rw [other]; exact Bool.false_ne_true),
        List.dropWhile_cons_of_neg (by rw [other]; exact Bool.false_ne_true)⟩
  have taken : (ds ++ rest).takeWhile Text.isDigit = ds := by
    rw [List.takeWhile_append_of_pos digits.2, stops.1, List.append_nil]
  have left : (ds ++ rest).dropWhile Text.isDigit = rest := by
    rw [List.dropWhile_append_of_pos digits.2, stops.2]
  rw [readDigits, taken, left]
  cases ds with
  | nil => exact absurd rfl digits.1
  | cons d ds => rfl

theorem readWhole_of_digits {ds : List Char} (digits : Digits ds)
    (leading : ds = ['0'] ∨ ds.head? ≠ some '0') {rest : List Char}
    (ends : ∀ c r, rest = c :: r → Text.isDigit c = false) :
    readWhole (ds ++ rest) = some (ds, rest) := by
  rw [readWhole, readDigits_of_digits digits ends, Option.bind_eq_bind, Option.bind_some]
  dsimp only
  split
  · rename_i c r
    rcases leading with single | other
    · cases single
    · exact absurd rfl other
  · rfl

theorem readFraction_of_text {f : Option (List Char)} {t : List Char} (text : FractionText f t)
    {rest : List Char} (ends : ∀ c r, rest = c :: r → Text.isDigit c = false ∧ c ≠ '.') :
    readFraction (t ++ rest) = some (f, rest) := by
  cases text with
  | none =>
    rw [List.nil_append, readFraction]
    exact fun r same => absurd rfl (ends _ _ same).2
  | some digits =>
    rw [List.cons_append, readFraction,
      readDigits_of_digits digits fun c r same => (ends c r same).1]
    rfl

theorem readExponent_of_text {e : Option (Bool × List Char)} {t : List Char}
    (text : ExponentText e t) {rest : List Char} (ends : Ends rest) :
    readExponent (t ++ rest) = some (e, rest) := by
  have stops : ∀ c r, rest = c :: r → Text.isDigit c = false := fun c r same => (ends c r same).1
  cases text with
  | none =>
    cases rest with
    | nil => rfl
    | cons c r =>
      obtain ⟨-, -, small, large⟩ := ends c r rfl
      exact if_neg (not_or.mpr ⟨small, large⟩)
  | some known digits =>
    have read := readDigits_of_digits digits stops
    obtain ⟨d, u, front, digit⟩ := digits_head digits rest
    rw [List.cons_append, readExponent, if_pos known, read]
    · rfl
    · intro r signed
      rw [front] at signed
      rw [(List.cons.inj signed).1] at digit
      cases digit
    · intro r signed
      rw [front] at signed
      rw [(List.cons.inj signed).1] at digit
      cases digit
  | plus known digits =>
    refine (if_pos known).trans ?_
    change (readDigits (_ ++ rest)).map _ = _
    rw [readDigits_of_digits digits stops]
    rfl
  | minus known digits =>
    refine (if_pos known).trans ?_
    change (readDigits (_ ++ rest)).map _ = _
    rw [readDigits_of_digits digits stops]
    rfl

/-- What follows the digits before the point is no digit. -/
theorem ends_fraction {f : Option (List Char)} {t : List Char} (text : FractionText f t)
    {rest : List Char} (ends : ∀ c r, rest = c :: r → Text.isDigit c = false) :
    ∀ c r, t ++ rest = c :: r → Text.isDigit c = false := by
  intro c r same
  cases text with
  | none => exact ends c r same
  | some digits =>
    rw [← (List.cons.inj same).1]
    decide

theorem ends_exponent {e : Option (Bool × List Char)} {t : List Char} (text : ExponentText e t)
    {rest : List Char} (ends : Ends rest) :
    ∀ c r, t ++ rest = c :: r → Text.isDigit c = false ∧ c ≠ '.' := by
  intro c r same
  have letter : ∀ {d : Char} {u : List Char}, (d = 'e' ∨ d = 'E') → d :: u = c :: r →
      Text.isDigit c = false ∧ c ≠ '.' := by
    intro d u known same
    rw [← (List.cons.inj same).1]
    rcases known with rfl | rfl <;> decide
  cases text with
  | none =>
    obtain ⟨digit, point, -⟩ := ends c r same
    exact ⟨digit, point⟩
  | some known digits => exact letter known same
  | plus known digits => exact letter known same
  | minus known digits => exact letter known same

/-- A numeral starts with a sign or a digit. -/
theorem numeralText_head {n : Numeral} {t : List Char} (text : NumeralText n t) :
    ∃ c u, t = c :: u ∧ (c = '-' ∨ Text.isDigit c = true) := by
  obtain ⟨digits, -, f, e, -, -, rfl⟩ := text
  obtain ⟨d, u, front, digit⟩ := digits_head digits (f ++ e)
  rw [front]
  cases n.negative with
  | true => exact ⟨'-', d :: u, rfl, .inl rfl⟩
  | false => exact ⟨d, u, rfl, .inr digit⟩

/-- A numeral is read up to something that does not go on with it. -/
theorem readNumeral_of_text {n : Numeral} {t : List Char} (text : NumeralText n t)
    {rest : List Char} (ends : Ends rest) : readNumeral (t ++ rest) = some (n, rest) := by
  obtain ⟨negative, whole, fraction, exponent⟩ := n
  obtain ⟨digits, leading, f, e, fractionText, exponentText, rfl⟩ := text
  dsimp only at digits leading fractionText exponentText ⊢
  have afterFraction := ends_exponent exponentText ends
  have afterWhole := ends_fraction fractionText fun c r same => (afterFraction c r same).1
  have unsigned : readUnsigned negative (whole ++ (f ++ (e ++ rest))) =
      some (⟨negative, whole, fraction, exponent⟩, rest) := by
    rw [readUnsigned, readWhole_of_digits digits leading afterWhole]
    change (readFraction (f ++ (e ++ rest)) >>= _) = _
    rw [readFraction_of_text fractionText afterFraction]
    change (readExponent (e ++ rest) >>= _) = _
    rw [readExponent_of_text exponentText ends]
    rfl
  rw [List.append_assoc, List.append_assoc, List.append_assoc]
  cases negative with
  | true => exact unsigned
  | false =>
    obtain ⟨d, u, front, digit⟩ := digits_head digits (f ++ (e ++ rest))
    change readNumeral (whole ++ (f ++ (e ++ rest))) = _
    rw [← unsigned, readNumeral]
    intro r signed
    rw [front] at signed
    rw [(List.cons.inj signed).1] at digit
    cases digit

/-- A source means a value: members in any order, and numerals by the number they stand for. -/
inductive Means : Source → Json → Prop
  | null : Means .null .null
  | bool (b : Bool) : Means (.bool b) (.bool b)
  | number {n : Numeral} {v : Number} (stands : n.value? = some v) : Means (.number n) (.number v)
  | string (s : String) : Means (.string (some s)) (.string s)
  | array {sources : List Source} {xs : List Json} (items : List.Forall₂ Means sources xs) :
      Means (.array sources) (.array xs)
  | object {given : List (Option String × Source)} {ms order : List (String × Json)}
      (keys : given.map Prod.fst = order.map fun m => some m.1)
      (values : List.Forall₂ Means (given.map Prod.snd) (order.map Prod.snd))
      (perm : order.Perm ms) : Means (.object given) (.object ms)

/-- The reader gets through a text of a phrase, whatever comes after it. -/
def Reads (t : List Char) : Phrase → Prop
  | .value v => ∃ source, Means source v ∧ ∀ fuel rest, 2 * t.length ≤ fuel → Ends rest →
      value fuel (t ++ rest) = some (source, rest)
  | .items xs => ∃ sources, List.Forall₂ Means sources xs ∧
      ∀ fuel acc rest, 2 * t.length ≤ fuel →
        items fuel acc (t ++ rest) = some (.array (acc.reverse ++ sources), rest)
  | .members ms => ∃ given : List (Option String × Source),
      (given.map Prod.fst = ms.map fun m => some m.1) ∧
      List.Forall₂ Means (given.map Prod.snd) (ms.map Prod.snd) ∧
      ∀ fuel acc rest, 2 * t.length ≤ fuel →
        members fuel acc (t ++ rest) = some (.object (acc.reverse ++ given), rest)

/-- A numeral starts with no white space and closes nothing. -/
theorem numeralText_solid {n : Numeral} {t : List Char} (text : NumeralText n t) :
    ∃ c u, t = c :: u ∧ isSpace c = false ∧ c ≠ ']' ∧ c ≠ '\x7d' := by
  obtain ⟨c, u, rfl, sign | digit⟩ := numeralText_head text
  · exact ⟨c, u, rfl, by rw [sign]; decide⟩
  · have apart : ∀ d, Text.isDigit d = false → c ≠ d := by
      rintro d other rfl
      rw [digit] at other
      cases other
    refine ⟨c, u, rfl, ?_, apart _ rfl, apart _ rfl⟩
    simp [isSpace, apart ' ' rfl, apart '\n' rfl, apart '\t' rfl, apart '\r' rfl]

/-- The first character of the text of a phrase is no white space and closes nothing. -/
theorem phraseText_head {p : Phrase} {t : List Char} (text : PhraseText p t) :
    ∃ c u, t = c :: u ∧ isSpace c = false ∧ c ≠ ']' ∧ c ≠ '\x7d' := by
  induction text with
  | null | true | false | emptyArray | array | emptyObject | object =>
    exact ⟨_, _, rfl, by decide⟩
  | number numeral stands => exact numeralText_solid numeral
  | string text =>
    obtain ⟨u, -, rfl⟩ := text
    exact ⟨_, _, rfl, by decide⟩
  | lastItem item blank ih =>
    obtain ⟨c, u, rfl, solid⟩ := ih
    exact ⟨c, _, rfl, solid⟩
  | item item before after others ih _ =>
    obtain ⟨c, u, rfl, solid⟩ := ih
    exact ⟨c, _, rfl, solid⟩
  | lastMember key | member key =>
    obtain ⟨u, -, rfl⟩ := key
    exact ⟨_, _, rfl, by decide⟩

theorem value_emptyArray {fuel : Nat} {r s : List Char} (next : skip r = ']' :: s) :
    value (fuel + 1) ('[' :: r) = some (.array [], s) := by
  rw [value, next]
  rfl

theorem value_array {fuel : Nat} {r s : List Char} {c : Char} (next : skip r = c :: s)
    (more : c ≠ ']') : value (fuel + 1) ('[' :: r) = items fuel [] (c :: s) := by
  rw [value, next]
  split
  · rename_i r same
    exact absurd (List.cons.inj same).1 more
  · rfl

theorem value_emptyObject {fuel : Nat} {r s : List Char} (next : skip r = '\x7d' :: s) :
    value (fuel + 1) ('\x7b' :: r) = some (.object [], s) := by
  rw [value, next]
  rfl

theorem value_object {fuel : Nat} {r s : List Char} {c : Char} (next : skip r = c :: s)
    (more : c ≠ '\x7d') : value (fuel + 1) ('\x7b' :: r) = members fuel [] (c :: s) := by
  rw [value, next]
  split
  · rename_i r same
    exact absurd (List.cons.inj same).1 more
  · rfl

/-- What starts like a number is read as one. -/
theorem value_number {fuel : Nat} {c : Char} {r : List Char}
    (starts : c = '-' ∨ Text.isDigit c = true) :
    value (fuel + 1) (c :: r) = (readNumeral (c :: r)).map fun (n, r) => (.number n, r) := by
  have apart : ∀ d, d ≠ '-' → Text.isDigit d = false → c ≠ d := by
    rintro d sign other rfl
    rcases starts with minus | digit
    · exact sign minus
    · rw [digit] at other
      cases other
  rw [value] <;> exact apart _ (by decide) rfl

theorem items_last {fuel : Nat} {acc : List Source} {cs r s : List Char} {x : Source}
    (item : value fuel cs = some (x, r)) (next : skip r = ']' :: s) :
    items (fuel + 1) acc cs = some (.array (acc.reverse ++ [x]), s) := by
  rw [items, item, ← List.reverse_cons]
  simp only [Option.bind_eq_bind, Option.bind_some, next]

theorem items_next {fuel : Nat} {acc : List Source} {cs r s : List Char} {x : Source}
    (item : value fuel cs = some (x, r)) (next : skip r = ',' :: s) :
    items (fuel + 1) acc cs = items fuel (x :: acc) (skip s) := by
  rw [items, item]
  simp only [Option.bind_eq_bind, Option.bind_some, next]

section Member

variable {fuel : Nat} {acc : List (Option String × Source)} {cs r s u v : List Char}
  {key : Option String} {x : Source} (name : readString cs = some (key, r))
  (colon : skip r = ':' :: s) (item : value fuel (skip s) = some (x, u))

include name colon item

theorem members_last (next : skip u = '\x7d' :: v) :
    members (fuel + 1) acc ('"' :: cs) = some (.object (acc.reverse ++ [(key, x)]), v) := by
  rw [members, name, ← List.reverse_cons]
  simp only [Option.bind_eq_bind, Option.bind_some, colon, item, next]

theorem members_next (next : skip u = ',' :: v) :
    members (fuel + 1) acc ('"' :: cs) = members fuel ((key, x) :: acc) (skip v) := by
  rw [members, name]
  simp only [Option.bind_eq_bind, Option.bind_some, colon, item, next]

end Member

/-- Every two steps of the reader take a character. -/
theorem fuel_succ {n fuel : Nat} (enough : 2 * (n + 1) ≤ fuel) :
    ∃ k, fuel = k + 1 ∧ 2 * n + 1 ≤ k := ⟨fuel - 1, by omega, by omega⟩

theorem reads_emptyArray {b : List Char} (blank : Blank b) :
    Reads ('[' :: (b ++ [']'])) (.value (.array [])) := by
  refine ⟨.array [], .array .nil, fun fuel rest enough _ => ?_⟩
  obtain ⟨k, rfl, -⟩ := fuel_succ enough
  rw [List.cons_append, List.append_assoc]
  exact value_emptyArray (skip_blank_cons blank rfl rest)

theorem reads_array {xs : List Json} {b t : List Char} (blank : Blank b)
    (text : PhraseText (.items xs) t) (ih : Reads t (.items xs)) :
    Reads ('[' :: (b ++ t)) (.value (.array xs)) := by
  obtain ⟨sources, means, reads⟩ := ih
  obtain ⟨c, u, rfl, solid, more, -⟩ := phraseText_head text
  refine ⟨.array sources, .array means, fun fuel rest enough _ => ?_⟩
  obtain ⟨k, rfl, rich⟩ := fuel_succ enough
  rw [List.length_append] at rich
  rw [List.cons_append, List.append_assoc, List.cons_append,
    value_array (skip_blank_cons blank solid (u ++ rest)) more]
  exact reads k [] rest (by omega)

theorem reads_emptyObject {b : List Char} (blank : Blank b) :
    Reads ('\x7b' :: (b ++ ['\x7d'])) (.value (.object [])) := by
  refine ⟨.object [], .object rfl .nil .nil, fun fuel rest enough _ => ?_⟩
  obtain ⟨k, rfl, -⟩ := fuel_succ enough
  rw [List.cons_append, List.append_assoc]
  exact value_emptyObject (skip_blank_cons blank rfl rest)

theorem reads_object {ms order : List (String × Json)} {b t : List Char} (blank : Blank b)
    (text : PhraseText (.members order) t) (perm : order.Perm ms)
    (ih : Reads t (.members order)) : Reads ('\x7b' :: (b ++ t)) (.value (.object ms)) := by
  obtain ⟨given, keys, means, reads⟩ := ih
  obtain ⟨c, u, rfl, solid, -, more⟩ := phraseText_head text
  refine ⟨.object given, .object keys means perm, fun fuel rest enough _ => ?_⟩
  obtain ⟨k, rfl, rich⟩ := fuel_succ enough
  rw [List.length_append] at rich
  rw [List.cons_append, List.append_assoc, List.cons_append,
    value_object (skip_blank_cons blank solid (u ++ rest)) more]
  exact reads k [] rest (by omega)

theorem reads_lastItem {x : Json} {t b : List Char} (blank : Blank b) (ih : Reads t (.value x)) :
    Reads (t ++ (b ++ [']'])) (.items [x]) := by
  obtain ⟨source, means, reads⟩ := ih
  refine ⟨[source], .cons means .nil, fun fuel acc rest enough => ?_⟩
  rw [List.length_append, List.length_append] at enough
  obtain ⟨k, rfl, rich⟩ := fuel_succ (n := t.length + b.length) enough
  rw [List.append_assoc, List.append_assoc]
  have item := reads k (b ++ ']' :: rest) (by omega)
    (ends_blank blank (ends_cons (by decide) rest))
  exact items_last item (skip_blank_cons blank rfl rest)

theorem reads_item {x : Json} {xs : List Json} {t b c u : List Char} (before : Blank b)
    (after : Blank c) (others : PhraseText (.items xs) u) (ihItem : Reads t (.value x))
    (ihOthers : Reads u (.items xs)) :
    Reads (t ++ (b ++ ',' :: (c ++ u))) (.items (x :: xs)) := by
  obtain ⟨source, means, reads⟩ := ihItem
  obtain ⟨sources, meanOthers, readOthers⟩ := ihOthers
  obtain ⟨d, v, rfl, solid, -⟩ := phraseText_head others
  refine ⟨source :: sources, .cons means meanOthers, fun fuel acc rest enough => ?_⟩
  rw [List.length_append, List.length_append, List.length_cons, List.length_append] at enough
  have size : 2 * (t.length + b.length + c.length + (d :: v).length + 1) ≤ fuel := by omega
  obtain ⟨k, rfl, rich⟩ := fuel_succ size
  have item := reads k (b ++ ',' :: (c ++ d :: (v ++ rest))) (by omega)
    (ends_blank before (ends_cons (by decide) _))
  have next := readOthers k (source :: acc) rest (by omega)
  simp only [List.append_assoc, List.cons_append] at next ⊢
  rw [items_next item (skip_blank_cons before rfl _), skip_blank_cons after solid, next,
    List.reverse_cons, List.append_assoc]
  rfl

theorem reads_lastMember {k : String} {x : Json} {kt a b t c : List Char} (key : StringText k kt)
    (before : Blank a) (after : Blank b) (text : PhraseText (.value x) t) (blank : Blank c)
    (ih : Reads t (.value x)) :
    Reads (kt ++ (a ++ ':' :: (b ++ (t ++ (c ++ ['\x7d']))))) (.members [(k, x)]) := by
  obtain ⟨source, means, reads⟩ := ih
  obtain ⟨name, rfl, readName⟩ := readString_of_text key
  obtain ⟨d, v, rfl, solid, -⟩ := phraseText_head text
  refine ⟨[(some k, source)], rfl, .cons means .nil, fun fuel acc rest enough => ?_⟩
  have size : 2 * (name.length + (d :: v).length + 1) ≤ fuel := by
    simp only [List.length_append, List.length_cons] at enough ⊢
    omega
  obtain ⟨f, rfl, rich⟩ := fuel_succ size
  have item := reads f (c ++ '\x7d' :: rest) (by omega)
    (ends_blank blank (ends_cons (by decide) rest))
  rw [List.cons_append, ← skip_blank_cons after solid] at item
  simp only [List.append_assoc, List.cons_append, List.nil_append] at item ⊢
  exact members_last (readName _) (skip_blank_cons before rfl _) item (skip_blank_cons blank rfl _)

theorem reads_member {k : String} {x : Json} {ms : List (String × Json)}
    {kt a b t c d u : List Char} (key : StringText k kt) (before : Blank a) (after : Blank b)
    (text : PhraseText (.value x) t) (behind : Blank c) (next : Blank d)
    (others : PhraseText (.members ms) u) (ihItem : Reads t (.value x))
    (ihOthers : Reads u (.members ms)) :
    Reads (kt ++ (a ++ ':' :: (b ++ (t ++ (c ++ ',' :: (d ++ u)))))) (.members ((k, x) :: ms)) := by
  obtain ⟨source, means, reads⟩ := ihItem
  obtain ⟨given, keys, meanOthers, readOthers⟩ := ihOthers
  obtain ⟨name, rfl, readName⟩ := readString_of_text key
  obtain ⟨e, v, rfl, solid, -⟩ := phraseText_head text
  obtain ⟨g, w, rfl, solidNext, -⟩ := phraseText_head others
  refine ⟨(some k, source) :: given, congrArg (some k :: ·) keys, .cons means meanOthers,
    fun fuel acc rest enough => ?_⟩
  have size : 2 * (name.length + (e :: v).length + (g :: w).length + 1) ≤ fuel := by
    simp only [List.length_append, List.length_cons] at enough ⊢
    omega
  obtain ⟨f, rfl, rich⟩ := fuel_succ size
  have item := reads f (c ++ ',' :: (d ++ g :: (w ++ rest))) (by omega)
    (ends_blank behind (ends_cons (by decide) _))
  have onward := readOthers f ((some k, source) :: acc) rest (by omega)
  rw [List.cons_append, ← skip_blank_cons after solid] at item
  simp only [List.append_assoc, List.cons_append] at item onward ⊢
  rw [members_next (readName _) (skip_blank_cons before rfl _) item (skip_blank_cons behind rfl _),
    skip_blank_cons next solidNext, onward, List.reverse_cons, List.append_assoc]
  rfl

/-- The reader gets through every text of every phrase. -/
theorem reads_of_text {p : Phrase} {t : List Char} (text : PhraseText p t) : Reads t p := by
  induction text with
  | null =>
    refine ⟨.null, .null, fun fuel rest enough _ => ?_⟩
    obtain ⟨k, rfl, -⟩ := fuel_succ enough
    rfl
  | true =>
    refine ⟨.bool true, .bool true, fun fuel rest enough _ => ?_⟩
    obtain ⟨k, rfl, -⟩ := fuel_succ enough
    rfl
  | false =>
    refine ⟨.bool false, .bool false, fun fuel rest enough _ => ?_⟩
    obtain ⟨k, rfl, -⟩ := fuel_succ enough
    rfl
  | number numeral stands =>
    refine ⟨.number _, .number stands, fun fuel rest enough ends => ?_⟩
    have read := readNumeral_of_text numeral ends
    obtain ⟨c, u, rfl, starts⟩ := numeralText_head numeral
    obtain ⟨k, rfl, -⟩ := fuel_succ enough
    rw [List.cons_append] at read ⊢
    rw [value_number starts, read]
    rfl
  | string text =>
    obtain ⟨u, rfl, reads⟩ := readString_of_text text
    refine ⟨.string (some _), .string _, fun fuel rest enough _ => ?_⟩
    obtain ⟨k, rfl, -⟩ := fuel_succ enough
    rw [List.cons_append, value, reads]
    rfl
  | emptyArray blank => exact reads_emptyArray blank
  | array blank items ih => exact reads_array blank items ih
  | emptyObject blank => exact reads_emptyObject blank
  | object blank members perm ih => exact reads_object blank members perm ih
  | lastItem item blank ih => exact reads_lastItem blank ih
  | item item before after others ihItem ihOthers =>
    exact reads_item before after others ihItem ihOthers
  | lastMember key before after value blank ih =>
    exact reads_lastMember key before after value blank ih
  | member key before after value behind next others ihItem ihOthers =>
    exact reads_member key before after value behind next others ihItem ihOthers

/-- A text of a value is read as a source that means the value. -/
theorem parse?_of_text {v : Json} {text : String} (written : TextOf v text) :
    ∃ source, parse? text = some source ∧ Means source v := by
  obtain ⟨b, t, c, before, phrase, after, chars⟩ := written
  obtain ⟨source, means, reads⟩ := reads_of_text phrase
  obtain ⟨d, u, rfl, solid, -⟩ := phraseText_head phrase
  have ends : Ends c := by
    have nothing : Ends [] := fun _ _ same => nomatch same
    have behind := ends_blank after nothing
    rwa [List.append_nil] at behind
  have read := reads (2 * (b ++ (d :: u ++ c)).length + 2) c (by
    rw [List.length_append, List.length_append]
    omega) ends
  have empty : skip c = [] := by
    have passed := skip_blank after []
    rwa [List.append_nil] at passed
  refine ⟨source, ?_, means⟩
  rw [parse?, chars, parseChars?, List.cons_append, skip_blank_cons before solid]
  rw [List.cons_append] at read
  rw [read]
  simp only [Option.bind_eq_bind, Option.bind_some, empty, List.isEmpty_nil, if_true]

end NodeGroups.Json.Source
