import Mathlib.Data.List.TakeWhile
import NodeGroups.Numeric.Reading
import NodeGroups.Proofs.Json.Grammar

set_option autoImplicit false

namespace NodeGroups.Numeric

open Json.Grammar (Digits ExponentText)
open Text (isDigit)

/-- The texts of a natural number: digits, with a plus sign in front or not. -/
def NatText (n : Nat) (text : String) : Prop :=
  ∃ ds, Digits ds ∧ (text.toList = ds ∨ text.toList = '+' :: ds) ∧ n = Nat.ofDigitChars 10 ds 0

theorem digits_iff {ds : List Char} :
    Digits ds ↔ (ds.isEmpty || !ds.all isDigit) = false := by
  simp [Digits]

theorem head?_ne_of_digits {ds : List Char} (digits : Digits ds) {c : Char}
    (other : isDigit c = false) : ds.head? ≠ some c := by
  intro head
  have digit := digits.2 c (List.mem_of_mem_head? head)
  rw [other] at digit
  cases digit

/-- Characters without the plus sign in front. -/
def unsigned : List Char → List Char
  | '+' :: cs => cs
  | cs => cs

theorem unsigned_eq_iff {cs ds : List Char} (digits : Digits ds) :
    unsigned cs = ds ↔ cs = ds ∨ cs = '+' :: ds := by
  rw [unsigned.eq_def]
  split
  · next rest =>
    rw [List.cons.injEq]
    refine ⟨fun same => .inr ⟨rfl, same⟩, fun either => ?_⟩
    rcases either with rfl | ⟨-, same⟩
    · exact absurd rfl (head?_ne_of_digits digits (by decide))
    · exact same
  · next plain =>
    exact ⟨.inl, fun either => either.resolve_right (plain ds)⟩

theorem natOfText?_eq (max : Nat) (text : String) :
    natOfText? max text =
      if ((unsigned text.toList).isEmpty || !(unsigned text.toList).all isDigit) = true then none
      else if Nat.ofDigitChars 10 (unsigned text.toList) 0 ≤ max then
        some (Nat.ofDigitChars 10 (unsigned text.toList) 0)
      else none := rfl

theorem natOfText?_eq_some {max n : Nat} {text : String} :
    natOfText? max text = some n ↔ NatText n text ∧ n ≤ max := by
  have texts : NatText n text ↔
      Digits (unsigned text.toList) ∧ n = Nat.ofDigitChars 10 (unsigned text.toList) 0 := by
    constructor
    · rintro ⟨ds, digits, either, value⟩
      obtain rfl := (unsigned_eq_iff digits).mpr either
      exact ⟨digits, value⟩
    · intro ⟨digits, value⟩
      exact ⟨_, digits, (unsigned_eq_iff digits).mp rfl, value⟩
  rw [texts, natOfText?_eq, digits_iff]
  generalize unsigned text.toList = ds
  by_cases digits : (ds.isEmpty || !ds.all isDigit) = true
  · rw [if_pos digits, digits]
    exact iff_of_false nofun fun ⟨⟨other, _⟩, _⟩ => Bool.noConfusion other
  · rw [if_neg digits]
    by_cases le : Nat.ofDigitChars 10 ds 0 ≤ max
    · rw [if_pos le, Option.some_inj]
      constructor
      · rintro rfl
        exact ⟨⟨Bool.eq_false_iff.mpr digits, rfl⟩, le⟩
      · rintro ⟨⟨-, rfl⟩, -⟩
        rfl
    · rw [if_neg le]
      refine iff_of_false nofun ?_
      rintro ⟨⟨-, rfl⟩, fits⟩
      exact le fits

structure DecimalParts where
  negative : Bool
  whole : List Char
  fraction : List Char
  /-- Whether the exponent has a minus sign, and its digits, if there is an exponent. -/
  exponent : Option (Bool × List Char)

inductive SignText : Bool → List Char → Prop
  | none : SignText false []
  | plus : SignText false ['+']
  | minus : SignText true ['-']

/-- The texts of the digits after the point; without a point there are none. -/
inductive PointText : List Char → List Char → Prop
  | none : PointText [] []
  | some {ds : List Char} (digits : ∀ c ∈ ds, isDigit c = true) : PointText ds ('.' :: ds)

def exponentOf : Option (Bool × List Char) → Int
  | none => 0
  | some (negative, ds) =>
    let n : Int := Nat.ofDigitChars 10 ds 0
    if negative then -n else n

namespace DecimalParts

/-- The texts of a decimal. There is a digit before the point or after it. -/
def Text (d : DecimalParts) (cs : List Char) : Prop :=
  ∃ sign point exponent, SignText d.negative sign ∧ (∀ c ∈ d.whole, isDigit c = true) ∧
    PointText d.fraction point ∧ ExponentText d.exponent exponent ∧ d.whole ++ d.fraction ≠ [] ∧
    cs = sign ++ (d.whole ++ (point ++ exponent))

/-- The number of a format nearest to a decimal. -/
def value (d : DecimalParts) (f : Format) : Binary :=
  f.ofDecimal d.negative (Nat.ofDigitChars 10 (d.whole ++ d.fraction) 0)
    (exponentOf d.exponent - d.fraction.length)

end DecimalParts

theorem splitSign_sound {negative : Bool} {cs rest : List Char}
    (split : splitSign cs = (negative, rest)) :
    ∃ sign, SignText negative sign ∧ cs = sign ++ rest := by
  rw [splitSign.eq_def] at split
  split at split <;> cases split
  · exact ⟨_, .minus, rfl⟩
  · exact ⟨_, .plus, rfl⟩
  · exact ⟨_, .none, rfl⟩

theorem splitSign_of_text {negative : Bool} {sign rest : List Char}
    (text : SignText negative sign) (unsigned : rest.head? ≠ some '+' ∧ rest.head? ≠ some '-') :
    splitSign (sign ++ rest) = (negative, rest) := by
  cases text with
  | none =>
    rw [List.nil_append, splitSign.eq_def]
    split
    · exact absurd rfl unsigned.2
    · exact absurd rfl unsigned.1
    · rfl
  | plus => rfl
  | minus => rfl

theorem unsigned_of_digits {ds : List Char} (digits : Digits ds) :
    ds.head? ≠ some '+' ∧ ds.head? ≠ some '-' :=
  ⟨head?_ne_of_digits digits (by decide), head?_ne_of_digits digits (by decide)⟩

theorem exponentText_cons_iff {c : Char} {cs : List Char} {e : Option (Bool × List Char)} :
    ExponentText e (c :: cs) ↔ (c = 'e' ∨ c = 'E') ∧
      ∃ negative ds, e = some (negative, ds) ∧ Digits ds ∧ splitSign cs = (negative, ds) := by
  constructor
  · intro text
    cases text with
    | some letter digits =>
      have split := splitSign_of_text .none (unsigned_of_digits digits)
      exact ⟨letter, _, _, rfl, digits, split⟩
    | plus letter digits => exact ⟨letter, _, _, rfl, digits, rfl⟩
    | minus letter digits => exact ⟨letter, _, _, rfl, digits, rfl⟩
  · rintro ⟨letter, negative, ds, rfl, digits, split⟩
    obtain ⟨sign, text, rfl⟩ := splitSign_sound split
    cases text with
    | none => exact .some letter digits
    | plus => exact .plus letter digits
    | minus => exact .minus letter digits

theorem exponentOfChars?_eq_some {cs : List Char} {n : Int} :
    exponentOfChars? cs = some n ↔ ∃ e, ExponentText e cs ∧ n = exponentOf e := by
  cases cs with
  | nil =>
    constructor
    · rintro ⟨⟩
      exact ⟨none, .none, rfl⟩
    · rintro ⟨e, ⟨⟩, rfl⟩
      rfl
  | cons c cs =>
    rw [exponentOfChars?]
    by_cases letter : c = 'e' ∨ c = 'E'
    · rw [if_pos letter]
      rcases split : splitSign cs with ⟨negative, ds⟩
      dsimp only
      have texts {e : Option (Bool × List Char)} :
          ExponentText e (c :: cs) ↔ e = some (negative, ds) ∧ Digits ds := by
        rw [exponentText_cons_iff, split]
        constructor
        · rintro ⟨-, _, _, rfl, digits, ⟨⟩⟩
          exact ⟨rfl, digits⟩
        · rintro ⟨rfl, digits⟩
          exact ⟨letter, _, _, rfl, digits, rfl⟩
      simp only [texts, digits_iff]
      by_cases digits : (ds.isEmpty || !ds.all isDigit) = true
      · rw [if_pos digits, digits]
        exact iff_of_false nofun fun ⟨_, ⟨_, other⟩, _⟩ => Bool.noConfusion other
      · rw [if_neg digits, Option.some_inj]
        constructor
        · rintro rfl
          exact ⟨_, ⟨rfl, Bool.eq_false_iff.mpr digits⟩, rfl⟩
        · rintro ⟨e, ⟨rfl, -⟩, rfl⟩
          rfl
    · rw [if_neg letter]
      exact iff_of_false nofun fun ⟨_, text, _⟩ => letter (exponentText_cons_iff.mp text).1

/-- The digits behind a point, if the characters start with one, and the rest. -/
def splitPoint : List Char → List Char × List Char
  | '.' :: cs => (cs.takeWhile isDigit, cs.dropWhile isDigit)
  | cs => ([], cs)

/-- Digits up to the first character that is none. -/
theorem span_digits {ds rest : List Char} (digits : ∀ c ∈ ds, isDigit c = true)
    (stop : ∀ c, rest.head? = some c → isDigit c = false) :
    (ds ++ rest).takeWhile isDigit = ds ∧ (ds ++ rest).dropWhile isDigit = rest := by
  rw [List.takeWhile_append_of_pos digits, List.dropWhile_append_of_pos digits]
  cases rest with
  | nil => exact ⟨List.append_nil ds, rfl⟩
  | cons c rest =>
    have other : ¬ isDigit c = true := by simp [stop c rfl]
    rw [List.takeWhile_cons_of_neg other, List.dropWhile_cons_of_neg other]
    exact ⟨List.append_nil ds, rfl⟩

theorem splitPoint_sound (cs : List Char) :
    ∃ point, PointText (splitPoint cs).1 point ∧ cs = point ++ (splitPoint cs).2 := by
  rw [splitPoint.eq_def]
  split
  · next cs =>
    have whole : cs.takeWhile isDigit ++ cs.dropWhile isDigit = cs :=
      List.takeWhile_append_dropWhile
    refine ⟨_, .some fun c member => List.mem_takeWhile_imp member, ?_⟩
    rw [List.cons_append, whole]
  · exact ⟨_, .none, rfl⟩

theorem splitPoint_of_text {fraction point rest : List Char} (text : PointText fraction point)
    (stop : ∀ c, rest.head? = some c → isDigit c = false ∧ c ≠ '.') :
    splitPoint (point ++ rest) = (fraction, rest) := by
  cases text with
  | none =>
    rw [List.nil_append, splitPoint.eq_def]
    split
    · exact absurd rfl (stop '.' rfl).2
    · rfl
  | some digits =>
    obtain ⟨taken, left⟩ := span_digits digits fun c head => (stop c head).1
    rw [List.cons_append, splitPoint, taken, left]

theorem head?_exponent {e : Option (Bool × List Char)} {cs : List Char} (text : ExponentText e cs) :
    ∀ c, cs.head? = some c → isDigit c = false ∧ c ≠ '.' := by
  intro c first
  cases text with
  | none => cases first
  | some letter | plus letter | minus letter =>
    cases first
    rcases letter with rfl | rfl <;> decide

theorem head?_point {fraction point rest : List Char} (text : PointText fraction point)
    (stop : ∀ c, rest.head? = some c → isDigit c = false) :
    ∀ c, (point ++ rest).head? = some c → isDigit c = false := by
  intro c first
  cases text with
  | none => exact stop c first
  | some _ =>
    cases first
    rfl

theorem ofText?_eq (f : Format) (text : String) :
    f.ofText? text =
      let (negative, cs) := splitSign text.toList
      let word := String.ofList (cs.map Char.toLower)
      if word = "inf" ∨ word = "infinity" then some (.infinite negative)
      else if word = "nan" then some .nan
      else
        let (fraction, rest) := splitPoint (cs.dropWhile isDigit)
        if (cs.takeWhile isDigit ++ fraction).isEmpty then none
        else (exponentOfChars? rest).map fun e =>
          f.ofDecimal negative (Nat.ofDigitChars 10 (cs.takeWhile isDigit ++ fraction) 0)
            (e - fraction.length) := by
  rw [Format.ofText?]
  rfl

theorem ofText?_sound {f : Format} {text : String} {x : Binary} (read : f.ofText? text = some x)
    (finite : x.isFinite = true) : ∃ d : DecimalParts, d.Text text.toList ∧ x = d.value f := by
  rw [ofText?_eq] at read
  rcases signed : splitSign text.toList with ⟨negative, cs⟩
  obtain ⟨sign, signText, chars⟩ := splitSign_sound signed
  rw [signed] at read
  dsimp only at read
  split at read
  · cases read
    cases finite
  · split at read
    · cases read
      cases finite
    · obtain ⟨point, pointText, behind⟩ := splitPoint_sound (cs.dropWhile isDigit)
      rcases pointed : splitPoint (cs.dropWhile isDigit) with ⟨fraction, rest⟩
      rw [pointed] at read pointText behind
      dsimp only at read pointText behind
      split at read
      · cases read
      · next some =>
        obtain ⟨n, exponent, value⟩ := Option.map_eq_some_iff.mp read
        obtain ⟨e, exponentText, rfl⟩ := exponentOfChars?_eq_some.mp exponent
        refine ⟨⟨negative, cs.takeWhile isDigit, fraction, e⟩, ?_, value.symm⟩
        refine ⟨sign, point, rest, signText, fun c member => List.mem_takeWhile_imp member,
          pointText, exponentText, by simpa using some, ?_⟩
        rw [chars, ← behind, List.takeWhile_append_dropWhile]

/-- A decimal does not start with a sign or a letter, apart from its sign. -/
theorem DecimalParts.head?_body {d : DecimalParts} {point : List Char} (rest : List Char)
    (whole : ∀ c ∈ d.whole, isDigit c = true) (pointText : PointText d.fraction point)
    (some : d.whole ++ d.fraction ≠ []) :
    ∃ c, (d.whole ++ (point ++ rest)).head? = Option.some c ∧ (isDigit c = true ∨ c = '.') := by
  cases digits : d.whole with
  | cons c others =>
    have digit : isDigit c = true := whole c (by rw [digits]; exact List.mem_cons_self)
    exact ⟨c, rfl, .inl digit⟩
  | nil =>
    rw [digits, List.nil_append] at some
    generalize d.fraction = fraction at pointText some
    cases pointText with
    | none => exact absurd rfl some
    | some _ => exact ⟨'.', rfl, .inr rfl⟩

theorem toLower_of_digit {c : Char} (low : isDigit c = true ∨ c = '.') : c.toLower = c := by
  rcases low with digit | rfl
  · rw [isDigit, Bool.and_eq_true, decide_eq_true_iff, decide_eq_true_iff] at digit
    have bound : c.val ≤ 57 := digit.2
    have small : ¬ (c.val ≥ 'A'.val ∧ c.val ≤ 'Z'.val) := by
      intro ⟨large, _⟩
      exact absurd (UInt32.le_trans large bound) (by decide)
    exact dif_neg small
  · rfl

/-- A name has a letter in front. -/
theorem ne_name {cs : List Char} {c : Char} (head : cs.head? = some c)
    (low : isDigit c = true ∨ c = '.') {name : String} (letter : Char)
    (starts : name.toList.head? = some letter) (other : isDigit letter = false ∧ letter ≠ '.') :
    String.ofList (cs.map Char.toLower) ≠ name := by
  rintro rfl
  rw [String.toList_ofList, List.head?_map, head, Option.map_some, toLower_of_digit low] at starts
  cases starts
  rcases low with digit | point
  · rw [other.1] at digit
    cases digit
  · exact other.2 point

theorem ofText?_of_text {d : DecimalParts} (f : Format) {text : String}
    (written : d.Text text.toList) : f.ofText? text = some (d.value f) := by
  obtain ⟨sign, point, rest, signText, whole, pointText, exponentText, some, chars⟩ := written
  obtain ⟨c, head, low⟩ := DecimalParts.head?_body rest whole pointText some
  have unsigned : ∀ {other : Char}, isDigit other = false ∧ other ≠ '.' →
      (d.whole ++ (point ++ rest)).head? ≠ Option.some other := by
    intro other apart same
    rw [head, Option.some_inj] at same
    subst same
    rcases low with digit | point
    · rw [apart.1] at digit
      cases digit
    · exact apart.2 point
  -- Behind its sign a decimal has a digit or a point in front: no second sign, and no name.
  have split := splitSign_of_text signText ⟨unsigned (by decide), unsigned (by decide)⟩
  have letter := head?_exponent exponentText
  have behind := head?_point pointText fun c first => (letter c first).1
  obtain ⟨taken, left⟩ := span_digits whole behind
  have exponent := exponentOfChars?_eq_some.mpr ⟨_, exponentText, rfl⟩
  rw [ofText?_eq, chars, split]
  dsimp only
  rw [if_neg, if_neg, taken, left, splitPoint_of_text pointText letter]
  · dsimp only
    rw [if_neg (by simpa using some), exponent]
    rfl
  · exact ne_name head low 'n' rfl (by decide)
  · intro named
    rcases named with inf | infinity
    · exact ne_name head low 'i' rfl (by decide) inf
    · exact ne_name head low 'i' rfl (by decide) infinity

/-- The finite numbers that texts are read as. -/
theorem ofText?_finite_iff {f : Format} {text : String} {x : Binary} :
    (f.ofText? text = some x ∧ x.isFinite = true) ↔
      ∃ d : DecimalParts, d.Text text.toList ∧ x = d.value f ∧ x.isFinite = true := by
  constructor
  · intro ⟨read, finite⟩
    obtain ⟨d, written, value⟩ := ofText?_sound read finite
    exact ⟨d, written, value, finite⟩
  · rintro ⟨d, written, rfl, finite⟩
    exact ⟨ofText?_of_text f written, finite⟩

end NodeGroups.Numeric
