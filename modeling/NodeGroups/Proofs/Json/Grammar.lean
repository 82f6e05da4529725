import NodeGroups.Json.Number
import NodeGroups.Json.Basic
import NodeGroups.Text.Digit

set_option autoImplicit false

namespace NodeGroups.Json.Grammar

/-- White space, or nothing. -/
def Blank (cs : List Char) : Prop := ∀ c ∈ cs, c = ' ' ∨ c = '\n' ∨ c = '\t' ∨ c = '\r'

def FourDigits (n : Nat) (ds : List Char) : Prop :=
  ∃ a b c d w x y z, ds = [a, b, c, d] ∧ Text.hexValue? a = some w ∧ Text.hexValue? b = some x ∧
    Text.hexValue? c = some y ∧ Text.hexValue? d = some z ∧
    n = ((w * 16 + x) * 16 + y) * 16 + z

/-- What may follow a backslash, and the character that it then stands for. -/
def shortEscapes : List (Char × Char) :=
  [('"', '"'), ('\\', '\\'), ('/', '/'), ('b', '\x08'), ('f', '\x0c'), ('n', '\n'), ('r', '\r'),
    ('t', '\t')]

inductive CharText (c : Char) : List Char → Prop
  | plain (visible : 0x20 ≤ c.toNat) (quote : c ≠ '"') (backslash : c ≠ '\\') : CharText c [c]
  | short (e : Char) (listed : (e, c) ∈ shortEscapes) : CharText c ['\\', e]
  | code (ds : List Char) (digits : FourDigits c.toNat ds) : CharText c ('\\' :: 'u' :: ds)
  /-- A character above the first 65536 as two escapes, each with half of its bits. -/
  | pair (hs ls : List Char) (wide : 0x10000 ≤ c.toNat)
      (high : FourDigits (0xD800 + (c.toNat - 0x10000) / 0x400) hs)
      (low : FourDigits (0xDC00 + (c.toNat - 0x10000) % 0x400) ls) :
      CharText c ('\\' :: 'u' :: hs ++ '\\' :: 'u' :: ls)

inductive CharsText : List Char → List Char → Prop
  | nil : CharsText [] []
  | cons {c : Char} {s t u : List Char} (first : CharText c t) (others : CharsText s u) :
      CharsText (c :: s) (t ++ u)

def StringText (s : String) (t : List Char) : Prop :=
  ∃ u, CharsText s.toList u ∧ t = '"' :: u ++ ['"']

def Digits (ds : List Char) : Prop := ds ≠ [] ∧ ∀ c ∈ ds, Text.isDigit c = true

inductive FractionText : Option (List Char) → List Char → Prop
  | none : FractionText none []
  | some {ds : List Char} (digits : Digits ds) : FractionText (some ds) ('.' :: ds)

inductive ExponentText : Option (Bool × List Char) → List Char → Prop
  | none : ExponentText none []
  | some {e : Char} {ds : List Char} (letter : e = 'e' ∨ e = 'E') (digits : Digits ds) :
      ExponentText (some (false, ds)) (e :: ds)
  | plus {e : Char} {ds : List Char} (letter : e = 'e' ∨ e = 'E') (digits : Digits ds) :
      ExponentText (some (false, ds)) (e :: '+' :: ds)
  | minus {e : Char} {ds : List Char} (letter : e = 'e' ∨ e = 'E') (digits : Digits ds) :
      ExponentText (some (true, ds)) (e :: '-' :: ds)

/-- The texts of a numeral. Its digits before the point are a single zero, or do not start with
one. -/
def NumeralText (n : Numeral) (t : List Char) : Prop :=
  Digits n.whole ∧ (n.whole = ['0'] ∨ n.whole.head? ≠ some '0') ∧
    ∃ f e, FractionText n.fraction f ∧ ExponentText n.exponent e ∧
      t = (if n.negative then ['-'] else []) ++ (n.whole ++ (f ++ e))

/-- What a part of a text stands for. -/
inductive Phrase
  | value (v : Json)
  /-- The items of an array, at least one, and its end. -/
  | items (xs : List Json)
  /-- The members of an object, at least one, in the order of the text, and its end. -/
  | members (ms : List (String × Json))

inductive PhraseText : Phrase → List Char → Prop
  | null : PhraseText (.value .null) ['n', 'u', 'l', 'l']
  | true : PhraseText (.value (.bool true)) ['t', 'r', 'u', 'e']
  | false : PhraseText (.value (.bool false)) ['f', 'a', 'l', 's', 'e']
  | number {n : Numeral} {v : Number} {t : List Char} (numeral : NumeralText n t)
      (stands : n.value? = some v) : PhraseText (.value (.number v)) t
  | string {s : String} {t : List Char} (text : StringText s t) : PhraseText (.value (.string s)) t
  | emptyArray {b : List Char} (blank : Blank b) :
      PhraseText (.value (.array [])) ('[' :: (b ++ [']']))
  | array {xs : List Json} {b t : List Char} (blank : Blank b) (items : PhraseText (.items xs) t) :
      PhraseText (.value (.array xs)) ('[' :: (b ++ t))
  | emptyObject {b : List Char} (blank : Blank b) :
      PhraseText (.value (.object [])) ('\x7b' :: (b ++ ['\x7d']))
  | object {ms order : List (String × Json)} {b t : List Char} (blank : Blank b)
      (members : PhraseText (.members order) t) (perm : order.Perm ms) :
      PhraseText (.value (.object ms)) ('\x7b' :: (b ++ t))
  | lastItem {x : Json} {t b : List Char} (item : PhraseText (.value x) t) (blank : Blank b) :
      PhraseText (.items [x]) (t ++ (b ++ [']']))
  | item {x : Json} {xs : List Json} {t b c u : List Char} (item : PhraseText (.value x) t)
      (before : Blank b) (after : Blank c) (others : PhraseText (.items xs) u) :
      PhraseText (.items (x :: xs)) (t ++ (b ++ ',' :: (c ++ u)))
  | lastMember {k : String} {x : Json} {kt a b t c : List Char} (key : StringText k kt)
      (before : Blank a) (after : Blank b) (value : PhraseText (.value x) t) (blank : Blank c) :
      PhraseText (.members [(k, x)]) (kt ++ (a ++ ':' :: (b ++ (t ++ (c ++ ['\x7d'])))))
  | member {k : String} {x : Json} {ms : List (String × Json)} {kt a b t c d u : List Char}
      (key : StringText k kt) (before : Blank a) (after : Blank b)
      (value : PhraseText (.value x) t) (behind : Blank c) (next : Blank d)
      (others : PhraseText (.members ms) u) :
      PhraseText (.members ((k, x) :: ms))
        (kt ++ (a ++ ':' :: (b ++ (t ++ (c ++ ',' :: (d ++ u))))))

/-- A text holds a value and nothing else but white space. -/
def TextOf (v : Json) (text : String) : Prop :=
  ∃ b t c, Blank b ∧ PhraseText (.value v) t ∧ Blank c ∧ text.toList = b ++ (t ++ c)

end NodeGroups.Json.Grammar
