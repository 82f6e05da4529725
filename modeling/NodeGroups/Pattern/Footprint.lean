import NodeGroups.Pattern.Regex

set_option autoImplicit false

namespace NodeGroups.Pattern

open Text (CharSet)

def utf8Bytes (n : Nat) : List Nat :=
  if n < 0x80 then [n]
  else if n < 0x800 then [0xC0 + n / 0x40, 0x80 + n % 0x40]
  else if n < 0x10000 then [0xE0 + n / 0x1000, 0x80 + n / 0x40 % 0x40, 0x80 + n % 0x40]
  else [0xF0 + n / 0x40000, 0x80 + n / 0x1000 % 0x40, 0x80 + n / 0x40 % 0x40, 0x80 + n % 0x40]

/-- Cuts a range in two in front of a code point. -/
def cutAt (point : Nat) (r : Nat × Nat) : List (Nat × Nat) :=
  if r.1 < point ∧ point ≤ r.2 then [(r.1, point - 1), (point, r.2)] else [r]

/-- Splits a range of characters of one length in UTF-8, whose last `6 * depth` bits may differ
freely, into ranges whose bytes range independently of each other. -/
def splitBytes : (depth : Nat) → Nat × Nat → List (Nat × Nat)
  | 0, r => [r]
  | depth + 1, (lo, hi) =>
    let block := Nat.pow 2 (6 * (depth + 1))
    if lo / block = hi / block then splitBytes depth (lo, hi)
    else
      let low := if lo % block = 0 then lo else (lo / block + 1) * block
      let high := if hi % block = block - 1 then hi + 1 else hi / block * block
      (if lo < low then splitBytes depth (lo, low - 1) else []) ++
        (if low < high then [(low, high - 1)] else []) ++
        (if high ≤ hi then splitBytes depth (high, hi) else [])

/-- The byte ranges, first byte first, of the characters of a set. -/
def byteRanges (s : CharSet) : List (List (Nat × Nat)) :=
  let parts := s.ranges.toList.flatMap fun r =>
    [0x80, 0x800, 0xD800, 0xE000, 0x10000].foldl (fun rs point => rs.flatMap (cutAt point)) [r]
  let chars := parts.filter fun r => r.2 < 0xD800 || 0xE000 ≤ r.1
  (chars.flatMap (splitBytes 3)).map fun r => (utf8Bytes r.1).zip (utf8Bytes r.2)

/-- How many items two lists have in common at their fronts. -/
def sharedLength {α : Type} [DecidableEq α] : List α → List α → Nat
  | a :: as, b :: bs => if a = b then sharedLength as bs + 1 else 0
  | _, _ => 0

/-- The nodes of the tree of sorted lists, given the list before them. -/
def treeSize {α : Type} [DecidableEq α] (previous : List α) : List (List α) → Nat
  | [] => 0
  | l :: ls => l.length - sharedLength previous l + treeSize l ls

def stateSize : Nat := 32

/-- The bytes that a set takes: one character is a row of states, a set of ASCII characters one
state with a transition a range, and any other set a tree of byte ranges. -/
def setFootprint (s : CharSet) : Nat :=
  match s.ranges.toList with
  | [(lo, hi)] =>
    if lo = hi then stateSize * (utf8Bytes lo).length else general s
  | _ => general s
where
  /-- The bytes of a set of several characters. -/
  general (s : CharSet) : Nat :=
    if s.ranges.all (fun r => r.2 < 0x80) then 2 * stateSize + 8 * s.ranges.size
    else
      let sequences := byteRanges s
      2 * stateSize + 4 * sequences.length + stateSize * treeSize [] sequences

def Regex.footprint : Regex → Nat
  | .empty => stateSize
  | .oneOf chars => setFootprint chars
  | .look _ => stateSize
  | .seq a b => a.footprint + b.footprint
  | .either a b => a.footprint + b.footprint + stateSize + 8
  | .repeated sub min (some max) _ =>
    let one := sub.footprint
    Nat.max (min * one) stateSize + stateSize + (max - min) * (one + stateSize + 8)
  | .repeated sub min none _ =>
    Nat.max min 1 * sub.footprint + (if min = 0 ∧ sub.nullable then 3 else 1) * (stateSize + 8)

/-- The most that a pattern may take. -/
def maxFootprint : Nat := 10 * Nat.pow 2 20

end NodeGroups.Pattern
