import NodeGroups.Text.Digit

set_option autoImplicit false

namespace NodeGroups.Text

/-- A set of characters: increasing ranges of code points, both ends included. -/
structure CharSet where
  ranges : Array (Nat × Nat)
  deriving DecidableEq, Inhabited

namespace CharSet

/-- The largest code point. -/
def last : Nat := 0x10FFFF

def empty : CharSet := ⟨#[]⟩

/-- Adds a range to ranges that start no later, given last range first. -/
def addRange (acc : List (Nat × Nat)) (r : Nat × Nat) : List (Nat × Nat) :=
  match acc with
  | (lo, hi) :: rest => if r.1 ≤ hi + 1 then (lo, max hi r.2) :: rest else r :: acc
  | [] => [r]

/-- The set of ranges in any order. -/
def ofRanges (rs : List (Nat × Nat)) : CharSet :=
  ⟨((rs.mergeSort (fun a b => a.1 ≤ b.1)).foldl addRange []).reverse.toArray⟩

def single (c : Char) : CharSet := ⟨#[(c.toNat, c.toNat)]⟩

def all : CharSet := ⟨#[(0, last)]⟩

/-- The index of the first range from `lo` up to `hi` that does not end before `n`; `fuel` bounds
the number of halvings. -/
def seek (ranges : Array (Nat × Nat)) (n : Nat) : Nat → Nat → Nat → Nat
  | 0, lo, _ => lo
  | fuel + 1, lo, hi =>
    if hi ≤ lo then lo
    else
      let mid := (lo + hi) / 2
      match ranges[mid]? with
      | some r => if r.2 < n then seek ranges n fuel (mid + 1) hi else seek ranges n fuel lo mid
      | none => lo

def containsCode (s : CharSet) (n : Nat) : Bool :=
  match s.ranges[seek s.ranges n (s.ranges.size.log2 + 1) 0 s.ranges.size]? with
  | some r => r.1 ≤ n && n ≤ r.2
  | none => false

def contains (s : CharSet) (c : Char) : Bool := s.containsCode c.toNat

def union (a b : CharSet) : CharSet := ofRanges (a.ranges.toList ++ b.ranges.toList)

/-- The gaps between ranges, from a code point on. -/
def gaps (start : Nat) : List (Nat × Nat) → List (Nat × Nat)
  | [] => if start ≤ last then [(start, last)] else []
  | (lo, hi) :: rs => if start < lo then (start, lo - 1) :: gaps (hi + 1) rs else gaps (hi + 1) rs

def complement (s : CharSet) : CharSet := ⟨(gaps 0 s.ranges.toList).toArray⟩

def inter (a b : CharSet) : CharSet := (a.complement.union b.complement).complement

/-- The characters in the first set and not in the second. -/
def diff (a b : CharSet) : CharSet := a.inter b.complement

def symmDiff (a b : CharSet) : CharSet := (a.union b).diff (a.inter b)

/-- Reads the ranges of a table, separated by blanks: the code point of a single character, or two
with a minus sign between. `lo` is set once the minus sign was read, and `n` holds the digits since.
-/
def readTable (acc : List (Nat × Nat)) (lo n : Option Nat) : List Char → List (Nat × Nat)
  | [] => finish
  | c :: cs =>
    if c = ' ' ∨ c = '\n' then readTable finish none none cs
    else if c = '-' then readTable acc n none cs
    else readTable acc lo (some (n.getD 0 * 16 + (hexValue? c).getD 0)) cs
where
  /-- The ranges with the one that has just ended. -/
  finish : List (Nat × Nat) :=
    match lo, n with
    | some lo, some hi => (lo, hi) :: acc
    | none, some n => (n, n) :: acc
    | _, none => acc

/-- The set of a table: increasing ranges in upper case hexadecimal digits. -/
def ofTable (table : String) : CharSet :=
  ⟨(readTable [] none none table.toList).reverse.toArray⟩

end CharSet

end NodeGroups.Text
