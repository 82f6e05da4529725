import NodeGroups.Text.Unicode.Category
import NodeGroups.Text.Unicode.Property

set_option autoImplicit false

namespace NodeGroups.Pattern

open Text (CharSet)

inductive PerlClass
  | digit
  | space
  | word
  deriving DecidableEq

namespace PerlClass

def unicodeDigits : CharSet := Text.Category.decimalNumber

/-- Letters, marks, digits and connectors in Unicode. -/
def unicodeWord : CharSet :=
  .ofRanges <| [Text.Property.alphabetic, Text.Category.mark, Text.Category.decimalNumber,
    Text.Category.connectorPunctuation, Text.Property.joinControl].flatMap (·.ranges.toList)

/-- Letters, digits and the underscore in ASCII. -/
def asciiWord : CharSet := ⟨#[(0x30, 0x39), (0x41, 0x5A), (0x5F, 0x5F), (0x61, 0x7A)]⟩

/-- The characters of a class, in Unicode or in ASCII only. -/
def chars (unicode : Bool) : PerlClass → CharSet
  | .digit => if unicode then unicodeDigits else ⟨#[(0x30, 0x39)]⟩
  | .space => if unicode then Text.Property.whiteSpace else ⟨#[(9, 13), (0x20, 0x20)]⟩
  | .word => if unicode then unicodeWord else asciiWord

end PerlClass

/-- What is said about words at a place. -/
inductive WordEdge
  /-- A word starts or ends. -/
  | either
  /-- No word starts or ends. -/
  | neither
  | start
  | finish
  /-- No word stands before. -/
  | startHalf
  /-- No word stands after. -/
  | finishHalf
  deriving DecidableEq

inductive Look
  | textStart
  | textEnd
  /-- A line starts; with `returns`, a carriage return, a line feed or both in a row end a line, and
  otherwise a line feed. -/
  | lineStart (returns : Bool)
  | lineEnd (returns : Bool)
  | wordEdge (unicode : Bool) (edge : WordEdge)
  deriving DecidableEq

def isWord (unicode : Bool) (c : Option Char) : Bool :=
  c.any (PerlClass.word.chars unicode).contains

/-- Whether an edge is as said, if a word stands before and after or not. -/
def WordEdge.holds (before after : Bool) : WordEdge → Bool
  | .either => before != after
  | .neither => before == after
  | .start => !before && after
  | .finish => before && !after
  | .startHalf => !before
  | .finishHalf => !after

/-- Whether an assertion holds between two characters, which are absent at the ends of the text. -/
def Look.holds (before after : Option Char) : Look → Bool
  | .textStart => before.isNone
  | .textEnd => after.isNone
  | .lineStart false => before.isNone || before == some '\n'
  | .lineStart true =>
    before.isNone || before == some '\n' || (before == some '\r' && after != some '\n')
  | .lineEnd false => after.isNone || after == some '\n'
  | .lineEnd true =>
    after.isNone || after == some '\r' || (after == some '\n' && before != some '\r')
  | .wordEdge unicode edge => edge.holds (isWord unicode before) (isWord unicode after)

inductive Regex
  | empty
  | oneOf (chars : CharSet)
  | look (l : Look)
  | seq (first second : Regex)
  /-- The first branch is preferred. -/
  | either (first second : Regex)
  /-- More repetitions are preferred if `greedy`, and otherwise fewer. -/
  | repeated (sub : Regex) (min : Nat) (max : Option Nat) (greedy : Bool)

namespace Regex

/-- Whether an expression matches the empty text at some place. -/
def nullable : Regex → Bool
  | .empty => true
  | .oneOf chars => chars.ranges.isEmpty
  | .look _ => true
  | .seq a b => a.nullable && b.nullable
  | .either a b => a.nullable || b.nullable
  | .repeated sub min _ _ => min == 0 || sub.nullable

/-- Whether an expression can match nothing but the empty text. -/
def isEmptyOnly : Regex → Bool
  | .empty => true
  | .oneOf _ => false
  | .look _ => true
  | .seq a b => a.isEmptyOnly && b.isEmptyOnly
  | .either a b => a.isEmptyOnly && b.isEmptyOnly
  | .repeated sub _ _ _ => sub.isEmptyOnly

/-- A repetition. To repeat what matches only the empty text changes nothing after the first time.
-/
def repeating (sub : Regex) (min : Nat) (max : Option Nat) (greedy : Bool) : Regex :=
  let (min, max) :=
    if sub.isEmptyOnly then (Nat.min min 1, some ((max.map (Nat.min 1)).getD 1)) else (min, max)
  if max = some 0 then .empty
  else if min = 1 ∧ max = some 1 then sub
  else .repeated sub min max greedy

def ofSequence : List Regex → Regex
  | [] => .empty
  | [r] => r
  | r :: rs => .seq r (ofSequence rs)

/-- Expressions to choose from; an earlier one is preferred. -/
def ofBranches : List Regex → Regex
  | [] => .oneOf .empty
  | [r] => r
  | r :: rs => .either r (ofBranches rs)

end Regex

end NodeGroups.Pattern
