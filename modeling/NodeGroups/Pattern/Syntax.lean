import NodeGroups.Pattern.Regex

set_option autoImplicit false

namespace NodeGroups.Pattern

/-- The flags that a pattern can set for a part of itself. -/
inductive Flag
  | caseInsensitive
  | multiLine
  | dotMatchesNewline
  | swapGreed
  | unicode
  | carriageReturns
  | ignoreWhitespace
  deriving DecidableEq

def Flag.ofLetter? : Char → Option Flag
  | 'i' => some .caseInsensitive
  | 'm' => some .multiLine
  | 's' => some .dotMatchesNewline
  | 'U' => some .swapGreed
  | 'u' => some .unicode
  | 'R' => some .carriageReturns
  | 'x' => some .ignoreWhitespace
  | _ => none

abbrev FlagChanges := List (Flag × Bool)

/-- How a class names a property of characters: by one name, or by a property and its value. -/
inductive PropertyQuery
  | name (name : String)
  | value (property value : String)
  deriving DecidableEq

inductive Assertion
  | lineStart
  | lineEnd
  | textStart
  | textEnd
  | wordBoundary
  | notWordBoundary
  | wordStart
  | wordEnd
  | wordStartHalf
  | wordEndHalf
  deriving DecidableEq

/-- How two classes are combined. -/
inductive ClassOperator
  | intersection
  | difference
  | symmetricDifference
  deriving DecidableEq

/-- A literal character; `byteEscape` if it is written as a code of two hexadecimal digits. -/
structure Literal where
  char : Char
  byteEscape : Bool

mutual

inductive ClassItem
  | literal (l : Literal)
  | range (first last : Literal)
  | named (negated : Bool) (ranges : List (Nat × Nat))
  | perl (negated : Bool) (c : PerlClass)
  | property (negated : Bool) (query : PropertyQuery)
  | nested (negated : Bool) (body : ClassBody)

inductive ClassBody
  | items (items : List ClassItem)
  | combine (op : ClassOperator) (left right : ClassBody)

end

inductive Syntax
  | empty
  | flags (changes : FlagChanges)
  | literal (l : Literal)
  | dot
  | assertion (a : Assertion)
  | perl (negated : Bool) (c : PerlClass)
  | property (negated : Bool) (query : PropertyQuery)
  | bracketed (negated : Bool) (body : ClassBody)
  | repetition (sub : Syntax) (min : Nat) (max : Option Nat) (greedy : Bool)
  | group (changes : FlagChanges) (sub : Syntax)
  | alternation (branches : List Syntax)
  | concatenation (parts : List Syntax)

/-- Patterns may not nest deeper than this. -/
def maxDepth : Nat := 250

mutual

def ClassItem.depth : ClassItem → Nat
  | .nested _ body => body.depth + 1
  | _ => 0

/-- How deep a class nests; several items, and a combination, are one level. -/
def ClassBody.depth : ClassBody → Nat
  | .items [item] => item.depth
  | .items [] => 0
  | .items items => itemsDepth items + 1
  | .combine _ left right => max left.depth right.depth + 1

def itemsDepth : List ClassItem → Nat
  | [] => 0
  | item :: items => max item.depth (itemsDepth items)

end

mutual

def Syntax.depth : Syntax → Nat
  | .bracketed _ body => body.depth + 1
  | .repetition sub _ _ _ => sub.depth + 1
  | .group _ sub => sub.depth + 1
  | .alternation branches => listDepth branches + 1
  | .concatenation parts => listDepth parts + 1
  | _ => 0

def listDepth : List Syntax → Nat
  | [] => 0
  | p :: ps => max p.depth (listDepth ps)

end

end NodeGroups.Pattern
