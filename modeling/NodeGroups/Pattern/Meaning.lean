import NodeGroups.Pattern.PropertyName
import NodeGroups.Text.CaseFold

/-!
What a pattern matches, as a regular expression. A pattern starts out case-insensitive and in
Unicode; flags that it sets hold up to the end of the group they stand in. Without Unicode a part of
a pattern may hold ASCII characters only, and a pattern that cannot keep to that has no meaning.
-/

set_option autoImplicit false

namespace NodeGroups.Pattern

open Text (CharSet)

/-- The flags that are set at a place of a pattern. -/
structure Modes where
  caseInsensitive : Bool := true
  multiLine : Bool := false
  dotMatchesNewline : Bool := false
  swapGreed : Bool := false
  unicode : Bool := true
  carriageReturns : Bool := false

namespace Modes

/-- Sets or unsets a flag. Ignoring whitespace is no mode, since no whitespace is left to ignore. -/
def change (m : Modes) : Flag × Bool → Modes
  | (.caseInsensitive, b) => { m with caseInsensitive := b }
  | (.multiLine, b) => { m with multiLine := b }
  | (.dotMatchesNewline, b) => { m with dotMatchesNewline := b }
  | (.swapGreed, b) => { m with swapGreed := b }
  | (.unicode, b) => { m with unicode := b }
  | (.carriageReturns, b) => { m with carriageReturns := b }
  | (.ignoreWhitespace, _) => m

def changeAll (m : Modes) (changes : FlagChanges) : Modes := changes.foldl change m

/-- All case forms of ASCII letters. -/
def foldAscii (s : CharSet) : CharSet :=
  let hits := (List.range 26).filter fun i => s.containsCode (0x41 + i) || s.containsCode (0x61 + i)
  s.union (.ofRanges (hits.flatMap fun i => [(0x41 + i, 0x41 + i), (0x61 + i, 0x61 + i)]))

/-- All case forms, where case is of no account. -/
def fold (m : Modes) (s : CharSet) : CharSet :=
  if m.caseInsensitive then if m.unicode then Text.CaseFold.closure s else foldAscii s else s

/-- The other characters if `negated`; without Unicode there are none that could be named. -/
def negate? (m : Modes) (negated : Bool) (s : CharSet) : Option CharSet :=
  if negated then if m.unicode then some s.complement else none else some s

def literal? (m : Modes) (l : Literal) : Option Char :=
  if m.unicode || !l.byteEscape || l.char.toNat < 0x80 then some l.char else none

def code? (m : Modes) (l : Literal) : Option Nat :=
  if m.unicode || l.char.toNat < 0x80 then some l.char.toNat else none

def perl? (m : Modes) (negated : Bool) (c : PerlClass) : Option CharSet :=
  m.negate? negated (c.chars m.unicode)

def property? (m : Modes) (negated : Bool) (query : PropertyQuery) : Option CharSet :=
  if m.unicode then do m.negate? negated (m.fold (← query.chars?)) else none

def dot? (m : Modes) : Option CharSet :=
  if !m.unicode then none
  else if m.dotMatchesNewline then some .all
  else if m.carriageReturns then some (CharSet.complement ⟨#[(0x0A, 0x0A), (0x0D, 0x0D)]⟩)
  else some (CharSet.complement ⟨#[(0x0A, 0x0A)]⟩)

def look (m : Modes) : Assertion → Look
  | .lineStart => if m.multiLine then .lineStart m.carriageReturns else .textStart
  | .lineEnd => if m.multiLine then .lineEnd m.carriageReturns else .textEnd
  | .textStart => .textStart
  | .textEnd => .textEnd
  | .wordBoundary => .wordEdge m.unicode .either
  | .notWordBoundary => .wordEdge m.unicode .neither
  | .wordStart => .wordEdge m.unicode .start
  | .wordEnd => .wordEdge m.unicode .finish
  | .wordStartHalf => .wordEdge m.unicode .startHalf
  | .wordEndHalf => .wordEdge m.unicode .finishHalf

end Modes

def ClassOperator.apply : ClassOperator → CharSet → CharSet → CharSet
  | .intersection, a, b => a.inter b
  | .difference, a, b => a.diff b
  | .symmetricDifference, a, b => a.symmDiff b

mutual

def ClassItem.chars? (m : Modes) : ClassItem → Option CharSet
  | .literal l => (m.code? l).map fun n => ⟨#[(n, n)]⟩
  | .range first last => do return ⟨#[(← m.code? first, ← m.code? last)]⟩
  | .named negated ranges => m.negate? negated (m.fold (.ofRanges ranges))
  | .perl negated c => m.perl? negated c
  | .property negated query => m.property? negated query
  | .nested negated body => do m.negate? negated (m.fold (← body.chars? m))

/-- The characters of a class. Case is folded before classes are combined. -/
def ClassBody.chars? (m : Modes) : ClassBody → Option CharSet
  | .items items => (itemsChars? m items).map CharSet.ofRanges
  | .combine op left right => do
    return op.apply (m.fold (← left.chars? m)) (m.fold (← right.chars? m))

def itemsChars? (m : Modes) : List ClassItem → Option (List (Nat × Nat))
  | [] => some []
  | item :: items => do
    let s ← item.chars? m
    let rest ← itemsChars? m items
    return s.ranges.toList ++ rest

end

mutual

/-- The regular expression of a pattern, and the flags that are set after it. -/
def Syntax.regex? (m : Modes) : Syntax → Option (Regex × Modes)
  | .empty => some (.empty, m)
  | .flags changes => some (.empty, m.changeAll changes)
  | .literal l => (m.literal? l).map fun c => (.oneOf (m.fold (.single c)), m)
  | .dot => m.dot?.map fun s => (.oneOf s, m)
  | .assertion a => some (.look (m.look a), m)
  | .perl negated c => (m.perl? negated c).map fun s => (.oneOf s, m)
  | .property negated query => (m.property? negated query).map fun s => (.oneOf s, m)
  | .bracketed negated body => do
    return (.oneOf (← m.negate? negated (m.fold (← body.chars? m))), m)
  | .repetition sub min max greedy => do
    let (r, m) ← sub.regex? m
    return (.repeating r min max (greedy != m.swapGreed), m)
  | .group changes sub => do
    let (r, _) ← sub.regex? (m.changeAll changes)
    return (r, m)
  | .alternation branches => do
    let (rs, m) ← regexes? m branches
    return (.ofBranches rs, m)
  | .concatenation parts => do
    let (rs, m) ← regexes? m parts
    return (.ofSequence rs, m)

/-- The regular expressions of several patterns, flags that one sets holding in the next. -/
def regexes? (m : Modes) : List Syntax → Option (List Regex × Modes)
  | [] => some ([], m)
  | p :: ps => do
    let (r, m) ← p.regex? m
    let (rs, m) ← regexes? m ps
    return (r :: rs, m)

end

end NodeGroups.Pattern
