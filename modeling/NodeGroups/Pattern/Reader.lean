import NodeGroups.Pattern.Bracketed
import NodeGroups.Text.Unicode.Category
import NodeGroups.Text.Unicode.Property

set_option autoImplicit false

namespace NodeGroups.Pattern

/-- The largest number of repetitions that can be written. -/
def maxCount : Nat := Nat.pow 2 32 - 1

/-- Takes decimal digits, which may have ignored characters between them. -/
def takeCountDigits (verbose : Bool) : (fuel : Nat) → List Char → List Char × List Char
  | fuel + 1, c :: cs =>
    if Text.isDigit c then
      let (digits, rest) := takeCountDigits verbose fuel (skip verbose cs)
      (c :: digits, rest)
    else ([], c :: cs)
  | _, cs => ([], cs)

def readCount (verbose : Bool) (cs : List Char) : Option (Nat × List Char) :=
  let (digits, rest) := takeCountDigits verbose cs.length (cs.dropWhile Text.isBlank)
  let n := Nat.ofDigitChars 10 digits 0
  if digits.isEmpty ∨ maxCount < n then none
  else some (n, skip verbose (rest.dropWhile Text.isBlank))

/-- Reads the bounds of a repetition after the opening brace, up to the closing one. -/
def readBounds (verbose : Bool) (cs : List Char) : Option ((Nat × Option Nat) × List Char) := do
  let (min, rest) ← readCount verbose (skip verbose cs)
  match rest with
  | '\x7d' :: rest => return ((min, some min), rest)
  | ',' :: rest =>
    match skip verbose rest with
    | '\x7d' :: rest => return ((min, none), rest)
    | rest =>
      let (max, rest) ← readCount verbose rest
      match rest with
      | '\x7d' :: rest => if min ≤ max then return ((min, some max), rest) else none
      | _ => none
  | _ => none

/-- A question mark makes a repetition lazy. -/
def readGreed : List Char → Bool × List Char
  | '?' :: cs => (false, cs)
  | cs => (true, cs)

/-- Repeats the last of the parts, which come last first; there must be one that can be repeated. -/
def repeatLast (min : Nat) (max : Option Nat) (greedy : Bool) : List Syntax → Option (List Syntax)
  | [] => none
  | .flags _ :: _ => none
  | sub :: parts => some (.repetition sub min max greedy :: parts)

def readRepetition (verbose : Bool) (parts : List Syntax) (c : Char) (cs : List Char) :
    Option (List Syntax × List Char) := do
  let ((min, max), rest) ← match c with
    | '?' => some ((0, some 1), cs)
    | '*' => some ((0, none), cs)
    | '+' => some ((1, none), cs)
    | _ => (readBounds verbose cs).map fun (bounds, rest) => (bounds, skip verbose rest)
  let (greedy, rest) := readGreed rest
  return (← repeatLast min max greedy parts, rest)

/-- How a group opens: with flags that stay set, or with a sub-pattern that has flags of its own and
may have a name. -/
inductive Opening
  | setFlags (changes : FlagChanges)
  | group (changes : FlagChanges) (name : Option (List Char))

/-- Whether a character can be in the name of a group; fewer can be the first. -/
def isNameChar (first : Bool) (c : Char) : Bool :=
  c == '_' || Text.Property.alphabetic.contains c ||
    (!first && (c == '.' || c == '[' || c == ']' || Text.Category.number.contains c))

/-- Reads the name of a group up to a closing angle bracket. -/
def readGroupName (cs : List Char) : Option (List Char × List Char) :=
  let name := cs.takeWhile (· != '>')
  match name, cs.dropWhile (· != '>') with
  | first :: others, '>' :: rest =>
    if isNameChar true first && others.all (isNameChar false) then some (name, rest) else none
  | _, _ => none

/-- Reads flags up to a closing parenthesis or a colon, and says which it was (`true` for the
colon). Those after a minus sign are unset; no flag and no sign may come twice. -/
def readFlags (seen : FlagChanges) (negated justNegated : Bool) : List Char →
    Option ((FlagChanges × Bool) × List Char)
  | [] => none
  | c :: cs =>
    if c = ')' ∨ c = ':' then
      if justNegated then none else some ((seen.reverse, c == ':'), cs)
    else if c = '-' then
      if negated then none else readFlags seen true true cs
    else
      match Flag.ofLetter? c with
      | none => none
      | some f =>
        if seen.any (fun e => e.1 == f) then none
        else readFlags ((f, !negated) :: seen) negated false cs

def readOpening (verbose : Bool) (cs : List Char) : Option (Opening × List Char) :=
  match skip verbose cs with
  | '?' :: '=' :: _ | '?' :: '!' :: _ | '?' :: '<' :: '=' :: _ | '?' :: '<' :: '!' :: _ => none
  | '?' :: 'P' :: '<' :: cs | '?' :: '<' :: cs =>
    (readGroupName cs).map fun (name, rest) => (.group [] (some name), rest)
  | '?' :: cs =>
    match readFlags [] false false cs with
    | some (([], false), _) => none
    | some ((changes, false), rest) => some (.setFlags changes, rest)
    | some ((changes, true), rest) => some (.group changes none, rest)
    | none => none
  | cs => some (.group [] none, cs)

/-- Whether whitespace is ignored after flags were set. -/
def verboseAfter (changes : FlagChanges) (verbose : Bool) : Bool :=
  (changes.lookup .ignoreWhitespace).getD verbose

/-- Parts one after another; a part alone is just that. -/
def Syntax.ofParts : List Syntax → Syntax
  | [] => .empty
  | [part] => part
  | parts => .concatenation parts

/-- Branches side by side; a branch alone is just that. -/
def Syntax.ofBranches : List Syntax → Syntax
  | [branch] => branch
  | branches => .alternation branches

/-- Reads a part of a pattern that starts with a character without a meaning for groups, classes and
repetitions. -/
def readAtom (verbose : Bool) (c : Char) (cs : List Char) : Option (Syntax × List Char) :=
  match c with
  | '\\' => readEscape verbose cs
  | '.' => some (.dot, cs)
  | '^' => some (.assertion .lineStart, cs)
  | '$' => some (.assertion .lineEnd, cs)
  | _ => some (.ofChar c, cs)

/-- The branches and parts read so far, last ones first, and the names of groups. -/
structure Progress where
  branches : List Syntax
  parts : List Syntax
  names : List (List Char)

def Progress.done (p : Progress) : Syntax :=
  .ofBranches (.ofParts p.parts.reverse :: p.branches).reverse

def Progress.add (p : Progress) (part : Syntax) : Progress :=
  { p with parts := part :: p.parts }

/-- Reads a pattern up to a closing parenthesis, which stays, or the end; `fuel` exceeds the number
of characters. -/
def readPattern : (fuel : Nat) → (verbose : Bool) → Progress → List Char →
    Option ((Syntax × List (List Char)) × List Char)
  | 0, _, _, _ => none
  | fuel + 1, verbose, p, cs =>
    match skip verbose cs with
    | [] => some ((p.done, p.names), [])
    | ')' :: rest => some ((p.done, p.names), ')' :: rest)
    | '|' :: rest =>
      readPattern fuel verbose
        { p with branches := .ofParts p.parts.reverse :: p.branches, parts := [] } rest
    | '(' :: rest =>
      match readOpening verbose rest with
      | none => none
      | some (.setFlags changes, rest) =>
        readPattern fuel (verboseAfter changes verbose) (p.add (.flags changes)) rest
      | some (.group changes name, rest) =>
        if name.any p.names.contains then none
        else
          match readPattern fuel (verboseAfter changes verbose)
              ⟨[], [], name.toList ++ p.names⟩ rest with
          | some ((sub, names), ')' :: rest) =>
            readPattern fuel verbose { p.add (.group changes sub) with names } rest
          | _ => none
    | '[' :: rest =>
      match readClass verbose rest with
      | some (c, rest) => readPattern fuel verbose (p.add c) rest
      | none => none
    | c :: rest =>
      if c = '?' ∨ c = '*' ∨ c = '+' ∨ c = '\x7b' then
        match readRepetition verbose p.parts c rest with
        | some (parts, rest) => readPattern fuel verbose { p with parts } rest
        | none => none
      else
        match readAtom verbose c rest with
        | some (part, rest) => readPattern fuel verbose (p.add part) rest
        | none => none

def Syntax.parse? (text : List Char) : Option Syntax :=
  match readPattern (text.length + 1) false ⟨[], [], []⟩ text with
  | some ((p, _), []) => if p.depth ≤ maxDepth then some p else none
  | _ => none

end NodeGroups.Pattern
