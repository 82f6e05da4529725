import NodeGroups.Pattern.Escape

set_option autoImplicit false

namespace NodeGroups.Pattern

/-- The classes with a name, as ranges of ASCII codes. -/
def namedClasses : List (String × List (Nat × Nat)) :=
  [("alnum", [(0x30, 0x39), (0x41, 0x5A), (0x61, 0x7A)]),
    ("alpha", [(0x41, 0x5A), (0x61, 0x7A)]),
    ("ascii", [(0, 0x7F)]),
    ("blank", [(9, 9), (0x20, 0x20)]),
    ("cntrl", [(0, 0x1F), (0x7F, 0x7F)]),
    ("digit", [(0x30, 0x39)]),
    ("graph", [(0x21, 0x7E)]),
    ("lower", [(0x61, 0x7A)]),
    ("print", [(0x20, 0x7E)]),
    ("punct", [(0x21, 0x2F), (0x3A, 0x40), (0x5B, 0x60), (0x7B, 0x7E)]),
    ("space", [(9, 13), (0x20, 0x20)]),
    ("upper", [(0x41, 0x5A)]),
    ("word", [(0x30, 0x39), (0x41, 0x5A), (0x5F, 0x5F), (0x61, 0x7A)]),
    ("xdigit", [(0x30, 0x39), (0x41, 0x46), (0x61, 0x66)])]

/-- Reads a named class after its opening bracket, up to its closing one. -/
def readNamed? : List Char → Option (ClassItem × List Char)
  | ':' :: cs =>
    let (negated, cs) := match cs with
      | '^' :: cs => (true, cs)
      | cs => (false, cs)
    match cs.dropWhile (· != ':') with
    | ':' :: ']' :: rest =>
      (namedClasses.lookup (String.ofList (cs.takeWhile (· != ':')))).map fun ranges =>
        (.named negated ranges, rest)
    | _ => none
  | _ => none

def readClassAtom (verbose : Bool) : List Char → Option (Syntax × List Char)
  | [] => none
  | '\\' :: cs => readEscape verbose cs
  | c :: cs => some (.ofChar c, cs)

/-- What an escape stands for as an item of a class, if it can be one. -/
def Syntax.classItem? : Syntax → Option ClassItem
  | .literal l => some (.literal l)
  | .perl negated c => some (.perl negated c)
  | .property negated query => some (.property negated query)
  | _ => none

/-- The literal that an end of a range stands for. -/
def Syntax.literal? : Syntax → Option Literal
  | .literal l => some l
  | _ => none

/-- The character after the one at the front, less what is ignored. -/
def peek (verbose : Bool) (cs : List Char) : Option Char :=
  let rest := cs.tail
  if verbose then
    match rest.dropWhile Text.isBlank with
    | '#' :: cs => (cs.dropWhile Text.isBlank).head?
    | cs => cs.head?
  else rest.head?

/-- Reads an item of a class or a range. A hyphen makes a range unless another hyphen or the closing
bracket follows it. -/
def readClassRange (verbose : Bool) (cs : List Char) : Option (ClassItem × List Char) := do
  let (first, rest) ← readClassAtom verbose cs
  match skip verbose rest with
  | [] => none
  | c :: r =>
    let after := peek verbose (c :: r)
    if c ≠ '-' ∨ after = some ']' ∨ after = some '-' then return (← first.classItem?, c :: r)
    else
      let (second, rest) ← readClassAtom verbose (skip verbose r)
      let low ← first.literal?
      let high ← second.literal?
      if low.char ≤ high.char then return (.range low high, rest) else none

/-- The operator that is written as a character twice. -/
def ClassOperator.ofChar? : Char → Option ClassOperator
  | '&' => some .intersection
  | '-' => some .difference
  | '~' => some .symmetricDifference
  | _ => none

/-- A class still to be read: what stands before the last operator, and the items since, last one
first. -/
structure OpenClass where
  combined : Option (ClassOperator × ClassBody)
  items : List ClassItem

def OpenClass.body (c : OpenClass) : ClassBody :=
  let items := ClassBody.items c.items.reverse
  match c.combined with
  | some (op, left) => .combine op left items
  | none => items

/-- Takes the hyphens at the front of a class as literals. -/
def leadingHyphens (verbose : Bool) : (fuel : Nat) → List Char → List ClassItem × List Char
  | fuel + 1, '-' :: cs =>
    let (items, rest) := leadingHyphens verbose fuel (skip verbose cs)
    (.literal ⟨'-', false⟩ :: items, rest)
  | _, cs => ([], cs)

/-- Reads the opening of a class after its bracket: whether it is negated, and what cannot be
anything but literals there, which are hyphens, or a closing bracket. -/
def readClassOpening (verbose : Bool) (cs : List Char) : Bool × OpenClass × List Char :=
  let (negated, cs) := match skip verbose cs with
    | '^' :: cs => (true, skip verbose cs)
    | cs => (false, cs)
  match leadingHyphens verbose cs.length cs with
  | ([], ']' :: cs) => (negated, ⟨none, [.literal ⟨']', false⟩]⟩, skip verbose cs)
  | (hyphens, cs) => (negated, ⟨none, hyphens⟩, cs)

/-- Reads a class up to its closing bracket; `fuel` exceeds the number of characters. -/
def readClassBody (verbose : Bool) : (fuel : Nat) → OpenClass → List Char →
    Option (ClassBody × List Char)
  | 0, _, _ => none
  | fuel + 1, opened, cs =>
    match skip verbose cs with
    | [] => none
    | ']' :: rest => some (opened.body, rest)
    | '[' :: rest =>
      match readNamed? rest with
      | some (item, rest) =>
        readClassBody verbose fuel { opened with items := item :: opened.items } rest
      | none => do
        let (negated, inner, rest) := readClassOpening verbose rest
        let (body, rest) ← readClassBody verbose fuel inner rest
        readClassBody verbose fuel
          { opened with items := .nested negated body :: opened.items } rest
    | c :: rest =>
      match ClassOperator.ofChar? c, rest with
      | some op, d :: rest' =>
        if c = d then readClassBody verbose fuel ⟨some (op, opened.body), []⟩ rest'
        else do
          let (item, rest) ← readClassRange verbose (c :: rest)
          readClassBody verbose fuel { opened with items := item :: opened.items } rest
      | _, _ => do
        let (item, rest) ← readClassRange verbose (c :: rest)
        readClassBody verbose fuel { opened with items := item :: opened.items } rest

def readClass (verbose : Bool) (cs : List Char) : Option (Syntax × List Char) := do
  let (negated, opened, rest) := readClassOpening verbose cs
  let (body, rest) ← readClassBody verbose (cs.length + 1) opened rest
  return (.bracketed negated body, rest)

end NodeGroups.Pattern
