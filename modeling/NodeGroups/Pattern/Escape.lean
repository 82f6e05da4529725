import NodeGroups.Pattern.Syntax
import NodeGroups.Text.Blank
import NodeGroups.Text.Digit

set_option autoImplicit false

namespace NodeGroups.Pattern

/-- Drops blanks, and comments from a hash sign to the end of its line. -/
def skipIgnored : (inComment : Bool) → List Char → List Char
  | _, [] => []
  | true, c :: cs => skipIgnored (c != '\n') cs
  | false, c :: cs =>
    if Text.isBlank c then skipIgnored false cs
    else if c = '#' then skipIgnored true cs
    else c :: cs

/-- Drops what is ignored in front of the next character. -/
def skip (verbose : Bool) (cs : List Char) : List Char :=
  if verbose then skipIgnored false cs else cs

/-- Reads a code of so many hexadecimal digits; `n` is the value of those before. -/
def readFixedCode (verbose : Bool) : Nat → (n : Nat) → List Char → Option (Nat × List Char)
  | 0, n, cs => some (n, cs)
  | _ + 1, _, [] => none
  | count + 1, n, c :: cs =>
    match Text.hexValue? c with
    | some d => readFixedCode verbose count (n * 16 + d) (skip verbose cs)
    | none => none

/-- Takes the characters up to a closing brace, which is dropped; `fuel` bounds their number. -/
def takeBraced (verbose : Bool) : (fuel : Nat) → List Char → Option (List Char × List Char)
  | 0, _ => none
  | fuel + 1, cs =>
    match skip verbose cs with
    | [] => none
    | '\x7d' :: cs => some ([], cs)
    | c :: cs => (takeBraced verbose fuel cs).map fun (name, rest) => (c :: name, rest)

/-- Reads a code: digits in braces, or so many of them. -/
def readCode (verbose : Bool) (digits : Nat) (cs : List Char) : Option (Literal × List Char) :=
  match skip verbose cs with
  | [] => none
  | '\x7b' :: cs => do
    let (inside, rest) ← takeBraced verbose (cs.length + 1) cs
    let c ← Text.charOfCode? (← Text.natOfDigits? 16 inside)
    return (⟨c, false⟩, rest)
  | cs => do
    let (n, rest) ← readFixedCode verbose digits 0 cs
    let c ← Text.charOfCode? n
    return (⟨c, digits == 2⟩, rest)

/-- Cuts a text at the first place where `separator` stands. -/
def splitAt? (separator : List Char) : List Char → Option (List Char × List Char)
  | [] => none
  | c :: cs =>
    if separator.isPrefixOf (c :: cs) then some ([], (c :: cs).drop separator.length)
    else (splitAt? separator cs).map fun (before, after) => (c :: before, after)

def propertyQuery (cs : List Char) : PropertyQuery :=
  let split := (splitAt? ['!', '='] cs).orElse fun _ =>
    (splitAt? [':'] cs).orElse fun _ => splitAt? ['='] cs
  match split with
  | some (property, value) => .value (String.ofList property) (String.ofList value)
  | none => .name (String.ofList cs)

/-- Reads the name of a property: a letter, or a text in braces. -/
def readProperty (verbose : Bool) (cs : List Char) : Option (PropertyQuery × List Char) :=
  match skip verbose cs with
  | [] => none
  | '\x7b' :: cs => do
    let (inside, rest) ← takeBraced verbose (cs.length + 1) cs
    return (propertyQuery inside, rest)
  | '\\' :: _ => none
  | c :: cs => some (.name (String.singleton c), cs)

/-- The characters that mean something in a pattern or a class of it. -/
def isMeta (c : Char) : Bool := "\\.+*?()|[]\x7b\x7d^$#&-~".toList.contains c

/-- The pattern of a text in which no character means anything but itself. -/
def escape (cs : List Char) : List Char :=
  cs.flatMap fun c => if isMeta c then ['\\', c] else [c]

/-- Whether a backslash before a character makes it a literal. -/
def isEscapable (c : Char) : Bool :=
  isMeta c || (c.toNat < 0x80 && !c.isAlphanum && c != '<' && c != '>')

/-- A letter or a hyphen, as the names of word boundaries have them. -/
def isBoundaryChar (c : Char) : Bool :=
  ('a' ≤ c && c ≤ 'z') || ('A' ≤ c && c ≤ 'Z') || c == '-'

/-- Reads the name of a kind of word boundary up to a closing brace. -/
def readBoundaryName (verbose : Bool) : (fuel : Nat) → List Char →
    Option (List Char × List Char)
  | 0, _ => none
  | _ + 1, [] => none
  | fuel + 1, c :: cs =>
    if c = '\x7d' then some ([], cs)
    else if isBoundaryChar c then
      (readBoundaryName verbose fuel (skip verbose cs)).map fun (name, rest) => (c :: name, rest)
    else none

def boundaryNames : List (String × Assertion) :=
  [("start", .wordStart), ("end", .wordEnd), ("start-half", .wordStartHalf),
    ("end-half", .wordEndHalf)]

/-- Reads what follows the escape of a word boundary: the name of a kind in braces, if a name stands
there; braces around anything else are left for a repetition. -/
def readBoundary (verbose : Bool) (cs : List Char) : Option (Assertion × List Char) :=
  match cs with
  | '\x7b' :: inside =>
    match skip verbose inside with
    | [] => none
    | c :: r =>
      if isBoundaryChar c then do
        let (name, rest) ← readBoundaryName verbose (r.length + 2) (c :: r)
        return (← boundaryNames.lookup (String.ofList name), rest)
      else some (.wordBoundary, cs)
  | _ => some (.wordBoundary, cs)

/-- A literal that is no byte. -/
def Syntax.ofChar (c : Char) : Syntax := .literal ⟨c, false⟩

/-- The characters of the escapes that stand for a control character. -/
def controlEscapes : List (Char × Char) :=
  [('a', '\x07'), ('f', '\x0c'), ('t', '\t'), ('n', '\n'), ('r', '\r'), ('v', '\x0b')]

def readEscape (verbose : Bool) : List Char → Option (Syntax × List Char)
  | [] => none
  | c :: cs =>
    match c with
    | 'x' => (readCode verbose 2 cs).map fun (l, r) => (.literal l, r)
    | 'u' => (readCode verbose 4 cs).map fun (l, r) => (.literal l, r)
    | 'U' => (readCode verbose 8 cs).map fun (l, r) => (.literal l, r)
    | 'p' => (readProperty verbose cs).map fun (q, r) => (.property false q, r)
    | 'P' => (readProperty verbose cs).map fun (q, r) => (.property true q, r)
    | 'd' => some (.perl false .digit, cs)
    | 'D' => some (.perl true .digit, cs)
    | 's' => some (.perl false .space, cs)
    | 'S' => some (.perl true .space, cs)
    | 'w' => some (.perl false .word, cs)
    | 'W' => some (.perl true .word, cs)
    | 'A' => some (.assertion .textStart, cs)
    | 'z' => some (.assertion .textEnd, cs)
    | 'b' => (readBoundary verbose cs).map fun (a, r) => (.assertion a, r)
    | 'B' => some (.assertion .notWordBoundary, cs)
    | '<' => some (.assertion .wordStart, cs)
    | '>' => some (.assertion .wordEnd, cs)
    | _ =>
      match controlEscapes.lookup c with
      | some control => some (.ofChar control, cs)
      | none => if isEscapable c then some (.ofChar c, cs) else none

end NodeGroups.Pattern
