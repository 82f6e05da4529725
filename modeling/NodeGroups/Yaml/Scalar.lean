import NodeGroups.Text.Digit
import NodeGroups.Yaml.Cursor

set_option autoImplicit false

namespace NodeGroups.Yaml

/-- The blanks and line breaks between two words. -/
structure Gap where
  /-- The blanks before the first line break. -/
  blanks : List Char
  /-- The first line break. -/
  first : List Char
  /-- The other line breaks. -/
  others : List Char
  /-- A line break has been seen. -/
  broken : Bool

namespace Gap

def empty : Gap := ⟨[], [], [], false⟩

/-- What a gap stands for in the text of a scalar. -/
def text (g : Gap) : List Char :=
  if g.broken then
    if g.first.head? = some '\n' then if g.others.isEmpty then [' '] else g.others
    else g.first ++ g.others
  else g.blanks

/-- Reads a gap to its end. After a line break no tab may stand before the column `tabLimit`. -/
def read (tabLimit : Int) : (fuel : Nat) → Gap → Cursor → Option (Gap × Cursor)
  | 0, _, _ => none
  | fuel + 1, g, c =>
    match c.peek with
    | none => some (g, c)
    | some d =>
      if isBlank d then
        if g.broken then
          if d = '\t' ∧ (c.column : Int) < tabLimit then none
          else read tabLimit fuel g (c.skip 1)
        else read tabLimit fuel { g with blanks := g.blanks ++ [d] } (c.skip 1)
      else if isBreak d then
        if g.broken then
          read tabLimit fuel { g with others := g.others ++ c.breakText } c.skipLine
        else read tabLimit fuel ⟨[], c.breakText, [], true⟩ c.skipLine
      else some (g, c)

end Gap

/-- A character that ends a plain scalar inside brackets. -/
def isFlowIndicator (c : Char) : Bool :=
  c == ',' || c == '[' || c == ']' || c == '\x7b' || c == '\x7d'

/-- Reads a word of a plain scalar, up to a gap or a character that ends it. Inside brackets
(`flow`) a colon may not stand right before one of them, nor before a comma or a question mark. -/
def plainWord (flow : Bool) : (rest : List Char) → Option (List Char)
  | [] => some []
  | c :: cs =>
    if isGap (some c) then some []
    else if flow && c == ':' && cs.head?.any (fun d => isFlowIndicator d || d == '?') then none
    else if (c == ':' && isGap cs.head?) || (flow && isFlowIndicator c) then some []
    else (plainWord flow cs).map (c :: ·)

/-- Reads a plain scalar from after a word on. A line of it must reach the column `indent`, unless
it stands inside brackets. Also says whether the place after it is on another line. -/
def plainRest (flow : Bool) (indent : Int) :
    (fuel : Nat) → (text : List Char) → Cursor → Option ((List Char × Bool) × Cursor)
  | 0, _, _ => none
  | fuel + 1, text, c =>
    if c.peek.isNone || !isGap c.peek then some ((text, false), c)
    else do
      let (gap, next) ← Gap.read indent (c.rest.length + 1) .empty c
      if (!flow && (next.column : Int) < indent) || next.atDocumentMarker ||
          next.peek == some '#' then
        return ((text, gap.broken), next)
      else
        let word ← plainWord flow next.rest
        if word.isEmpty then return ((text, gap.broken), next)
        else plainRest flow indent fuel (text ++ gap.text ++ word) (next.skip word.length)

def plainScalar (flow : Bool) (indent : Int) (c : Cursor) :
    Option ((List Char × Bool) × Cursor) := do
  let word ← plainWord flow c.rest
  plainRest flow indent (c.rest.length + 1) word (c.skip word.length)

def escapes : List (Char × Char) :=
  [('0', '\x00'), ('a', '\x07'), ('b', '\x08'), ('t', '\t'), ('\t', '\t'), ('n', '\n'),
    ('v', '\x0b'), ('f', '\x0c'), ('r', '\r'), ('e', '\x1b'), (' ', ' '), ('"', '"'), ('/', '/'),
    ('\\', '\\'), ('N', '\x85'), ('_', '\xa0'), ('L', '\u2028'), ('P', '\u2029')]

/-- How many digits follow the escapes of a code. -/
def codeEscapes : List (Char × Nat) := [('x', 2), ('u', 4), ('U', 8)]

/-- The character with a code of so many hexadecimal digits. -/
def codedChar? (digits : Nat) (cs : List Char) : Option Char :=
  let ds := cs.take digits
  if ds.length < digits then none
  else Text.natOfDigits? 16 ds >>= Text.charOfCode?

/-- What an escape stands for, and how many characters it has after the backslash. -/
def escaped? : List Char → Option (Char × Nat)
  | [] => none
  | e :: cs =>
    match escapes.lookup e with
    | some c => some (c, 1)
    | none => do
      let digits ← codeEscapes.lookup e
      return (← codedChar? digits cs, digits + 1)

/-- Reads a word of a quoted scalar, up to a gap or the closing quote; also says whether a backslash
before the end of a line ended it. The characters come last first. -/
def quotedWord (single : Bool) :
    (fuel : Nat) → (word : List Char) → Cursor → Option ((List Char × Bool) × Cursor)
  | 0, _, _ => none
  | fuel + 1, word, c =>
    match c.rest with
    | [] => some ((word, false), c)
    | d :: ds =>
      if isGap (some d) then some ((word, false), c)
      else if single then
        if d = '\'' then
          if ds.head? = some '\'' then quotedWord single fuel ('\'' :: word) (c.skip 2)
          else some ((word, false), c)
        else quotedWord single fuel (d :: word) (c.skip 1)
      else if d = '"' then some ((word, false), c)
      else if d = '\\' then
        if ds.head?.any isBreak then some ((word, true), (c.skip 1).skipLine)
        else
          match escaped? ds with
          | some (e, length) => quotedWord single fuel (e :: word) (c.skip (length + 1))
          | none => none
      else quotedWord single fuel (d :: word) (c.skip 1)

/-- Reads a quoted scalar after its opening quote. -/
def quotedRest (single : Bool) :
    (fuel : Nat) → (text : List Char) → Cursor → Option (List Char × Cursor)
  | 0, _, _ => none
  | fuel + 1, text, c =>
    if c.atDocumentMarker || c.peek.isNone then none
    else do
      let ((word, broken), c) ← quotedWord single (c.rest.length + 1) [] c
      let text := text ++ word.reverse
      if c.peek == some (if single then '\'' else '"') then return (text, c.skip 1)
      else
        let (gap, c) ← Gap.read 0 (c.rest.length + 1) { Gap.empty with broken } c
        quotedRest single fuel (text ++ gap.text) c

def quotedScalar (single : Bool) (c : Cursor) : Option (List Char × Cursor) :=
  quotedRest single (c.rest.length + 1) [] (c.skip 1)

/-- What becomes of the line breaks at the end of a block. -/
inductive Chomping
  | strip
  | clip
  | keep
  deriving DecidableEq

def Chomping.ofSign? : Option Char → Option Chomping
  | some '+' => some .keep
  | some '-' => some .strip
  | _ => none

/-- The indentation that a digit stands for; zero is none. -/
def indentOfDigit? (c : Option Char) : Option (Option Nat) :=
  match c with
  | none => some none
  | some d =>
    if d = '0' then none
    else if '1' ≤ d ∧ d ≤ '9' then some (some (d.toNat - '0'.toNat))
    else some none

/-- Reads the chomping and the indentation of a block, in either order. -/
def blockHeader (c : Cursor) : Option ((Chomping × Option Nat) × Cursor) :=
  match Chomping.ofSign? c.peek with
  | some chomping => do
    let c := c.skip 1
    let step ← indentOfDigit? c.peek
    return ((chomping, step), if step.isSome then c.skip 1 else c)
  | none => do
    let step ← indentOfDigit? c.peek
    if step.isNone then return ((.clip, none), c)
    else
      let c := c.skip 1
      match Chomping.ofSign? c.peek with
      | some chomping => return ((chomping, step), c.skip 1)
      | none => return ((.clip, step), c)

/-- Passes over the empty lines of a block and the indentation of the line after them; without a
known indentation all spaces are passed over. Gives the line breaks and the deepest column reached.
-/
def blockBreaks (indent : Option Nat) :
    (fuel : Nat) → (breaks : List Char) → (deepest : Nat) → Cursor →
      Option ((List Char × Nat) × Cursor)
  | 0, _, _, _ => none
  | fuel + 1, breaks, deepest, c =>
    let room := match indent with
      | some n => n - c.column
      | none => c.rest.length
    let c := c.skip ((c.rest.take room).takeWhile (· == ' ')).length
    let deepest := Nat.max deepest c.column
    if indent.all (fun n => c.column < n) && c.peek == some '\t' then none
    else if c.peek.any isBreak then
      blockBreaks indent fuel (breaks ++ c.breakText) deepest c.skipLine
    else some ((breaks, deepest), c)

structure Block where
  text : List Char
  /-- The line break after the last line. -/
  lastBreak : List Char
  /-- The empty lines after that. -/
  breaks : List Char
  /-- The last line starts with a blank. -/
  blankStart : Bool

/-- Adds a line. Folding joins lines that do not start with a blank. -/
def Block.addLine (b : Block) (literal : Bool) (line lineBreak : List Char) : Block :=
  let blankStart := line.head?.any isBlank
  let joint :=
    if !literal && b.lastBreak.head? == some '\n' && !b.blankStart && !blankStart then
      if b.breaks.isEmpty then [' '] else []
    else b.lastBreak
  ⟨b.text ++ joint ++ b.breaks ++ line, lineBreak, [], blankStart⟩

/-- Reads the lines of a block that stand at its indentation. -/
def blockLines (literal : Bool) (indent : Nat) : (fuel : Nat) → Block → Cursor →
    Option (Block × Cursor)
  | 0, _, _ => none
  | fuel + 1, b, c =>
    if c.column = indent ∧ c.peek.isSome then do
      let line := c.rest.takeWhile fun d => !isBreak d
      let c := c.skip line.length
      let b := b.addLine literal line c.breakText
      let ((breaks, _), c) ← blockBreaks (some indent) (c.rest.length + 2) [] 0 c.skipLine
      blockLines literal indent fuel { b with breaks } c
    else some (b, c)

def Block.chomped (b : Block) : Chomping → List Char
  | .strip => b.text
  | .clip => b.text ++ b.lastBreak
  | .keep => b.text ++ b.lastBreak ++ b.breaks

/-- Reads a block after its indicator; `parent` is the indentation of what it stands in. -/
def blockScalar (literal : Bool) (parent : Int) (c : Cursor) : Option (List Char × Cursor) := do
  let ((chomping, step), c) ← blockHeader c
  let c := c.skipWhile isBlank
  let c := if c.peek == some '#' then c.skipToLineEnd else c
  if !isLineEnd c.peek then none
  else
    let c := c.skipLine
    let indent := step.map fun n => if 0 ≤ parent then parent.toNat + n else n
    let ((breaks, deepest), c) ← blockBreaks indent (c.rest.length + 2) [] 0 c
    let indent := indent.getD (Nat.max (Nat.max deepest (parent + 1).toNat) 1)
    let (b, c) ← blockLines literal indent (c.rest.length + 2) ⟨[], [], breaks, false⟩ c
    return (b.chomped chomping, c)

end NodeGroups.Yaml
