import NodeGroups.Yaml.Scalar

/-!
The tokens of a YAML text. Indentation becomes tokens that open and close blocks. That something is
the key of a mapping shows only at the colon after it, so the place of every possible key is kept
and the tokens that open the mapping and the key are put there once the colon is found.
-/

set_option autoImplicit false

namespace NodeGroups.Yaml

inductive Token
  | version (major minor : Nat)
  | tagDirective (handle expansion : String)
  | documentStart
  | documentEnd
  | sequenceStart
  | mappingStart
  | blockEnd
  | flowSequenceStart
  | flowSequenceEnd
  | flowMappingStart
  | flowMappingEnd
  | entry
  | comma
  | key
  | value
  | alias (name : String)
  | anchor (name : String)
  | tag (handle suffix : String)
  | scalar (plain : Bool) (text : String)
  deriving DecidableEq, Inhabited

/-- A place where a key may have started. -/
structure PossibleKey where
  /-- There must be a key, because the line continues a mapping. -/
  required : Bool
  /-- How many tokens come before it. -/
  tokens : Nat
  place : Cursor

structure Scanner where
  cursor : Cursor
  tokens : Array Token
  /-- The column of the innermost block, -1 outside of all blocks. -/
  indent : Int
  /-- The columns of the blocks around it. -/
  outer : List Int
  /-- The possible key outside of brackets and within each open bracket, innermost first. -/
  keys : List (Option PossibleKey)
  /-- A key may start here. -/
  keyAllowed : Bool

namespace Scanner

def start (text : List Char) : Scanner := ⟨.start text, #[], -1, [], [none], true⟩

def inFlow (s : Scanner) : Bool := 1 < s.keys.length

def emit (s : Scanner) (t : Token) : Scanner := { s with tokens := s.tokens.push t }

def skip (s : Scanner) (n : Nat) : Scanner := { s with cursor := s.cursor.skip n }

/-- Passes over what stands between tokens: blanks, comments and line breaks. Where a key may start
a tab is none of these. -/
def skipToToken : (fuel : Nat) → Scanner → Scanner
  | 0, s => s
  | fuel + 1, s =>
    let c := s.cursor.skipWhile fun d =>
      d == ' ' || ((s.inFlow || !s.keyAllowed) && d == '\t')
    let c := if c.peek == some '#' then c.skipToLineEnd else c
    if c.peek.any isBreak then
      skipToToken fuel
        { s with cursor := c.skipLine, keyAllowed := s.keyAllowed || !s.inFlow }
    else { s with cursor := c }

/-- How far a key may reach. -/
def maxKeyLength : Nat := 1024

/-- Gives up the possible keys that cannot be keys any more, since a key is short and on one line.
-/
def dropStale (s : Scanner) : Option Scanner := do
  let keys ← s.keys.mapM fun key =>
    match key with
    | none => some none
    | some k =>
      if k.place.line < s.cursor.line || k.place.index + maxKeyLength < s.cursor.index then
        if k.required then none else some none
      else some key
  return { s with keys }

/-- Gives up the innermost possible key. -/
def dropKey (s : Scanner) : Option Scanner :=
  match s.keys with
  | [] => some s
  | none :: _ => some s
  | some k :: rest => if k.required then none else some { s with keys := none :: rest }

/-- Keeps the place as that of a possible key, if a key may start here. -/
def saveKey (s : Scanner) : Option Scanner :=
  if s.keyAllowed then do
    let s ← s.dropKey
    let required := !s.inFlow && s.indent == s.cursor.column
    return { s with keys := some ⟨required, s.tokens.size, s.cursor⟩ :: s.keys.tail }
  else some s

/-- Opens a block at a column if that is deeper than the innermost one; its token comes after so
many others. -/
def openBlock (s : Scanner) (column tokens : Nat) (t : Token) : Scanner :=
  if s.inFlow || (column : Int) ≤ s.indent then s
  else
    { s with
      indent := column
      outer := s.indent :: s.outer
      tokens := s.tokens.insertIdxIfInBounds tokens t }

/-- Closes the blocks that are deeper than a column; `outer` has those around. -/
def closeBlocks (column indent : Int) (tokens : Array Token) :
    (outer : List Int) → Int × List Int × Array Token
  | [] => (indent, [], tokens)
  | next :: outer =>
    if column < indent then closeBlocks column next (tokens.push .blockEnd) outer
    else (indent, next :: outer, tokens)

/-- Closes the blocks that are deeper than a column. -/
def closeTo (s : Scanner) (column : Int) : Scanner :=
  if s.inFlow then s
  else
    let (indent, outer, tokens) := closeBlocks column s.indent s.tokens s.outer
    { s with indent, outer, tokens }

/-- Ends all blocks in front of a directive, a document marker or the end. -/
def endBlocks (s : Scanner) : Option Scanner := do
  let s ← (s.closeTo (-1)).dropKey
  return { s with keyAllowed := false }

/-- The most digits that a version number has. -/
def maxVersionDigits : Nat := 9

def versionNumber (c : Cursor) : Option (Nat × Cursor) :=
  let digits := c.rest.takeWhile Text.isDigit
  if digits.isEmpty ∨ maxVersionDigits < digits.length then none
  else some (Nat.ofDigitChars 10 digits 0, c.skip digits.length)

/-- A character of a tag outside of angle brackets. -/
def isTagChar (c : Char) : Bool := isWordChar c || ";/?:@&=+$.%!~*'()".toList.contains c

/-- A character of a tag within angle brackets. -/
def isUriChar (c : Char) : Bool := isTagChar c || c == ',' || c == '[' || c == ']'

/-- The bytes of percent escapes that make up one character of UTF-8, and what follows them. -/
def escapedBytes (count : Nat) (bytes : List Nat) (cs : List Char) :
    Option (List Nat × List Char) :=
  match count with
  | 0 => some (bytes, cs)
  | count + 1 =>
    match cs with
    | '%' :: a :: b :: rest =>
      match Text.hexValue? a, Text.hexValue? b with
      | some x, some y => escapedBytes count (bytes ++ [x * 16 + y]) rest
      | _, _ => none
    | _ => none

/-- How many bytes a character has in UTF-8 that starts with the given one. -/
def sequenceLength? (first : Nat) : Option Nat :=
  if first < 0x80 then some 1
  else if first / 32 = 6 then some 2
  else if first / 16 = 14 then some 3
  else if first / 8 = 30 then some 4
  else none

def percentChar (cs : List Char) : Option (Char × List Char) := do
  let (first, _) ← escapedBytes 1 [] cs
  let count ← sequenceLength? (← first.head?)
  let (bytes, rest) ← escapedBytes count [] cs
  let text ← String.fromUTF8? (ByteArray.mk (bytes.map (·.toUInt8)).toArray)
  return (← text.toList.head?, rest)

/-- Reads the characters of a tag on which a condition holds. -/
def tagChars (p : Char → Bool) : (fuel : Nat) → List Char → Option (List Char × List Char)
  | 0, _ => none
  | _ + 1, [] => some ([], [])
  | fuel + 1, c :: cs =>
    if !p c then some ([], c :: cs)
    else if c = '%' then do
      let (d, rest) ← percentChar (c :: cs)
      let (ds, rest) ← tagChars p fuel rest
      return (d :: ds, rest)
    else do
      let (ds, rest) ← tagChars p fuel cs
      return (c :: ds, rest)

def readTagChars (p : Char → Bool) (c : Cursor) : Option (List Char × Cursor) := do
  let (text, rest) ← tagChars p (c.rest.length + 1) c.rest
  return (text, c.skip (c.rest.length - rest.length))

/-- Reads the handle of a tag: an exclamation mark, or two with a word between or not. What is read
may turn out to be the start of a tag instead. -/
def tagHandle (c : Cursor) : Option (List Char × Cursor) :=
  match c.rest with
  | '!' :: cs =>
    let word := cs.takeWhile isWordChar
    let c := c.skip (word.length + 1)
    if c.peek == some '!' then some ('!' :: word ++ ['!'], c.skip 1) else some ('!' :: word, c)
  | _ => none

def tagDirectiveValue (c : Cursor) : Option (Token × Cursor) := do
  let (handle, c) ← tagHandle (c.skipWhile isBlank)
  if (handle.length = 1 ∨ handle.getLast? = some '!') ∧ c.peek.any isBlank then
    let (expansion, c) ← readTagChars isUriChar (c.skipWhile isBlank)
    if expansion.isEmpty ∨ !isGap c.peek then none
    else return (.tagDirective (String.ofList handle) (String.ofList expansion), c)
  else none

def versionValue (c : Cursor) : Option (Token × Cursor) := do
  let (major, c) ← versionNumber (c.skipWhile isBlank)
  if c.peek != some '.' then none
  else
    let (minor, c) ← versionNumber (c.skip 1)
    return (.version major minor, c)

def directive (s : Scanner) : Option Scanner := do
  let s ← s.endBlocks
  let c := s.cursor.skip 1
  let name := c.rest.takeWhile isWordChar
  let c := c.skip name.length
  if !isGap c.peek then none
  else
    let (t, c) ←
      if name = ['Y', 'A', 'M', 'L'] then versionValue c
      else if name = ['T', 'A', 'G'] then tagDirectiveValue c
      else none
    let c := c.skipWhile isBlank
    let c := if c.peek == some '#' then c.skipToLineEnd else c
    if isLineEnd c.peek then return { s.emit t with cursor := c.skipLine } else none

/-- Reads the marker of the start or the end of a document. -/
def documentMarker (s : Scanner) (t : Token) : Option Scanner := do
  let s ← s.endBlocks
  return (s.emit t).skip 3

def openFlow (s : Scanner) (t : Token) : Option Scanner := do
  let s ← s.saveKey
  return { (s.emit t).skip 1 with keys := none :: s.keys, keyAllowed := true }

def closeFlow (s : Scanner) (t : Token) : Option Scanner := do
  let s ← s.dropKey
  let keys := if s.inFlow then s.keys.tail else s.keys
  return { (s.emit t).skip 1 with keys, keyAllowed := false }

def comma (s : Scanner) : Option Scanner := do
  let s ← s.dropKey
  return { (s.emit .comma).skip 1 with keyAllowed := true }

/-- Reads the hyphen in front of an entry of a sequence. -/
def entry (s : Scanner) : Option Scanner := do
  if !s.inFlow && !s.keyAllowed then none
  else
    let s ← (s.openBlock s.cursor.column s.tokens.size .sequenceStart).dropKey
    return { (s.emit .entry).skip 1 with keyAllowed := true }

def explicitKey (s : Scanner) : Option Scanner := do
  if !s.inFlow && !s.keyAllowed then none
  else
    let s ← (s.openBlock s.cursor.column s.tokens.size .mappingStart).dropKey
    return { (s.emit .key).skip 1 with keyAllowed := !s.inFlow }

/-- Reads the colon in front of a value. What may be a key in front of it is one. -/
def valueMark (s : Scanner) : Option Scanner :=
  match s.keys with
  | some k :: rest =>
    let s := { s with
      keys := none :: rest
      tokens := s.tokens.insertIdxIfInBounds k.tokens .key
      keyAllowed := false }
    some (((s.openBlock k.place.column k.tokens .mappingStart).emit .value).skip 1)
  | _ =>
    if s.inFlow then some { (s.emit .value).skip 1 with keyAllowed := false }
    else if s.keyAllowed then
      let s := s.openBlock s.cursor.column s.tokens.size .mappingStart
      some { (s.emit .value).skip 1 with keyAllowed := true }
    else none

/-- Reads the name of an anchor or of an alias. -/
def reference (s : Scanner) (token : String → Token) : Option Scanner := do
  let s ← s.saveKey
  let c := s.cursor.skip 1
  let name := c.rest.takeWhile isWordChar
  let c := c.skip name.length
  let ends := isGap c.peek || c.peek.any fun d => "?:,]\x7d%@`".toList.contains d
  if name.isEmpty || !ends then none
  else return { s.emit (token (String.ofList name)) with cursor := c, keyAllowed := false }

/-- Reads the tag at a place: in angle brackets, or with a handle. An exclamation mark alone is a
tag too. -/
def readTag (c : Cursor) : Option (Token × Cursor) :=
  if c.peekAt 1 = some '<' then do
    let (uri, c) ← readTagChars isUriChar (c.skip 2)
    if uri.isEmpty ∨ c.peek ≠ some '>' then none
    else return (.tag "" (String.ofList uri), c.skip 1)
  else do
    let (handle, c) ← tagHandle c
    let (suffix, c) ← readTagChars isTagChar c
    if 1 < handle.length ∧ handle.getLast? = some '!' then
      if suffix.isEmpty then none
      else return (.tag (String.ofList handle) (String.ofList suffix), c)
    else
      let suffix := handle.tail ++ suffix
      if suffix.isEmpty then return (.tag "" "!", c)
      else return (.tag "!" (String.ofList suffix), c)

def tagged (s : Scanner) : Option Scanner := do
  let s ← s.saveKey
  let (t, c) ← readTag s.cursor
  if isGap c.peek || (s.inFlow && c.peek == some ',') then
    return { s.emit t with cursor := c, keyAllowed := false }
  else none

def block (s : Scanner) (literal : Bool) : Option Scanner := do
  let s ← s.dropKey
  let (text, cursor) ← blockScalar literal s.indent (s.cursor.skip 1)
  return { s.emit (.scalar false (String.ofList text)) with cursor, keyAllowed := true }

def quoted (s : Scanner) (single : Bool) : Option Scanner := do
  let s ← s.saveKey
  let (text, cursor) ← quotedScalar single s.cursor
  return { s.emit (.scalar false (String.ofList text)) with cursor, keyAllowed := false }

/-- Reads a plain scalar. A key may follow when it ended at the end of a line. -/
def plain (s : Scanner) : Option Scanner := do
  let s ← s.saveKey
  let ((text, broken), cursor) ← plainScalar s.inFlow (s.indent + 1) s.cursor
  return { s.emit (.scalar true (String.ofList text)) with cursor, keyAllowed := broken }

/-- Whether a plain scalar can start with a character before another. -/
def startsPlain (inFlow : Bool) (c : Char) (next : Option Char) : Bool :=
  if c = '-' then !next.any isBlank
  else if c = '?' ∨ c = ':' then !inFlow && !isGap next
  else !isGap (some c) && !",[]\x7b\x7d#&*!|>'\"%@`".toList.contains c

def token (s : Scanner) (c : Char) : Option Scanner :=
  let cursor := s.cursor
  let next := cursor.peekAt 1
  if cursor.column = 0 ∧ c = '%' then s.directive
  else if cursor.atMarker Cursor.startMarker then s.documentMarker .documentStart
  else if cursor.atMarker Cursor.endMarker then s.documentMarker .documentEnd
  else if c = '[' then s.openFlow .flowSequenceStart
  else if c = '\x7b' then s.openFlow .flowMappingStart
  else if c = ']' then s.closeFlow .flowSequenceEnd
  else if c = '\x7d' then s.closeFlow .flowMappingEnd
  else if c = ',' then s.comma
  else if c = '-' ∧ isGap next then s.entry
  else if c = '?' ∧ (s.inFlow || isGap next) then s.explicitKey
  else if c = ':' ∧ (s.inFlow || isGap next) then s.valueMark
  else if c = '*' then s.reference .alias
  else if c = '&' then s.reference .anchor
  else if c = '!' then s.tagged
  else if c = '|' ∧ !s.inFlow then s.block true
  else if c = '>' ∧ !s.inFlow then s.block false
  else if c = '\'' then s.quoted true
  else if c = '"' then s.quoted false
  else if startsPlain s.inFlow c next then s.plain
  else none

/-- Reads tokens to the end of the text; `fuel` exceeds the number of characters. -/
def run : (fuel : Nat) → Scanner → Option (List Token)
  | 0, _ => none
  | fuel + 1, s => do
    let s ← (s.skipToToken (s.cursor.rest.length + 1)).dropStale
    let s := s.closeTo s.cursor.column
    match s.cursor.peek with
    | none => return (← s.endBlocks).tokens.toList
    | some c => run fuel (← s.token c)

end Scanner

def byteOrderMark : Char := '\uFEFF'

/-- The tokens of a text; a byte order mark at its start is passed over. -/
def Token.ofText? (text : List Char) : Option (List Token) :=
  let text := match text with
    | c :: cs => if c = byteOrderMark then cs else c :: cs
    | [] => []
  if text.all isAllowed then Scanner.run (text.length + 1) (.start text) else none

end NodeGroups.Yaml
