set_option autoImplicit false

namespace NodeGroups.Yaml

def isBreak (c : Char) : Bool :=
  c == '\n' || c == '\r' || c == '\x85' || c == '\u2028' || c == '\u2029'

def isBlank (c : Char) : Bool := c == ' ' || c == '\t'

/-- A blank, a line break, or the end of the text. -/
def isGap : Option Char → Bool
  | none => true
  | some c => isBlank c || isBreak c

def isLineEnd : Option Char → Bool
  | none => true
  | some c => isBreak c

/-- A character of names. -/
def isWordChar (c : Char) : Bool := (c.isAlphanum && c.toNat < 0x80) || c == '_' || c == '-'

/-- A character that a text may have. -/
def isAllowed (c : Char) : Bool :=
  let n := c.toNat
  n == 9 || n == 0xA || n == 0xD || (0x20 ≤ n && n ≤ 0x7E) || n == 0x85 ||
    (0xA0 ≤ n && n ≤ 0xD7FF) || (0xE000 ≤ n && n ≤ 0xFFFD && n != 0xFEFF) || 0x10000 ≤ n

/-- A place in a text: what follows, how many characters stand before, and its line and column. -/
structure Cursor where
  rest : List Char
  index : Nat
  line : Nat
  column : Nat

namespace Cursor

def start (text : List Char) : Cursor := ⟨text, 0, 0, 0⟩

def peek (c : Cursor) : Option Char := c.rest.head?

/-- The character so many further on. -/
def peekAt (c : Cursor) (n : Nat) : Option Char := c.rest[n]?

def skip (c : Cursor) (n : Nat) : Cursor :=
  ⟨c.rest.drop n, c.index + n, c.line, c.column + n⟩

def skipLine (c : Cursor) : Cursor :=
  match c.rest with
  | '\r' :: '\n' :: r => ⟨r, c.index + 2, c.line + 1, 0⟩
  | _ :: r => ⟨r, c.index + 1, c.line + 1, 0⟩
  | [] => c

/-- Passes over the characters of a line on which a condition holds. -/
def skipWhile (c : Cursor) (p : Char → Bool) : Cursor := c.skip (c.rest.takeWhile p).length

def skipToLineEnd (c : Cursor) : Cursor := c.skipWhile fun d => !isBreak d

/-- What a line break at the place stands for in a text: itself if it separates lines or paragraphs,
and otherwise a line feed. -/
def breakText (c : Cursor) : List Char :=
  match c.peek with
  | some d => if d = '\u2028' ∨ d = '\u2029' then [d] else ['\n']
  | none => []

/-- Whether a text stands at the start of the line, with a gap after it. -/
def atMarker (c : Cursor) (marker : List Char) : Bool :=
  c.column == 0 && marker.isPrefixOf c.rest && isGap (c.peekAt marker.length)

def startMarker : List Char := ['-', '-', '-']

def endMarker : List Char := ['.', '.', '.']

def atDocumentMarker (c : Cursor) : Bool := c.atMarker startMarker || c.atMarker endMarker

end Cursor

end NodeGroups.Yaml
