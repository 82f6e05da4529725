import NodeGroups.Json.Basic
import NodeGroups.Text.Digit

/-!
JSON texts. A text is read into a `Source`, which keeps what the text says before it is given a
meaning: numerals, members in the order of the text with repeated keys, strings that hold half of a
surrogate pair. `Source.json?` gives the value of a source; it refuses strings that are no text,
numbers too large for a double, and nesting deeper than `maxNesting`.
-/

set_option autoImplicit false

namespace NodeGroups.Json

/-- A JSON text by its structure. A string is `none` when its escapes do not form a text. -/
inductive Source
  | null
  | bool (b : Bool)
  | number (n : Numeral)
  | string (s : Option String)
  | array (items : List Source)
  | object (members : List (Option String × Source))
  deriving Inhabited

/-- Arrays and objects may stand this many levels deep in one another. -/
def maxNesting : Nat := 127

namespace Source

/-- White space between the parts of a text. -/
def isSpace (c : Char) : Bool := c == ' ' || c == '\n' || c == '\t' || c == '\r'

def skip (cs : List Char) : List Char := cs.dropWhile isSpace

/-- What a string holds: characters, and halves of surrogate pairs written as escapes. -/
inductive Piece
  | char (c : Char)
  | half (n : Nat)

/-- A code unit of an escape. -/
def Piece.ofUnit (n : Nat) : Piece :=
  if 0xD800 ≤ n ∧ n < 0xE000 then .half n else .char (Char.ofNat n)

/-- The character after a backslash, where it stands for one character. -/
def escaped? : Char → Option Char
  | '"' => some '"'
  | '\\' => some '\\'
  | '/' => some '/'
  | 'b' => some '\x08'
  | 'f' => some '\x0c'
  | 'n' => some '\n'
  | 'r' => some '\r'
  | 't' => some '\t'
  | _ => none

/-- Reads the rest of a string, after its opening quote; pieces come last first. -/
def pieces : List Piece → List Char → Option (List Piece × List Char)
  | acc, '"' :: r => some (acc.reverse, r)
  | acc, '\\' :: 'u' :: a :: b :: c :: d :: r =>
    match Text.natOfDigits? 16 [a, b, c, d] with
    | some n => pieces (.ofUnit n :: acc) r
    | none => none
  | acc, '\\' :: e :: r =>
    match escaped? e with
    | some c => pieces (.char c :: acc) r
    | none => none
  | acc, c :: r => if c.toNat < 0x20 ∨ c = '\\' then none else pieces (.char c :: acc) r
  | _, [] => none

/-- Joins surrogate pairs; a half on its own is no text. -/
def join : List Piece → Option (List Char)
  | [] => some []
  | .char c :: r => (join r).map (c :: ·)
  | .half high :: .half low :: r =>
    if high < 0xDC00 ∧ 0xDC00 ≤ low then
      (join r).map (Char.ofNat ((high - 0xD800) * 0x400 + (low - 0xDC00) + 0x10000) :: ·)
    else none
  | .half _ :: _ => none

/-- Reads the rest of a string, after its opening quote. -/
def readString (cs : List Char) : Option (Option String × List Char) :=
  (pieces [] cs).map fun (ps, r) => ((join ps).map String.ofList, r)

/-- Digits at the front, at least one. -/
def readDigits (cs : List Char) : Option (List Char × List Char) :=
  match cs.takeWhile Text.isDigit with
  | [] => none
  | ds => some (ds, cs.dropWhile Text.isDigit)

/-- The digits before a point: a single zero, or digits that do not start with one. -/
def readWhole (cs : List Char) : Option (List Char × List Char) := do
  let (ds, r) ← readDigits cs
  match ds with
  | '0' :: _ :: _ => none
  | _ => some (ds, r)

def readFraction : List Char → Option (Option (List Char) × List Char)
  | '.' :: r => (readDigits r).map fun (ds, r) => (some ds, r)
  | r => some (none, r)

def readExponent : List Char → Option (Option (Bool × List Char) × List Char)
  | c :: r =>
    if c = 'e' ∨ c = 'E' then
      match r with
      | '+' :: r => (readDigits r).map fun (ds, r) => (some (false, ds), r)
      | '-' :: r => (readDigits r).map fun (ds, r) => (some (true, ds), r)
      | r => (readDigits r).map fun (ds, r) => (some (false, ds), r)
    else some (none, c :: r)
  | [] => some (none, [])

/-- Reads a numeral whose sign has been read. -/
def readUnsigned (negative : Bool) (cs : List Char) : Option (Numeral × List Char) := do
  let (whole, r) ← readWhole cs
  let (fraction, r) ← readFraction r
  let (exponent, r) ← readExponent r
  return (⟨negative, whole, fraction, exponent⟩, r)

def readNumeral : List Char → Option (Numeral × List Char)
  | '-' :: r => readUnsigned true r
  | r => readUnsigned false r

mutual

def value : Nat → List Char → Option (Source × List Char)
  | 0, _ => none
  | _ + 1, [] => none
  | fuel + 1, c :: r =>
    match c with
    | '"' => (readString r).map fun (s, r) => (.string s, r)
    | '[' =>
      match skip r with
      | ']' :: r => some (.array [], r)
      | r => items fuel [] r
    | '\x7b' =>
      match skip r with
      | '\x7d' :: r => some (.object [], r)
      | r => members fuel [] r
    | 'n' => match r with
      | 'u' :: 'l' :: 'l' :: r => some (.null, r)
      | _ => none
    | 't' => match r with
      | 'r' :: 'u' :: 'e' :: r => some (.bool true, r)
      | _ => none
    | 'f' => match r with
      | 'a' :: 'l' :: 's' :: 'e' :: r => some (.bool false, r)
      | _ => none
    | _ => (readNumeral (c :: r)).map fun (n, r) => (.number n, r)

/-- Reads the items of an array up to its end, from an item on; items come last first. -/
def items : Nat → List Source → List Char → Option (Source × List Char)
  | 0, _, _ => none
  | fuel + 1, acc, cs => do
    let (item, r) ← value fuel cs
    match skip r with
    | ',' :: r => items fuel (item :: acc) (skip r)
    | ']' :: r => some (.array (item :: acc).reverse, r)
    | _ => none

/-- Reads the members of an object up to its end, from a key on; members come last first. -/
def members : Nat → List (Option String × Source) → List Char → Option (Source × List Char)
  | fuel + 1, acc, '"' :: r => do
    let (key, r) ← readString r
    match skip r with
    | ':' :: r =>
      let (item, r) ← value fuel (skip r)
      match skip r with
      | ',' :: r => members fuel ((key, item) :: acc) (skip r)
      | '\x7d' :: r => some (.object ((key, item) :: acc).reverse, r)
      | _ => none
    | _ => none
  | _, _, _ => none

end

/-- Reads a text that holds one value and nothing else but white space. The fuel suffices since
every two steps read a character. -/
def parseChars? (cs : List Char) : Option Source := do
  let (source, r) ← value (2 * cs.length + 2) (skip cs)
  if (skip r).isEmpty then some source else none

/-- Reads a text that holds one value and nothing else but white space. -/
def parse? (text : String) : Option Source := parseChars? text.toList

mutual

/-- The value of a source that stands `levels` levels above the deepest one allowed. Members are put
into key order, the last of a repeated key staying. -/
def json? (levels : Nat) : Source → Option Json
  | .null => some .null
  | .bool b => some (.bool b)
  | .number n => n.value?.map .number
  | .string s => s.map .string
  | .array xs => if levels = 0 then none else (jsonItems? (levels - 1) xs).map .array
  | .object ms => if levels = 0 then none else (jsonMembers? (levels - 1) ms).map Json.ofMembers

def jsonItems? (levels : Nat) : List Source → Option (List Json)
  | [] => some []
  | x :: xs => do
    let v ← json? levels x
    let vs ← jsonItems? levels xs
    return v :: vs

def jsonMembers? (levels : Nat) : List (Option String × Source) → Option (List (String × Json))
  | [] => some []
  | (key, x) :: xs => do
    let key ← key
    let v ← json? levels x
    let vs ← jsonMembers? levels xs
    return (key, v) :: vs

end

end Source

def parse? (text : String) : Option Json :=
  Source.parse? text >>= Source.json? maxNesting

end NodeGroups.Json
