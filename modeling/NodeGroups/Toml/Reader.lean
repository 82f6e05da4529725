import NodeGroups.Numeric.Reading
import NodeGroups.Toml.Basic

set_option autoImplicit false

namespace NodeGroups.Toml

open Text (digitValue? isDigit natOfDigits?)

def isSpace (c : Char) : Bool := c == ' ' || c == '\t'

def skipSpace (cs : List Char) : List Char := cs.dropWhile isSpace

/-- A character that may stand in comments and in strings of one line, if nothing else forbids it:
no control character but the tab. -/
def isPrintable (c : Char) : Bool :=
  c == '\t' || (0x20 ≤ c.toNat && c.toNat ≠ 0x7F)

def lineBreak? : List Char → Option (List Char)
  | '\n' :: r => some r
  | '\r' :: '\n' :: r => some r
  | _ => none

def skipComment : List Char → List Char
  | '#' :: r => r.dropWhile isPrintable
  | r => r

/-- Drops blanks and a comment up to the end of the line, which must follow. -/
def endLine? (cs : List Char) : Option (List Char) :=
  match skipComment (skipSpace cs) with
  | [] => some []
  | r => lineBreak? r

/-- Drops blanks, line breaks and comments; a comment must end with its line. -/
def skipLines : Nat → List Char → Option (List Char)
  | 0, cs => some cs
  | fuel + 1, cs =>
    match skipSpace cs with
    | '#' :: r =>
      match r.dropWhile isPrintable with
      | [] => some []
      | r => lineBreak? r >>= skipLines fuel
    | r =>
      match lineBreak? r with
      | some r => skipLines fuel r
      | none => some r

/-- The character with a code point written in hexadecimal digits. -/
def scalar? (digits : List Char) : Option Char :=
  natOfDigits? 16 digits >>= Text.charOfCode?

/-- The character that an escape stands for, after its backslash. -/
def readEscape : List Char → Option (Char × List Char)
  | 'b' :: r => some ('\x08', r)
  | 't' :: r => some ('\t', r)
  | 'n' :: r => some ('\n', r)
  | 'f' :: r => some ('\x0c', r)
  | 'r' :: r => some ('\r', r)
  | '"' :: r => some ('"', r)
  | '\\' :: r => some ('\\', r)
  | 'u' :: r =>
    if r.length < 4 then none else (scalar? (r.take 4)).map (·, r.drop 4)
  | 'U' :: r =>
    if r.length < 8 then none else (scalar? (r.take 8)).map (·, r.drop 8)
  | _ => none

/-- The rest of a quoted string on one line; characters come last first. -/
def readBasic : Nat → List Char → List Char → Option (String × List Char)
  | 0, _, _ => none
  | fuel + 1, acc, cs =>
    match cs with
    | '"' :: r => some (String.ofList acc.reverse, r)
    | '\\' :: r => do
      let (c, r) ← readEscape r
      readBasic fuel (c :: acc) r
    | c :: r => if isPrintable c then readBasic fuel (c :: acc) r else none
    | [] => none

def readLiteral (cs : List Char) : Option (String × List Char) :=
  match cs.dropWhile (fun c => isPrintable c && c != '\'') with
  | '\'' :: r => some (String.ofList (cs.takeWhile fun c => isPrintable c && c != '\''), r)
  | _ => none

def skipBlankLines : Nat → List Char → List Char
  | 0, cs => cs
  | fuel + 1, cs =>
    match lineBreak? (skipSpace cs) with
    | some r => skipBlankLines fuel r
    | none => skipSpace cs

/-- The end of a string over several lines, when three quotes come next: up to two more quotes
before them belong to the string. -/
def closing? (quote : Char) (acc cs : List Char) : Option (String × List Char) :=
  match cs with
  | a :: b :: c :: r =>
    if a = quote ∧ b = quote ∧ c = quote then
      match r with
      | d :: e :: r' =>
        if d = quote ∧ e = quote then some (String.ofList (quote :: quote :: acc).reverse, r')
        else if d = quote then some (String.ofList (quote :: acc).reverse, e :: r')
        else some (String.ofList acc.reverse, r)
      | [d] =>
        if d = quote then some (String.ofList (quote :: acc).reverse, [])
        else some (String.ofList acc.reverse, r)
      | [] => some (String.ofList acc.reverse, [])
    else none
  | _ => none

/-- The rest of a string over several lines. With escapes (`escapes`), a backslash at the end of a
line joins it to the next text. A line break in the text is always one line feed. -/
def readLong (quote : Char) (escapes : Bool) :
    Nat → List Char → List Char → Option (String × List Char)
  | 0, _, _ => none
  | fuel + 1, acc, cs =>
    match closing? quote acc cs with
    | some found => some found
    | none =>
      match lineBreak? cs with
      | some r => readLong quote escapes fuel ('\n' :: acc) r
      | none =>
        match cs with
        | [] => none
        | c :: r =>
          if c = '\\' ∧ escapes then
            match lineBreak? (skipSpace r) with
            | some r' => readLong quote escapes fuel acc (skipBlankLines r'.length r')
            | none => do
              let (c, r) ← readEscape r
              readLong quote escapes fuel (c :: acc) r
          else if isPrintable c then readLong quote escapes fuel (c :: acc) r
          else none

/-- Drops the line break right after the opening of a string over several lines. -/
def skipFirstBreak (cs : List Char) : List Char := (lineBreak? cs).getD cs

def readString : List Char → Option (String × List Char)
  | '"' :: '"' :: '"' :: r => readLong '"' true (r.length + 1) [] (skipFirstBreak r)
  | '"' :: r => readBasic (r.length + 1) [] r
  | '\'' :: '\'' :: '\'' :: r => readLong '\'' false (r.length + 1) [] (skipFirstBreak r)
  | '\'' :: r => readLiteral r
  | _ => none

def isBare (c : Char) : Bool :=
  isDigit c || ('a' ≤ c && c ≤ 'z') || ('A' ≤ c && c ≤ 'Z') || c == '-' || c == '_'

def readSimpleKey : List Char → Option (String × List Char)
  | '"' :: r => readBasic (r.length + 1) [] r
  | '\'' :: r => readLiteral r
  | cs =>
    let bare := cs.takeWhile isBare
    if bare.isEmpty then none else some (String.ofList bare, cs.dropWhile isBare)

/-- Arrays and inline tables may not reach this depth. -/
def depthLimit : Nat := 80

/-- A key has at most this many parts. -/
def maxParts : Nat := 79

/-- A key of parts with dots between them and blanks around each; parts come last first. -/
def readKey : Nat → List String → List Char → Option (Key × List Char)
  | 0, _, _ => none
  | fuel + 1, parts, cs => do
    let (part, r) ← readSimpleKey (skipSpace cs)
    match skipSpace r with
    | '.' :: r => readKey fuel (part :: parts) r
    | r => some (⟨parts.reverse, part⟩, r)

/-- Digits of a base, with single underscores between them; the digits come without underscores. -/
def readDigits (isDigit : Char → Bool) : List Char → Option (List Char × List Char)
  | [] => none
  | c :: r => if isDigit c then (go [c] r) else none
where
  /-- What follows a digit. -/
  go (acc : List Char) : List Char → Option (List Char × List Char)
    | '_' :: c :: r => if isDigit c then go (c :: acc) r else none
    | c :: r =>
      if isDigit c then go (c :: acc) r
      else if c = '_' then none
      else some (acc.reverse, c :: r)
    | [] => some (acc.reverse, [])

/-- An integer literal fits 64 bits with a sign. -/
def integer? (n : Int) : Option Toml :=
  if -↑(Nat.pow 2 63) ≤ n ∧ n < ↑(Nat.pow 2 63) then some (.integer n) else none

/-- An integer in base sixteen, eight or two, after its mark. -/
def readBased (base : Nat) (cs : List Char) : Option (Toml × List Char) := do
  let (digits, r) ← readDigits (fun c => (digitValue? base c).isSome) cs
  let v ← integer? (← natOfDigits? base digits)
  return (v, r)

/-- The digits of a decimal integer, which start with a zero only when they are that zero. -/
def readWhole (cs : List Char) : Option (List Char × List Char) :=
  match cs with
  | '0' :: r => some (['0'], r)
  | _ => readDigits isDigit cs

def readFraction : List Char → Option (Option (List Char) × List Char)
  | '.' :: r => (readDigits isDigit r).map fun (ds, r) => (some ds, r)
  | r => some (none, r)

def readExponent : List Char → Option (Option Int × List Char)
  | c :: r =>
    if c = 'e' ∨ c = 'E' then do
      let (negative, r) := Numeric.splitSign r
      let (ds, r) ← readDigits isDigit r
      let n : Int := Nat.ofDigitChars 10 ds 0
      return (some (if negative then -n else n), r)
    else some (none, c :: r)
  | [] => some (none, [])

/-- A float that is not a positive one too large for a double. -/
def float? (x : Numeric.Binary) : Option Toml :=
  if x = .infinite false then none else some (.float x)

/-- A decimal integer, a float, an infinity or a NaN, with a sign or not. -/
def readNumber (cs : List Char) : Option (Toml × List Char) :=
  let (negative, r) := Numeric.splitSign cs
  match r with
  | 'i' :: 'n' :: 'f' :: r => some (.float (.infinite negative), r)
  | 'n' :: 'a' :: 'n' :: r => some (.float .nan, r)
  | _ => do
    let (whole, r) ← readWhole r
    let (fraction, r) ← readFraction r
    let (exponent, r) ← readExponent r
    match fraction, exponent with
    | none, none =>
      let n : Int := Nat.ofDigitChars 10 whole 0
      let v ← integer? (if negative then -n else n)
      return (v, r)
    | _, _ =>
      let fraction := fraction.getD []
      let digits := Nat.ofDigitChars 10 (whole ++ fraction) 0
      let v ← float? (Numeric.binary64.ofDecimal negative digits
        (exponent.getD 0 - fraction.length))
      return (v, r)

/-- A number of exactly `width` digits, between two bounds. -/
def readField (width low high : Nat) (cs : List Char) : Option (Nat × List Char) :=
  let digits := cs.take width
  let n := Nat.ofDigitChars 10 digits 0
  if digits.length = width ∧ digits.all isDigit ∧ low ≤ n ∧ n ≤ high then some (n, cs.drop width)
  else none

def daysIn (year month : Nat) : Nat :=
  if month = 2 then
    if year % 4 = 0 ∧ (year % 100 ≠ 0 ∨ year % 400 = 0) then 29 else 28
  else if month = 4 ∨ month = 6 ∨ month = 9 ∨ month = 11 then 30
  else 31

def readMark (mark : Char) : List Char → Option (List Char)
  | c :: r => if c = mark then some r else none
  | [] => none

def readTime (cs : List Char) : Option (List Char) := do
  let (_, r) ← readField 2 0 23 cs
  let r ← readMark ':' r
  let (_, r) ← readField 2 0 59 r
  let r ← readMark ':' r
  let (_, r) ← readField 2 0 60 r
  match r with
  | '.' :: r =>
    if (r.takeWhile isDigit).isEmpty then none else some (r.dropWhile isDigit)
  | r => some r

def readOffset : List Char → Option (List Char)
  | c :: r =>
    if c = 'Z' ∨ c = 'z' then some r
    else if c = '+' ∨ c = '-' then do
      let (_, r) ← readField 2 0 23 r
      let r ← readMark ':' r
      let (_, r) ← readField 2 0 59 r
      return r
    else some (c :: r)
  | [] => some []

/-- Whether a date comes next: four digits and a minus sign. -/
def startsDate (cs : List Char) : Bool :=
  (cs.take 4).length == 4 && (cs.take 4).all isDigit && (cs.drop 4).head? == some '-'

/-- Whether a time comes next: two digits and a colon. -/
def startsTime (cs : List Char) : Bool :=
  (readField 2 0 23 cs).isSome && (cs.drop 2).head? == some ':'

def readDate (cs : List Char) : Option (List Char) := do
  let (year, r) ← readField 4 0 9999 cs
  let r ← readMark '-' r
  let (month, r) ← readField 2 1 12 r
  let r ← readMark '-' r
  let (_, r) ← readField 2 1 (daysIn year month) r
  match r with
  | c :: t =>
    if (c = 'T' ∨ c = 't' ∨ c = ' ') ∧ startsTime t then readTime t >>= readOffset else some r
  | [] => some []

def readScalar (cs : List Char) : Option (Toml × List Char) :=
  if startsDate cs then (readDate cs).map (.moment, ·)
  else if startsTime cs then (readTime cs).map (.moment, ·)
  else
    match cs with
    | '0' :: 'x' :: r => readBased 16 r
    | '0' :: 'o' :: r => readBased 8 r
    | '0' :: 'b' :: r => readBased 2 r
    | _ => readNumber cs

mutual

def readValue : Nat → Nat → List Char → Option (Toml × List Char)
  | 0, _, _ => none
  | fuel + 1, depth, cs =>
    match cs with
    | '"' :: _ => (readString cs).map fun (s, r) => (.string s, r)
    | '\'' :: _ => (readString cs).map fun (s, r) => (.string s, r)
    | 't' :: 'r' :: 'u' :: 'e' :: r => some (.boolean true, r)
    | 'f' :: 'a' :: 'l' :: 's' :: 'e' :: r => some (.boolean false, r)
    | '[' :: r => if depthLimit ≤ depth + 1 then none else readItems fuel (depth + 1) [] r
    | '\x7b' :: r =>
      if depthLimit ≤ depth + 1 then none
      else
        match skipSpace r with
        | '\x7d' :: r => some (.table [], r)
        | r => do
          let (assignments, r) ← readInline fuel (depth + 1) [] r
          let v ← ofInline? assignments
          return (v, r)
    | _ => readScalar cs

/-- The items of an array up to its end; items come last first. -/
def readItems : Nat → Nat → List Toml → List Char → Option (Toml × List Char)
  | 0, _, _, _ => none
  | fuel + 1, depth, acc, cs => do
    match ← skipLines cs.length cs with
    | ']' :: r => some (.array acc.reverse, r)
    | r =>
      let (v, r) ← readValue fuel depth r
      match ← skipLines r.length r with
      | ',' :: r => readItems fuel depth (v :: acc) r
      | ']' :: r => some (.array (v :: acc).reverse, r)
      | _ => none

/-- The assignments of an inline table up to its end; they come last first. -/
def readInline : Nat → Nat → List Assignment → List Char →
    Option (List Assignment × List Char)
  | 0, _, _, _ => none
  | fuel + 1, depth, acc, cs => do
    let (key, r) ← readKey maxParts [] cs
    let r ← readMark '=' r
    let (v, r) ← readValue fuel depth (skipSpace r)
    match skipSpace r with
    | ',' :: r => readInline fuel depth (⟨key, v⟩ :: acc) r
    | '\x7d' :: r => some ((⟨key, v⟩ :: acc).reverse, r)
    | _ => none

end

def readHeader : List Char → Option (Header × List Char)
  | '[' :: r => do
    let (key, r) ← readKey maxParts [] r
    match r with
    | ']' :: ']' :: r => some (.item key, r)
    | _ => none
  | r => do
    let (key, r) ← readKey maxParts [] r
    match r with
    | ']' :: r => some (.table key, r)
    | _ => none

/-- The sections of a document. The current one is given apart, and all come last first. -/
def readSections : Nat → List Section → Section → List Char → Option (List Section)
  | 0, _, _, _ => none
  | fuel + 1, done, current, cs => do
    let close := { current with assignments := current.assignments.reverse }
    match ← skipLines cs.length cs with
    | [] => some (close :: done).reverse
    | '[' :: r =>
      let (header, r) ← readHeader r
      let r ← endLine? r
      readSections fuel (close :: done) ⟨some header, []⟩ r
    | r =>
      let (key, r) ← readKey maxParts [] r
      let r ← readMark '=' r
      let (v, r) ← readValue (2 * r.length + 2) 0 (skipSpace r)
      let r ← endLine? r
      readSections fuel done { current with assignments := ⟨key, v⟩ :: current.assignments } r

/-- The members of a TOML document. A byte order mark may stand at its start. -/
def parse? (text : String) : Option (List (String × Toml)) :=
  let cs := match text.toList with
    | '\ufeff' :: r => r
    | cs => cs
  readSections (cs.length + 1) [] ⟨none, []⟩ cs >>= ofSections?

end NodeGroups.Toml
