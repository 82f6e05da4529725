import NodeGroups.Json.Basic
import NodeGroups.Numeric.Reading
import NodeGroups.Yaml.Node

set_option autoImplicit false

namespace NodeGroups.Yaml

open Numeric (binary64)
open Text (natOfDigits?)

def isNullWord (text : String) : Bool := ["null", "Null", "NULL", "~"].contains text

/-- The boolean that a text is written like. -/
def boolOfText? (text : String) : Option Bool :=
  if ["true", "True", "TRUE"].contains text then some true
  else if ["false", "False", "FALSE"].contains text then some false
  else none

/-- Digits after a leading zero are no number. -/
def isPaddedDigits (cs : List Char) : Bool :=
  let digits := match cs with
    | '-' :: cs => cs
    | '+' :: cs => cs
    | cs => cs
  1 < digits.length && digits.head? == some '0' && digits.all Text.isDigit

/-- The magnitude of an integer whose sign has been taken off: in base 16, 8 or 2 after the mark of
the base, or else in base 10 and then not padded. -/
def magnitude? (padded : Bool) (cs : List Char) : Option Nat :=
  let marked := match cs with
    | '0' :: 'x' :: ds => natOfDigits? 16 ds
    | '0' :: 'o' :: ds => natOfDigits? 8 ds
    | '0' :: 'b' :: ds => natOfDigits? 2 ds
    | _ => none
  marked.or (if padded then none else natOfDigits? 10 cs)

def intOfText? (text : String) : Option Int :=
  let cs := text.toList
  let padded := isPaddedDigits cs
  match cs with
  | '-' :: ds => (magnitude? padded ds).map fun n => -(n : Int)
  | '+' :: ds => (magnitude? padded ds).map Int.ofNat
  | ds => (magnitude? padded ds).map Int.ofNat

/-- The JSON number of an integer, if it has one: integers beyond 64 bits have none. -/
def jsonOfInt? (n : Int) : Option Json :=
  if -↑(Nat.pow 2 63) ≤ n ∧ n < ↑(Nat.pow 2 64) then some (.int n) else none

/-- Whether an integer has at most 128 bits. -/
def isWideInt (n : Int) : Bool := -↑(Nat.pow 2 127) ≤ n && n < ↑(Nat.pow 2 128)

/-- The floating point number that a text is written like; infinities and NaN become null. -/
def jsonOfFloat? (text : String) : Option Json :=
  let unsigned := match text.toList with
    | '+' :: '+' :: _ => none
    | '+' :: '-' :: _ => none
    | '+' :: cs => some (String.ofList cs)
    | cs => some (String.ofList cs)
  unsigned.bind fun number =>
    if [".inf", ".Inf", ".INF"].contains number ∨ ["-.inf", "-.Inf", "-.INF"].contains text ∨
        [".nan", ".NaN", ".NAN"].contains text then some .null
    else
      match binary64.ofText? number with
      | some x => if x.isFinite then some (.ofBinary x) else none
      | none => none

/-- The value of a plain scalar without a tag. An integer of more than 64 and up to 128 bits has
none. -/
def plainJson? (text : String) : Option Json :=
  if text = "" ∨ isNullWord text then some .null
  else
    match boolOfText? text with
    | some b => some (.bool b)
    | none =>
      match (intOfText? text).filter isWideInt with
      | some n => jsonOfInt? n
      | none =>
        if isPaddedDigits text.toList then some (.string text)
        else some ((jsonOfFloat? text).getD (.string text))

def coreTag (name : String) : String := "tag:yaml.org,2002:" ++ name

/-- Whether a tag is one of a single document. -/
def isLocalTag (tag : Option String) : Bool := tag.any fun t => t.toList.head? == some '!'

/-- The value of a scalar. A tag of a document's own has no meaning. -/
def scalarJson? (tag : Option String) (plain : Bool) (text : String) : Option Json :=
  match tag with
  | none => if plain then plainJson? text else some (.string text)
  | some t =>
    if isLocalTag tag then none
    else if t = coreTag "bool" then (boolOfText? text).map .bool
    else if t = coreTag "int" then ((intOfText? text).filter isWideInt).bind jsonOfInt?
    else if t = coreTag "float" then jsonOfFloat? text
    else if t = coreTag "null" then if isNullWord text then some .null else none
    else some (.string text)

/-- Whether a scalar stands for no value; one that is tagged as null must be written like it. -/
def isAbsent? (tag : Option String) (plain : Bool) (text : String) : Option Bool :=
  if !plain then some false
  else
    match tag with
    | none => some (text == "" || isNullWord text)
    | some t =>
      if t = coreTag "null" then if isNullWord text then some true else none else some false

/-- A step of decoding a document; the state is how many more aliases may be followed. -/
abbrev Decoding := StateT Nat Option

namespace Document

/-- Documents may not nest deeper than this. -/
def maxDepth : Nat := 128

/-- The aliases that may be followed for each event of the document. -/
def aliasesPerEvent : Nat := 100

/-- The anchored node with a number; of several the one that started last. -/
def anchoredNode? (d : Document) (number : Nat) : Option Node :=
  let found := d.anchored.filter fun a => a.number == number
  (found.foldl (fun best a =>
    match best with
    | some (b : Anchored) => if b.order < a.order then some a else some b
    | none => some a) none).map (·.node)

def resolve (d : Document) : Node → Decoding Node
  | .alias number => do
    let left ← get
    if left = 0 then failure
    set (left - 1)
    match d.anchoredNode? number with
    | some n => return n
    | none => failure
  | n => return n

def text (d : Document) (n : Node) : Decoding String := do
  match ← d.resolve n with
  | .scalar _ _ t => return t
  | _ => failure

/-- The value of a node, which may nest as deep as given. -/
def json (d : Document) : (depth : Nat) → Node → Decoding Json
  | 0, n => do
    match ← d.resolve n with
    | .scalar tag plain t => (scalarJson? tag plain t).elim failure pure
    | _ => failure
  | depth + 1, n => do
    match ← d.resolve n with
    | .scalar tag plain t => (scalarJson? tag plain t).elim failure pure
    | .sequence tag items =>
      if isLocalTag tag then failure
      return .array (← items.mapM (json d depth))
    | .mapping tag entries =>
      if isLocalTag tag then failure
      let members ← entries.mapM fun e => do return (← d.text e.1, ← json d depth e.2)
      return Json.ofMembers members
    | .alias _ => failure

def optional {α : Type} (d : Document) (f : Node → Decoding α) (n : Node) :
    Decoding (Option α) := do
  match ← d.resolve n with
  | .scalar tag plain t =>
    match isAbsent? tag plain t with
    | none => failure
    | some true => return none
    | some false => some <$> f (.scalar tag plain t)
  | n => some <$> f n

/-- The entries of a mapping, which an absent node has none of. -/
def entries (d : Document) (depth : Nat) (n : Node) : Decoding (List (Node × Node)) := do
  match ← d.resolve n with
  | .mapping _ es => if depth = 0 then failure else return es
  | .scalar _ true "" => return []
  | _ => failure

/-- A mapping with text keys; the last of a repeated key stays. -/
def map {α : Type} (d : Document) (depth : Nat) (f : (depth : Nat) → Node → Decoding α)
    (n : Node) : Decoding (OrderedMap α) := do
  let es ← d.entries depth n
  return .ofList (← es.mapM fun e => do return (← d.text e.1, ← f (depth - 1) e.2))

/-- The fields of a record among the entries of a mapping; others are passed over, and none may be
repeated. -/
def fields (d : Document) (keys : List String) :
    List (Node × Node) → Decoding (List (String × Node))
  | [] => return []
  | (k, v) :: es => do
    let key ← d.text k
    let rest ← d.fields keys es
    if keys.contains key then
      if rest.any (fun e => e.1 == key) then failure
      return (key, v) :: rest
    else return rest

end Document

end NodeGroups.Yaml
