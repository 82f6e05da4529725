import NodeGroups.Failure
import NodeGroups.Pattern.Compile
import NodeGroups.Search.Record
import NodeGroups.Settings

set_option autoImplicit false

namespace NodeGroups.Search

/-- A query: the pattern that it is read as. The empty query finds everything and marks nothing. -/
inductive Query
  | everything
  | pattern (program : Pattern.Program)

/-- A part of a text, found by a query or not. -/
inductive Fragment
  | plain (text : String)
  | highlight (text : String)
  deriving DecidableEq

namespace Fragment

def text : Fragment → String
  | .plain text => text
  | .highlight text => text

/-- The text of a fragment, in marks if it was found. -/
def marked : Fragment → String
  | .plain text => text
  | .highlight text => "<hl>" ++ text ++ "</hl>"

def toJson : Fragment → Json
  | .plain text => .object [("kind", .string "plain"), ("text", .string text)]
  | .highlight text => .object [("kind", .string "highlight"), ("text", .string text)]

end Fragment

structure Suggestion where
  recordId : String
  /-- The text of the field in which the query looked. -/
  label : String
  title : String
  fragments : List Fragment
  deriving DecidableEq

namespace Suggestion

/-- The label with marks around what was found. -/
def marked (s : Suggestion) : String := String.join (s.fragments.map Fragment.marked)

def toJson (s : Suggestion) : Json :=
  .object [("record_id", .string s.recordId), ("label", .string s.label),
    ("title", .string s.title), ("fragments", .ofList Fragment.toJson s.fragments)]

end Suggestion

namespace Query

def patternText : PatternMode → String → String
  | .raw, text => text
  | .literal, text => String.ofList (Pattern.escape text.toList)

def ofText (mode : PatternMode) (text : String) : Except Failure Query :=
  if text = "" then .ok .everything
  else
    match Pattern.compile (patternText mode text) with
    | .ok program => .ok (.pattern program)
    | .error refusal => .error (.invalidPattern (text ++ ": " ++ refusal.message))

/-- How many characters at the front of a text are found, the text standing after the character
`before` or at the start. -/
def lengthAt : Query → (before : Option Char) → List Char → Option Nat
  | .everything, _, _ => some 0
  | .pattern program, before, cs => program.lengthAt before cs

/-- Whether something is found, be it of no length, at a place of a text or at its end. -/
def occurs (q : Query) (before : Option Char) : List Char → Bool
  | [] => (q.lengthAt before []).isSome
  | c :: cs => (q.lengthAt before (c :: cs)).isSome || q.occurs (some c) cs

/-- The plain fragment of characters that come last first, if there are any. -/
def plainBefore (plain : List Char) : List Fragment :=
  if plain.isEmpty then [] else [.plain (String.ofList plain.reverse)]

/-- The fragments of a text: at every place the query is tried, and what it finds there, if it is of
any length, is highlighted and passed over. `plain` is what was not found since the last highlight,
last character first. -/
def fragments (q : Query) (before : Option Char) (plain : List Char) :
    List Char → List Fragment
  | [] => plainBefore plain
  | c :: cs =>
    match q.lengthAt before (c :: cs) with
    | some (n + 1) =>
      let found := c :: cs.take n
      plainBefore plain ++ .highlight (String.ofList found) ::
        q.fragments found.getLast? [] (cs.drop n)
    | _ => q.fragments (some c) (c :: plain) cs
termination_by cs => cs.length

/-- The fragments of a label in which the query finds something. -/
def fragmentsOf? (q : Query) (label : String) : Option (List Fragment) :=
  match q with
  | .everything => some [.plain label]
  | q => if q.occurs none label.toList then some (q.fragments none [] label.toList) else none

/-- What a query says of a record: nothing if the record is disabled, does not have the field, or
has another text in it. -/
def suggestion? (q : Query) (field : String) (r : Record) : Option Suggestion :=
  if r.isEnabled then do
    let label ← r.field? field
    return ⟨r.id, label, r.name, ← q.fragmentsOf? label⟩
  else none

def filter (q : Query) (field : String) (records : List Record) : List Suggestion :=
  records.filterMap (q.suggestion? field)

end Query

/-- What a text finds among records when it is read as a query. -/
def find (mode : PatternMode) (text field : String) (records : List Record) :
    Except Failure (List Suggestion) := do
  return (← Query.ofText mode text).filter field records

end NodeGroups.Search
