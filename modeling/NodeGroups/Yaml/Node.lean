import NodeGroups.Yaml.Token

set_option autoImplicit false

namespace NodeGroups.Yaml

/-- A node. Scalars are told apart by whether they were written plainly. -/
inductive Node
  | scalar (tag : Option String) (plain : Bool) (text : String)
  | sequence (tag : Option String) (items : List Node)
  | mapping (tag : Option String) (entries : List (Node × Node))
  /-- Stands for the anchored node with a number. -/
  | alias (number : Nat)
  deriving Inhabited

/-- A node without content. -/
def Node.absent : Node := .scalar none true ""

/-- An anchored node: its number, and how many anchored nodes started before it. -/
structure Anchored where
  number : Nat
  order : Nat
  node : Node

structure Reading where
  tokens : List Token
  /-- The handles of tags and what they stand for. -/
  handles : List (String × String)
  /-- The numbers of the anchors that have been seen. -/
  anchors : List (String × Nat)
  /-- How many anchored nodes have started. -/
  started : Nat
  /-- The anchored nodes that were read. -/
  anchored : List Anchored
  /-- How many events the nodes read so far are: one for a scalar or an alias, and two for any other
  node. -/
  events : Nat

namespace Node

abbrev Reader := StateT Reading Option

def peek : Reader (Option Token) := do return (← get).tokens.head?

def drop : Reader Unit := modify fun r => { r with tokens := r.tokens.tail }

/-- Counts events. -/
def count (n : Nat) : Reader Unit := modify fun r => { r with events := r.events + n }

def expect (t : Token) : Reader Unit := do
  if (← peek) = some t then drop else failure

/-- Passes over a token if it comes next, and tells whether it did. -/
def accept (t : Token) : Reader Bool := do
  if (← peek) = some t then
    drop
    return true
  else return false

def noContent : Reader Node := do
  count 1
  return .absent

/-- The anchor and the tag in front of a node. -/
structure Properties where
  anchor : Option String
  tag : Option (String × String)

/-- Reads an anchor and a tag, in either order, each of which may be missing. -/
def properties : Reader Properties := do
  match ← peek with
  | some (.anchor name) =>
    drop
    match ← peek with
    | some (.tag handle suffix) =>
      drop
      return ⟨some name, some (handle, suffix)⟩
    | _ => return ⟨some name, none⟩
  | some (.tag handle suffix) =>
    drop
    match ← peek with
    | some (.anchor name) =>
      drop
      return ⟨some name, some (handle, suffix)⟩
    | _ => return ⟨none, some (handle, suffix)⟩
  | _ => return ⟨none, none⟩

/-- The tag that a handle and a suffix make up; a handle must be known. -/
def fullTag (tag : String × String) : Reader String := do
  if tag.1 = "" then return tag.2
  else
    match (← get).handles.lookup tag.1 with
    | some expansion => return expansion ++ tag.2
    | none => failure

/-- Gives an anchor its number, which is the count of names in use. -/
def startAnchor (name : String) : Reader (Nat × Nat) := do
  let r ← get
  let number := r.anchors.length
  set { r with
    anchors := (name, number) :: r.anchors.filter (fun e => e.1 != name)
    started := r.started + 1 }
  return (number, r.started)

def keepAnchored (slot : Option (Nat × Nat)) (n : Node) : Reader Node := do
  match slot with
  | some (number, order) =>
    modify fun r => { r with anchored := ⟨number, order, n⟩ :: r.anchored }
  | none => pure ()
  return n

/-- Whether the next token ends what could have a node before it. -/
def ends (stops : List Token) : Reader Bool := do
  match ← peek with
  | some t => return stops.contains t
  | none => return true

mutual

/-- Reads a node. In a block, blocks may follow; `indentless` allows entries of a sequence that do
not stand deeper than what they belong to. -/
def read : (fuel : Nat) → (inBlock indentless : Bool) → Reader Node
  | 0, _, _ => failure
  | fuel + 1, inBlock, indentless => do
    match ← peek with
    | some (.alias name) =>
      drop
      count 1
      match (← get).anchors.lookup name with
      | some number => return .alias number
      | none => failure
    | _ =>
      let p ← properties
      let tag ← match p.tag with
        | some t => some <$> fullTag t
        | none => pure none
      let slot ← match p.anchor with
        | some name => some <$> startAnchor name
        | none => pure none
      keepAnchored slot (← content fuel inBlock indentless p tag)

def content : (fuel : Nat) → (inBlock indentless : Bool) → Properties → Option String →
    Reader Node
  | 0, _, _, _, _ => failure
  | fuel + 1, inBlock, indentless, p, tag => do
    match ← peek with
    | some .entry =>
      if indentless then
        count 2
        return .sequence tag (← indentlessItems fuel [])
      else bare p tag
    | some (.scalar plain text) =>
      drop
      count 1
      return .scalar (if tag = some "!" then none else tag) plain text
    | some .flowSequenceStart =>
      drop
      count 2
      return .sequence tag (← flowItems fuel [])
    | some .flowMappingStart =>
      drop
      count 2
      return .mapping tag (← flowEntries fuel [])
    | some .sequenceStart =>
      if inBlock then
        drop
        count 2
        return .sequence tag (← blockItems fuel [])
      else bare p tag
    | some .mappingStart =>
      if inBlock then
        drop
        count 2
        return .mapping tag (← blockEntries fuel [])
      else bare p tag
    | _ => bare p tag

/-- A node of properties alone. -/
def bare (p : Properties) (tag : Option String) : Reader Node := do
  if p.anchor.isSome || p.tag.isSome then
    count 1
    return .scalar tag true ""
  else failure

/-- Reads the entries of a block sequence up to its end; items come last first. -/
def blockItems : (fuel : Nat) → List Node → Reader (List Node)
  | 0, _ => failure
  | fuel + 1, items => do
    if ← accept .entry then
      let item ←
        if ← ends [.entry, .blockEnd] then noContent else read fuel true false
      blockItems fuel (item :: items)
    else
      expect .blockEnd
      return items.reverse

/-- Reads the entries of a sequence that has no block of its own. -/
def indentlessItems : (fuel : Nat) → List Node → Reader (List Node)
  | 0, _ => failure
  | fuel + 1, items => do
    if ← accept .entry then
      let item ←
        if ← ends [.entry, .key, .value, .blockEnd] then noContent else read fuel true false
      indentlessItems fuel (item :: items)
    else return items.reverse

/-- Reads the entries of a block mapping up to its end. -/
def blockEntries : (fuel : Nat) → List (Node × Node) → Reader (List (Node × Node))
  | 0, _ => failure
  | fuel + 1, entries => do
    if ← accept .key then
      let key ←
        if ← ends [.key, .value, .blockEnd] then noContent else read fuel true true
      let value ←
        if ← accept .value then
          if ← ends [.key, .value, .blockEnd] then noContent else read fuel true true
        else noContent
      blockEntries fuel ((key, value) :: entries)
    else
      expect .blockEnd
      return entries.reverse

/-- Reads the items of a sequence in brackets up to its end. An item with a key is a mapping of one
entry. -/
def flowItems : (fuel : Nat) → List Node → Reader (List Node)
  | 0, _ => failure
  | fuel + 1, items => do
    if ← accept .flowSequenceEnd then return items.reverse
    if !items.isEmpty then
      expect .comma
      if ← accept .flowSequenceEnd then return items.reverse
    if ← accept .key then
      count 2
      let key ←
        if ← ends [.value, .comma, .flowSequenceEnd] then
          drop
          noContent
        else read fuel false false
      let value ←
        if ← accept .value then
          if ← ends [.comma, .flowSequenceEnd] then noContent else read fuel false false
        else noContent
      flowItems fuel (.mapping none [(key, value)] :: items)
    else
      let item ← read fuel false false
      flowItems fuel (item :: items)

/-- Reads the entries of a mapping in braces up to its end. -/
def flowEntries : (fuel : Nat) → List (Node × Node) → Reader (List (Node × Node))
  | 0, _ => failure
  | fuel + 1, entries => do
    if ← accept .flowMappingEnd then return entries.reverse
    if !entries.isEmpty then
      expect .comma
      if ← accept .flowMappingEnd then return entries.reverse
    if ← accept .key then
      let key ←
        if ← ends [.value, .comma, .flowMappingEnd] then noContent else read fuel false false
      let value ←
        if ← accept .value then
          if ← ends [.comma, .flowMappingEnd] then noContent else read fuel false false
        else noContent
      flowEntries fuel ((key, value) :: entries)
    else
      let key ← read fuel false false
      count 1
      flowEntries fuel ((key, .absent) :: entries)

end

end Node

/-- A document: its node, the anchored nodes in it, and the number of its events. -/
structure Document where
  root : Node
  anchored : List Anchored
  events : Nat

namespace Document

def empty : Document := ⟨.absent, [], 1⟩

/-- The handles that need no directive. -/
def defaultHandles : List (String × String) := [("!", "!"), ("!!", "tag:yaml.org,2002:")]

/-- Reads the directives in front of a document. There may be one for the version, which must be 1.1
or 1.2, and one for each handle. -/
def directives (versionSeen : Bool) (handles : List (String × String)) :
    List Token → Option (List (String × String) × List Token)
  | .version major minor :: ts =>
    if versionSeen || major != 1 || (minor != 1 && minor != 2) then none
    else directives true handles ts
  | .tagDirective handle expansion :: ts =>
    if handles.any (fun e => e.1 == handle) then none
    else directives versionSeen (handles ++ [(handle, expansion)]) ts
  | ts => some (handles, ts)

/-- Reads the node of a document, and what follows it. -/
def readRoot (handles : List (String × String)) (implicit : Bool) (tokens : List Token) :
    Option (Document × List Token) := do
  let reader : Node.Reader Node := do
    if !implicit && (← Node.ends [.documentStart, .documentEnd]) then Node.noContent
    else
      match ← Node.peek with
      | some (.version ..) | some (.tagDirective ..) =>
        if implicit then failure else Node.noContent
      | _ => Node.read (3 * tokens.length + 3) true false
  let (root, r) ← reader.run ⟨tokens, handles ++ defaultHandles, [], 0, [], 0⟩
  return (⟨root, r.anchored, r.events⟩, r.tokens)

/-- The only document of a text, or an empty one if there is none. The first document needs no
marker for its start. -/
def ofTokens? (tokens : List Token) : Option Document :=
  if tokens.isEmpty then some empty
  else do
    let (handles, rest) ← directives false [] tokens
    let explicit := rest.head? = some .documentStart
    if !explicit && rest.length < tokens.length then none
    else
      let (d, rest) ← readRoot handles (!explicit) (if explicit then rest.tail else rest)
      if (rest.dropWhile (· == .documentEnd)).isEmpty then return d else none

/-- The only document of a text. -/
def parse? (text : String) : Option Document := Token.ofText? text.toList >>= ofTokens?

end Document

end NodeGroups.Yaml
