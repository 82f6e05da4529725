import NodeGroups.Numeric.Binary

set_option autoImplicit false

namespace NodeGroups

/-- A TOML value. Of dates and times only the fact is kept. -/
inductive Toml
  | string (s : String)
  | integer (n : Int)
  | float (x : Numeric.Binary)
  | boolean (b : Bool)
  | moment
  | array (items : List Toml)
  | table (members : List (String × Toml))
  deriving Inhabited

namespace Toml

/-- A key of a table under construction and what stands under it. A table is `implicit` until a
header names it, and `dotted` if a dotted key made it. -/
inductive Node
  | value (v : Toml)
  | table (implicit dotted : Bool) (entries : List (String × Node))
  | tables (items : List (List (String × Node)))

/-- The entries of a table under construction. -/
abbrev Entries := List (String × Node)

/-- Puts a node under a key, in place of the one there. -/
def Entries.set (es : Entries) (key : String) (n : Node) : Entries :=
  if es.any (fun e => e.1 == key) then es.map fun e => if e.1 == key then (key, n) else e
  else es ++ [(key, n)]

/-- Applies `f` to the table at a path, which is made where it is missing. `f` is told whether that
table is dotted. A path goes through the last item of an array of tables. A dotted key (`dotted`)
may not enter a table that has a header. -/
def descend (dotted : Bool) (f : Bool → Entries → Option Entries) :
    List String → Bool → Entries → Option Entries
  | [], atDotted, es => f atDotted es
  | key :: path, _, es =>
    match es.lookup key with
    | none => (descend dotted f path dotted []).map fun inner =>
        es.set key (.table true dotted inner)
    | some (.value _) => none
    | some (.tables items) => do
      let last ← items.getLast?
      let inner ← descend dotted f path false last
      return es.set key (.tables (items.dropLast ++ [inner]))
    | some (.table implicit isDotted inner) =>
      if dotted && !implicit then none
      else (descend dotted f path isDotted inner).map fun inner =>
        es.set key (.table implicit isDotted inner)

/-- Sets a key that must be new, in a table that is reached by the given path of a dotted key. -/
def assign (path : List String) (key : String) (v : Toml) (es : Entries) : Option Entries :=
  descend true
    (fun isDotted es =>
      if isDotted == path.isEmpty then none
      else if es.any (fun e => e.1 == key) then none
      else some (es ++ [(key, .value v)]))
    path false es

/-- A key, split at its dots: all parts but the last, and the last. -/
structure Key where
  path : List String
  last : String

structure Assignment where
  key : Key
  value : Toml

def assignAll (assignments : List Assignment) (es : Entries) : Option Entries :=
  assignments.foldlM (fun es a => assign a.key.path a.key.last a.value es) es

/-- What a header opens: a table, or one more item of an array of tables. -/
inductive Header
  | table (key : Key)
  | item (key : Key)

/-- A header with the assignments that follow it; no header for those at the start. -/
structure Section where
  header : Option Header
  assignments : List Assignment

/-- Adds a section to a document. A header may take over a table that only was on the path of other
headers. -/
def Section.apply (s : Section) (root : Entries) : Option Entries :=
  match s.header with
  | none => assignAll s.assignments root
  | some (.table key) =>
    descend false (fun _ es =>
      let start := match es.lookup key.last with
        | none => some []
        | some (.table true false inner) => some inner
        | some _ => none
      do return es.set key.last (.table false false (← assignAll s.assignments (← start))))
      key.path false root
  | some (.item key) =>
    descend false (fun _ es => do
      let items ← match es.lookup key.last with
        | none => some []
        | some (.tables items) => some items
        | some _ => none
      return es.set key.last (.tables (items ++ [← assignAll s.assignments []])))
      key.path false root

mutual

def Node.finish : Node → Toml
  | .value v => v
  | .table _ _ es => .table (finishEntries es)
  | .tables items => .array (finishTables items)

def finishEntries : List (String × Node) → List (String × Toml)
  | [] => []
  | (key, n) :: es => (key, n.finish) :: finishEntries es

def finishTables : List (List (String × Node)) → List Toml
  | [] => []
  | es :: items => .table (finishEntries es) :: finishTables items

end

def ofSections? (sections : List Section) : Option (List (String × Toml)) :=
  (sections.foldlM (fun root (s : Section) => s.apply root) []).map finishEntries

/-- The value of an inline table. -/
def ofInline? (assignments : List Assignment) : Option Toml :=
  (assignAll assignments []).map fun es => .table (finishEntries es)

end Toml

end NodeGroups
