import NodeGroups.Json.Basic

set_option autoImplicit false

namespace NodeGroups.Page

/-- Names a row of a list. -/
abbrev Handle := Nat

/-- Rows in page order under their handles, and the handle of the next row. -/
structure Rows (α : Type) where
  entries : List (Handle × α)
  next : Handle

namespace Rows

variable {α : Type}

def empty : Rows α := ⟨[], 0⟩

instance : Inhabited (Rows α) := ⟨empty⟩

def push (rows : Rows α) (row : α) : Rows α :=
  ⟨rows.entries ++ [(rows.next, row)], rows.next + 1⟩

def get? (rows : Rows α) (h : Handle) : Option α :=
  rows.entries.lookup h

def erase (rows : Rows α) (h : Handle) : Rows α :=
  { rows with entries := rows.entries.eraseP (fun e => e.1 == h) }

def modify (rows : Rows α) (h : Handle) (f : α → α) : Rows α :=
  { rows with entries := rows.entries.map fun e => if e.1 == h then (e.1, f e.2) else e }

/-- Removes all rows; their handles stay used. -/
def clear (rows : Rows α) : Rows α := { rows with entries := [] }

def toList (rows : Rows α) : List α := rows.entries.map (·.2)

def handles (rows : Rows α) : List Handle := rows.entries.map (·.1)

def size (rows : Rows α) : Nat := rows.entries.length

def isEmpty (rows : Rows α) : Bool := rows.entries.isEmpty

def append (rows : Rows α) (more : List α) : Rows α := more.foldl push rows

def entriesJson (f : α → Json) (rows : Rows α) : Json :=
  .ofList (fun e => .array [.nat e.1, f e.2]) rows.entries

def toJson (f : α → Json) (rows : Rows α) : Json :=
  .object [("rows", rows.entriesJson f)]

@[simp] theorem toList_empty : (empty : Rows α).toList = [] := rfl

@[simp] theorem toList_push (rows : Rows α) (row : α) :
    (rows.push row).toList = rows.toList ++ [row] := by
  simp [push, toList]

@[simp] theorem toList_clear (rows : Rows α) : rows.clear.toList = [] := rfl

@[simp] theorem toList_append (rows : Rows α) (more : List α) :
    (rows.append more).toList = rows.toList ++ more := by
  induction more generalizing rows with
  | nil => simp [append]
  | cons a more ih =>
    have h := ih (rows.push a)
    simp only [append, List.foldl_cons] at h ⊢
    rw [h]
    simp

@[simp] theorem next_push (rows : Rows α) (row : α) : (rows.push row).next = rows.next + 1 := rfl

@[simp] theorem next_erase (rows : Rows α) (h : Handle) : (rows.erase h).next = rows.next := rfl

@[simp] theorem next_clear (rows : Rows α) : rows.clear.next = rows.next := rfl

end Rows

/-- A row that exists on the page only, until a commit: text fields, and the record it was made
from, if it was made from one. -/
structure Row where
  fields : OrderedMap String
  source : Option String
  deriving DecidableEq

namespace Row

def ofFields (fields : List (String × String)) : Row := ⟨.ofList fields, none⟩

/-- Names the record that a row was made from. -/
def madeFrom (r : Row) (id : String) : Row := { r with source := some id }

/-- The text of a field, empty when there is no such field. -/
def get (r : Row) (key : String) : String := (r.fields.find? key).getD ""

/-- A row as a document; without a source there is no member for it. -/
def toJson (r : Row) : Json :=
  .object <| ("fields", .ofMap .string r.fields) ::
    match r.source with
    | none => []
    | some id => [("source_record_id", .string id)]

end Row

end NodeGroups.Page
