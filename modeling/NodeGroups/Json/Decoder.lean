import NodeGroups.Json.Source

set_option autoImplicit false

namespace NodeGroups.Json

/-- Reads a value of a known shape from a source. -/
abbrev Decoder (α : Type) := (levels : Nat) → Source → Option α

namespace Decoder

variable {α β : Type}

def json : Decoder Json := fun levels s => s.json? levels

def string : Decoder String
  | _, .string s => s
  | _, _ => none

/-- An integer from 0 to `max`. -/
def natUpTo (max : Nat) : Decoder Nat
  | _, .number n => match n.value? with
    | some (.int (.ofNat k)) => if k ≤ max then some k else none
    | _ => none
  | _, _ => none

/-- An integer of up to 128 bits, written with digits only. -/
def wideNat : Decoder Nat
  | _, .number ⟨false, whole, none, none⟩ =>
    let n := Nat.ofDigitChars 10 whole 0
    if n < Nat.pow 2 128 then some n else none
  | _, _ => none

/-- A number, rounded to single precision. -/
def single : Decoder Numeric.Binary
  | _, .number n => match n.value? with
    | some (.int k) => some (Numeric.binary32.ofInt k)
    | some (.float x) => some (Numeric.binary32.convert x)
    | none => none
  | _, _ => none

/-- `null` for no value. -/
def optional (d : Decoder α) : Decoder (Option α)
  | _, .null => some none
  | levels, s => (d levels s).map some

/-- `null` for a default. -/
def orNull (default : α) (d : Decoder α) : Decoder α
  | _, .null => some default
  | levels, s => d levels s

def list (d : Decoder α) : Decoder (List α)
  | levels, .array xs => if levels = 0 then none else xs.mapM (d (levels - 1))
  | _, _ => none

/-- An object whose members are entries; the last of a repeated key stays. -/
def map (d : Decoder α) : Decoder (OrderedMap α)
  | levels, .object ms =>
    if levels = 0 then none
    else
      (ms.mapM (m := Option) fun (key, s) => do
        return (← key, ← d (levels - 1) s)).map OrderedMap.ofList
  | _, _ => none

/-- One of a list of names, as a string, or as the key of an object whose only member is `null`. -/
def variant (names : List (String × α)) : Decoder α
  | _, .string (some s) => names.lookup s
  | levels, .object [(some s, .null)] => if levels = 0 then none else names.lookup s
  | _, _ => none

/-- The fields of a record that were given, and the levels that their values may take. -/
structure Fields where
  levels : Nat
  given : List (String × Source)

/-- The members of an object with one of the given keys; a key of them may not be repeated. -/
def knownMembers? (keys : List String) :
    List (Option String × Source) → Option (List (String × Source))
  | [] => some []
  | (key, s) :: ms => do
    let key ← key
    let rest ← knownMembers? keys ms
    if keys.contains key then
      if rest.any (fun e => e.1 == key) then none else some ((key, s) :: rest)
    else some rest

def fields? (keys : List String) : Decoder Fields
  | levels, .object ms =>
    if levels = 0 then none else (knownMembers? keys ms).map (Fields.mk (levels - 1))
  | levels, .array xs =>
    if levels = 0 ∨ keys.length < xs.length then none
    else some ⟨levels - 1, keys.zip xs⟩
  | _, _ => none

/-- A field that must be given. -/
def Fields.required (f : Fields) (key : String) (d : Decoder α) : Option α := do
  d f.levels (← f.given.lookup key)

/-- A field that may be left out. -/
def Fields.withDefault (f : Fields) (key : String) (default : α) (d : Decoder α) : Option α :=
  match f.given.lookup key with
  | none => some default
  | some s => d f.levels s

def ofText? (d : Decoder α) (text : String) : Option α :=
  Source.parse? text >>= d maxNesting

end Decoder

end NodeGroups.Json
