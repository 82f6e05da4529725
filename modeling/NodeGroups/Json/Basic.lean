import NodeGroups.Json.Number
import NodeGroups.OrderedMap

set_option autoImplicit false

namespace NodeGroups

open Json (Number)

/-- JSON values. The members of an object that is read, or that stands for a document, are in key
order with each key once (`Json.ofMembers`); a value that is only printed may have them in any
order. -/
inductive Json
  | null
  | bool (b : Bool)
  | number (n : Number)
  | string (s : String)
  | array (items : List Json)
  | object (members : List (String × Json))
  deriving Inhabited

namespace Json

open Numeric

mutual

def decEq : (a b : Json) → Decidable (a = b)
  | .null, b => match b with
    | .null => isTrue rfl
    | .bool _ | .number _ | .string _ | .array _ | .object _ => isFalse nofun
  | .bool x, b => match b with
    | .bool y => if h : x = y then isTrue (h ▸ rfl) else isFalse (fun e => h (Json.bool.inj e))
    | .null | .number _ | .string _ | .array _ | .object _ => isFalse nofun
  | .number x, b => match b with
    | .number y => if h : x = y then isTrue (h ▸ rfl) else isFalse (fun e => h (Json.number.inj e))
    | .null | .bool _ | .string _ | .array _ | .object _ => isFalse nofun
  | .string x, b => match b with
    | .string y => if h : x = y then isTrue (h ▸ rfl) else isFalse (fun e => h (Json.string.inj e))
    | .null | .bool _ | .number _ | .array _ | .object _ => isFalse nofun
  | .array xs, b => match b with
    | .array ys => match decEqItems xs ys with
      | isTrue h => isTrue (h ▸ rfl)
      | isFalse h => isFalse (fun e => h (Json.array.inj e))
    | .null | .bool _ | .number _ | .string _ | .object _ => isFalse nofun
  | .object xs, b => match b with
    | .object ys => match decEqMembers xs ys with
      | isTrue h => isTrue (h ▸ rfl)
      | isFalse h => isFalse (fun e => h (Json.object.inj e))
    | .null | .bool _ | .number _ | .string _ | .array _ => isFalse nofun

def decEqItems : (xs ys : List Json) → Decidable (xs = ys)
  | [], [] => isTrue rfl
  | [], _ :: _ => isFalse nofun
  | _ :: _, [] => isFalse nofun
  | x :: xs, y :: ys => match decEq x y with
    | isFalse h => isFalse (fun e => h (List.cons.inj e).1)
    | isTrue h => match decEqItems xs ys with
      | isTrue hs => isTrue (h ▸ hs ▸ rfl)
      | isFalse hs => isFalse (fun e => hs (List.cons.inj e).2)

def decEqMembers : (xs ys : List (String × Json)) → Decidable (xs = ys)
  | [], [] => isTrue rfl
  | [], _ :: _ => isFalse nofun
  | _ :: _, [] => isFalse nofun
  | (k, x) :: xs, (l, y) :: ys =>
    if hk : k = l then match decEq x y with
      | isFalse h => isFalse (fun e => h (Prod.mk.inj (List.cons.inj e).1).2)
      | isTrue h => match decEqMembers xs ys with
        | isTrue hs => isTrue (hk ▸ h ▸ hs ▸ rfl)
        | isFalse hs => isFalse (fun e => hs (List.cons.inj e).2)
    else isFalse (fun e => hk (Prod.mk.inj (List.cons.inj e).1).1)

end

instance : DecidableEq Json := decEq

mutual

/-- Equality of values in which the zeros of both signs are equal. -/
def sameValue : Json → Json → Bool
  | .number a, .number b => a.sameValue b
  | .array xs, .array ys => sameItems xs ys
  | .object xs, .object ys => sameMembers xs ys
  | a, b => a == b

/-- `sameValue` item by item. -/
def sameItems : List Json → List Json → Bool
  | [], [] => true
  | x :: xs, y :: ys => sameValue x y && sameItems xs ys
  | _, _ => false

/-- `sameValue` member by member. -/
def sameMembers : List (String × Json) → List (String × Json) → Bool
  | [], [] => true
  | (k, x) :: xs, (l, y) :: ys => k == l && sameValue x y && sameMembers xs ys
  | _, _ => false

end

def int (n : Int) : Json := .number (.int n)

def nat (n : Nat) : Json := .number (.int n)

/-- A floating point number of double or single precision, as a double; infinities and NaN become
`null`. -/
def ofBinary (x : Binary) : Json :=
  if x.isFinite then .number (.float (binary64.convert x)) else .null

def ofOption {α : Type} (f : α → Json) : Option α → Json
  | none => .null
  | some a => f a

def ofText? (s : Option String) : Json := ofOption .string s

def ofList {α : Type} (f : α → Json) (xs : List α) : Json := .array (xs.map f)

/-- An object whose members are put into key order, the last of a repeated key staying. -/
def ofMembers (members : List (String × Json)) : Json := .object (Entries.sort members)

def ofMap {α : Type} (f : α → Json) (m : OrderedMap α) : Json :=
  .object (m.entries.map fun e => (e.1, f e.2))

def get? (key : String) : Json → Option Json
  | .object members => Entries.find? key members
  | _ => none

def string? : Json → Option String
  | .string s => some s
  | _ => none

end Json

end NodeGroups
