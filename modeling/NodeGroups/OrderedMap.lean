/-!
Maps from text to values, kept as entries with strictly increasing keys. Keys are ordered by code
point, which is also the order of their UTF-8 bytes. Two maps with the same entries are equal, so
equality of maps is equality of contents.

The operations on bare entry lists are in `Entries`; `OrderedMap` adds the order as an invariant.
-/

set_option autoImplicit false

namespace NodeGroups

namespace Entries

variable {α β : Type}

/-- The keys strictly increase. -/
def Sorted (es : List (String × α)) : Prop :=
  es.Pairwise (fun a b => a.1 < b.1)

/-- Puts an entry at its place, over an earlier one of the same key. -/
def insert (k : String) (v : α) : List (String × α) → List (String × α)
  | [] => [(k, v)]
  | e :: es =>
    if k < e.1 then (k, v) :: e :: es
    else if k = e.1 then (k, v) :: es
    else e :: insert k v es

/-- The value of the first entry with this key. -/
def find? (k : String) : List (String × α) → Option α
  | [] => none
  | e :: es => if e.1 = k then some e.2 else find? k es

/-- All entries but those with this key. -/
def erase (k : String) (es : List (String × α)) : List (String × α) :=
  es.filter (fun e => e.1 ≠ k)

/-- Sorts entries by key; of two with one key the later stays. -/
def sort (es : List (String × α)) : List (String × α) :=
  es.foldl (fun m e => insert e.1 e.2 m) []

theorem mem_insert {k : String} {v : α} {es : List (String × α)} {e : String × α}
    (h : e ∈ insert k v es) : e = (k, v) ∨ e ∈ es := by
  induction es with
  | nil => simpa [insert] using h
  | cons a es ih =>
    simp only [insert] at h
    split at h
    · simpa using h
    · split at h
      · rcases List.mem_cons.1 h with h | h
        · exact .inl h
        · exact .inr (List.mem_cons_of_mem _ h)
      · rcases List.mem_cons.1 h with h | h
        · exact .inr (by simp [h])
        · exact (ih h).imp id (List.mem_cons_of_mem _)

theorem Sorted.insert {es : List (String × α)} (h : Sorted es) (k : String) (v : α) :
    Sorted (insert k v es) := by
  induction es with
  | nil => simp [Entries.insert, Sorted]
  | cons a es ih =>
    obtain ⟨ha, hes⟩ := List.pairwise_cons.1 h
    simp only [Entries.insert]
    split
    · next hk =>
      refine List.pairwise_cons.2 ⟨fun e he => ?_, h⟩
      rcases List.mem_cons.1 he with rfl | he
      · exact hk
      · exact String.lt_trans hk (ha e he)
    · next hk =>
      split
      · next heq => exact List.pairwise_cons.2 ⟨fun e he => heq ▸ ha e he, hes⟩
      · next hne =>
        refine List.pairwise_cons.2 ⟨fun e he => ?_, ih hes⟩
        rcases mem_insert he with rfl | he
        · refine Decidable.byContradiction fun hlt => hne ?_
          exact String.le_antisymm (String.not_lt.1 hlt) (String.not_lt.1 hk)
        · exact ha e he

theorem sorted_sort (es : List (String × α)) : Sorted (sort es) := by
  have go : ∀ (m : List (String × α)), Sorted m →
      Sorted (es.foldl (fun m e => Entries.insert e.1 e.2 m) m) := by
    induction es with
    | nil => exact fun m hm => hm
    | cons e es ih => exact fun m hm => ih _ (hm.insert _ _)
  exact go [] List.Pairwise.nil

theorem find?_insert_self (k : String) (v : α) (es : List (String × α)) :
    find? k (insert k v es) = some v := by
  induction es with
  | nil => simp [insert, find?]
  | cons e es ih =>
    simp only [insert]
    split
    · simp [find?]
    · split
      · simp [find?]
      · next hne => simp [find?, Ne.symm hne, ih]

theorem find?_insert_of_ne {k j : String} (hne : j ≠ k) (v : α) (es : List (String × α)) :
    find? j (insert k v es) = find? j es := by
  induction es with
  | nil => simp [insert, find?, hne.symm]
  | cons e es ih =>
    simp only [insert]
    split
    · simp [find?, hne.symm]
    · split
      · next heq => simp [find?, hne.symm, ← heq]
      · simp [find?, ih]

end Entries

/-- A map with text keys: entries in increasing order of their keys. -/
structure OrderedMap (α : Type) where
  entries : List (String × α)
  sorted : Entries.Sorted entries

namespace OrderedMap

variable {α β : Type}

instance [DecidableEq α] : DecidableEq (OrderedMap α) := fun a b =>
  match decEq a.entries b.entries with
  | isTrue h => isTrue (by cases a; cases b; simpa using h)
  | isFalse h => isFalse (fun hab => h (hab ▸ rfl))

@[ext] theorem ext {a b : OrderedMap α} (h : a.entries = b.entries) : a = b := by
  cases a; cases b; simpa using h

def empty : OrderedMap α := ⟨[], List.Pairwise.nil⟩

instance : EmptyCollection (OrderedMap α) := ⟨empty⟩
instance : Inhabited (OrderedMap α) := ⟨empty⟩

/-- The map with no key is the only empty one. -/
def isEmpty (m : OrderedMap α) : Bool := m.entries.isEmpty

def find? (m : OrderedMap α) (k : String) : Option α := Entries.find? k m.entries

def insert (m : OrderedMap α) (k : String) (v : α) : OrderedMap α :=
  ⟨Entries.insert k v m.entries, m.sorted.insert k v⟩

def erase (m : OrderedMap α) (k : String) : OrderedMap α :=
  ⟨Entries.erase k m.entries, m.sorted.filter _⟩

/-- The map of the given entries, a later one of a key replacing an earlier one. -/
def ofList (es : List (String × α)) : OrderedMap α :=
  ⟨Entries.sort es, Entries.sorted_sort es⟩

def keys (m : OrderedMap α) : List String := m.entries.map (·.1)

def values (m : OrderedMap α) : List α := m.entries.map (·.2)

def map (f : α → β) (m : OrderedMap α) : OrderedMap β :=
  ⟨m.entries.map (fun e => (e.1, f e.2)), by
    simpa [Entries.Sorted, List.pairwise_map] using m.sorted⟩

@[simp] theorem entries_empty : (∅ : OrderedMap α).entries = [] := rfl

@[simp] theorem entries_insert (m : OrderedMap α) (k : String) (v : α) :
    (m.insert k v).entries = Entries.insert k v m.entries := rfl

@[simp] theorem find?_insert_self (m : OrderedMap α) (k : String) (v : α) :
    (m.insert k v).find? k = some v := Entries.find?_insert_self k v m.entries

theorem find?_insert_of_ne (m : OrderedMap α) {k j : String} (hne : j ≠ k) (v : α) :
    (m.insert k v).find? j = m.find? j := Entries.find?_insert_of_ne hne v m.entries

@[simp] theorem entries_ofList (es : List (String × α)) :
    (ofList es).entries = Entries.sort es := rfl

end OrderedMap

end NodeGroups
