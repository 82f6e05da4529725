import NodeGroups.Proofs.Json.Decoding
import NodeGroups.Proofs.Json.Printing

set_option autoImplicit false

namespace NodeGroups.Json

/-- What holds of values without parts, and of arrays and objects when it holds of what stands in
them, holds of every value. -/
@[elab_as_elim]
theorem nested_induction {motive : Json → Prop} (null : motive .null)
    (bool : ∀ b, motive (.bool b)) (number : ∀ n, motive (.number n))
    (string : ∀ s, motive (.string s))
    (array : ∀ xs, (∀ x ∈ xs, motive x) → motive (.array xs))
    (object : ∀ ms, (∀ m ∈ ms, motive m.2) → motive (.object ms)) (v : Json) : motive v :=
  @Json.rec motive (fun xs => ∀ x ∈ xs, motive x) (fun ms => ∀ m ∈ ms, motive m.2)
    (fun m => motive m.2) null bool number string array object
    (fun _ member => absurd member List.not_mem_nil)
    (fun _ _ first others _ member =>
      (List.mem_cons.mp member).elim (fun same => same ▸ first) (others _))
    (fun _ member => absurd member List.not_mem_nil)
    (fun _ _ first others _ member =>
      (List.mem_cons.mp member).elim (fun same => same ▸ first) (others _))
    (fun _ _ value => value) v

mutual

/-- How many arrays and objects stand in one another. -/
def depth : Json → Nat
  | .array xs => depthOfItems xs + 1
  | .object ms => depthOfMembers ms + 1
  | _ => 0

def depthOfItems : List Json → Nat
  | [] => 0
  | x :: xs => max (depth x) (depthOfItems xs)

def depthOfMembers : List (String × Json) → Nat
  | [] => 0
  | (_, x) :: ms => max (depth x) (depthOfMembers ms)

end

mutual

/-- The members of every object are in key order and each key is there once, as in all values that
are read. -/
def isOrdered : Json → Bool
  | .array xs => areOrdered xs
  | .object ms => decide ((ms.map Prod.fst).Pairwise (· < ·)) && haveOrdered ms
  | _ => true

def areOrdered : List Json → Bool
  | [] => true
  | x :: xs => isOrdered x && areOrdered xs

def haveOrdered : List (String × Json) → Bool
  | [] => true
  | (_, x) :: ms => isOrdered x && haveOrdered ms

end

theorem depth_lt_of_item {x : Json} {xs : List Json} (member : x ∈ xs) :
    x.depth < (Json.array xs).depth := by
  refine Nat.lt_succ_of_le ?_
  induction xs with
  | nil => exact absurd member List.not_mem_nil
  | cons y ys ih =>
    rcases List.mem_cons.mp member with rfl | member
    · exact Nat.le_max_left _ _
    · exact Nat.le_trans (ih member) (Nat.le_max_right _ _)

theorem depth_lt_of_member {m : String × Json} {ms : List (String × Json)} (member : m ∈ ms) :
    m.2.depth < (Json.object ms).depth := by
  refine Nat.lt_succ_of_le ?_
  induction ms with
  | nil => exact absurd member List.not_mem_nil
  | cons l ms ih =>
    rcases List.mem_cons.mp member with rfl | member
    · exact Nat.le_max_left _ _
    · exact Nat.le_trans (ih member) (Nat.le_max_right _ _)

theorem isOrdered_array {xs : List Json} :
    (Json.array xs).isOrdered = true ↔ ∀ x ∈ xs, x.isOrdered = true := by
  change areOrdered xs = true ↔ _
  induction xs with
  | nil => simp [areOrdered]
  | cons x xs ih => simp [areOrdered, ih]

theorem isOrdered_object {ms : List (String × Json)} :
    (Json.object ms).isOrdered = true ↔
      Entries.Sorted ms ∧ ∀ m ∈ ms, m.2.isOrdered = true := by
  have members : haveOrdered ms = true ↔ ∀ m ∈ ms, m.2.isOrdered = true := by
    induction ms with
    | nil => simp [haveOrdered]
    | cons m ms ih => simp [haveOrdered, ih]
  rw [isOrdered, Bool.and_eq_true, decide_eq_true_iff, List.pairwise_map, members, Entries.Sorted]

theorem isIntegral_array {xs : List Json} :
    (Json.array xs).isIntegral = true ↔ ∀ x ∈ xs, x.isIntegral = true := by
  change areIntegral xs = true ↔ _
  induction xs with
  | nil => simp [areIntegral]
  | cons x xs ih => simp [areIntegral, ih]

theorem isIntegral_object {ms : List (String × Json)} :
    (Json.object ms).isIntegral = true ↔ ∀ m ∈ ms, m.2.isIntegral = true := by
  change haveIntegral ms = true ↔ _
  induction ms with
  | nil => simp [haveIntegral]
  | cons m ms ih => simp [haveIntegral, ih]

section Collections

variable {α : Type} {f : α → Json}

theorem depth_lt_of_list {x : α} {xs : List α} (member : x ∈ xs) :
    (f x).depth < (ofList f xs).depth := depth_lt_of_item (List.mem_map_of_mem member)

theorem depth_lt_of_map {e : String × α} {m : OrderedMap α} (member : e ∈ m.entries) :
    (f e.2).depth < (ofMap f m).depth :=
  depth_lt_of_member (m := (e.1, f e.2)) (List.mem_map.mpr ⟨e, member, rfl⟩)

theorem isIntegral_list {xs : List α} (parts : ∀ x ∈ xs, (f x).isIntegral = true) :
    (ofList f xs).isIntegral = true :=
  isIntegral_array.mpr (List.forall_mem_map.mpr parts)

theorem isIntegral_map {m : OrderedMap α} (parts : ∀ e ∈ m.entries, (f e.2).isIntegral = true) :
    (ofMap f m).isIntegral = true :=
  isIntegral_object.mpr (List.forall_mem_map.mpr parts)

theorem isIntegral_option {o : Option α} (parts : ∀ a ∈ o, (f a).isIntegral = true) :
    (ofOption f o).isIntegral = true := by
  cases o with
  | none => rfl
  | some a => exact parts a rfl

end Collections

/-- A value that is written and read without loss: its numbers are exact integers, and its members
are in the order in which they are read. -/
structure Portable (v : Json) : Prop where
  ordered : v.isOrdered = true
  integral : v.isIntegral = true

instance (v : Json) : Decidable v.Portable :=
  decidable_of_iff (v.isOrdered = true ∧ v.isIntegral = true)
    ⟨fun ⟨ordered, integral⟩ => ⟨ordered, integral⟩, fun portable =>
      ⟨portable.ordered, portable.integral⟩⟩

namespace Source

mutual

/-- Every value that is read is in order. -/
theorem isOrdered_json? : (source : Source) → {levels : Nat} → {v : Json} →
    source.json? levels = some v → v.isOrdered = true
  | .null, _, _, read => by
    cases read
    rfl
  | .bool _, _, _, read => by
    cases read
    rfl
  | .number n, _, _, read => by
    obtain ⟨_, _, rfl⟩ := Option.map_eq_some_iff.mp read
    rfl
  | .string s, _, _, read => by
    obtain ⟨_, _, rfl⟩ := Option.map_eq_some_iff.mp read
    rfl
  | .array sources, levels, _, read => by
    rw [json?] at read
    split at read
    · cases read
    · obtain ⟨xs, items, rfl⟩ := Option.map_eq_some_iff.mp read
      exact isOrdered_array.mpr (isOrdered_jsonItems? sources items)
  | .object sources, levels, _, read => by
    rw [json?] at read
    split at read
    · cases read
    · obtain ⟨ms, members, rfl⟩ := Option.map_eq_some_iff.mp read
      refine isOrdered_object.mpr ⟨Entries.sorted_sort ms, fun m member => ?_⟩
      exact isOrdered_jsonMembers? sources members m (Entries.mem_of_mem_sort member)

theorem isOrdered_jsonItems? : (sources : List Source) → {levels : Nat} → {xs : List Json} →
    jsonItems? levels sources = some xs → ∀ x ∈ xs, x.isOrdered = true
  | [], _, _, read => by
    cases read
    exact fun x member => absurd member List.not_mem_nil
  | source :: sources, levels, _, read => by
    obtain ⟨x, first, read⟩ := Option.bind_eq_some_iff.mp read
    obtain ⟨xs, others, read⟩ := Option.bind_eq_some_iff.mp read
    cases read
    intro y member
    rcases List.mem_cons.mp member with rfl | member
    · exact isOrdered_json? source first
    · exact isOrdered_jsonItems? sources others y member

theorem isOrdered_jsonMembers? : (sources : List (Option String × Source)) → {levels : Nat} →
    {ms : List (String × Json)} → jsonMembers? levels sources = some ms →
      ∀ m ∈ ms, m.2.isOrdered = true
  | [], _, _, read => by
    cases read
    exact fun m member => absurd member List.not_mem_nil
  | (key, source) :: sources, levels, _, read => by
    obtain ⟨k, -, read⟩ := Option.bind_eq_some_iff.mp read
    obtain ⟨x, first, read⟩ := Option.bind_eq_some_iff.mp read
    obtain ⟨ms, others, read⟩ := Option.bind_eq_some_iff.mp read
    cases read
    intro m member
    rcases List.mem_cons.mp member with rfl | member
    · exact isOrdered_json? source first
    · exact isOrdered_jsonMembers? sources others m member

end

end Source

theorem isOrdered_parse? {text : String} {v : Json} (read : parse? text = some v) :
    v.isOrdered = true := by
  obtain ⟨source, -, read⟩ := Option.bind_eq_some_iff.mp read
  exact source.isOrdered_json? read

end NodeGroups.Json

namespace NodeGroups.Json.Decoder

open Source (Means)

theorem Takes.mono {α : Type} {d : Decoder α} {depth deeper : Nat} {v : Json} {a : α}
    (takes : Takes d depth v a) (le : depth ≤ deeper) : Takes d deeper v a :=
  fun levels source enough => takes levels source (Nat.le_trans le enough)

theorem jsonItems?_eq_mapM (levels : Nat) (sources : List Source) :
    Source.jsonItems? levels sources = sources.mapM (json levels) := by
  induction sources with
  | nil => rfl
  | cons source sources ih =>
    rw [Source.jsonItems?, ih, List.mapM_cons]
    rfl

theorem jsonMembers?_eq_mapM (levels : Nat) (given : List (Option String × Source)) :
    Source.jsonMembers? levels given =
      given.mapM fun g => do return (← g.1, ← json levels g.2) := by
  induction given with
  | nil => rfl
  | cons g given ih =>
    rw [Source.jsonMembers?, ih, List.mapM_cons]
    cases g.1 with
    | none => rfl
    | some key => cases read : json levels g.2 <;> simp_all [json]

/-- A text is read as a list of values just if its value is the array of these. -/
theorem ofText?_list_json {text : String} {xs : List Json} :
    (list json).ofText? text = some xs ↔ parse? text = some (.array xs) := by
  rw [ofText?, parse?]
  cases Source.parse? text with
  | none => exact iff_of_false (by rintro ⟨⟩) (by rintro ⟨⟩)
  | some source =>
    change list json maxNesting source = some xs ↔ source.json? maxNesting = some (.array xs)
    cases source with
    | array sources =>
      change sources.mapM (json (maxNesting - 1)) = _ ↔ _
      rw [Source.json?, if_neg (by decide), jsonItems?_eq_mapM, Option.map_eq_some_iff]
      simp only [Json.array.injEq, exists_eq_right]
    | object members =>
      rw [Source.json?, if_neg (by decide)]
      refine iff_of_false (by rintro ⟨⟩) fun read => ?_
      obtain ⟨ms, -, other⟩ := Option.map_eq_some_iff.mp read
      cases other
    | number n =>
      refine iff_of_false (by rintro ⟨⟩) fun read => ?_
      obtain ⟨_, -, other⟩ := Option.map_eq_some_iff.mp read
      cases other
    | string s =>
      refine iff_of_false (by rintro ⟨⟩) fun read => ?_
      obtain ⟨_, -, other⟩ := Option.map_eq_some_iff.mp read
      cases other
    | null | bool => exact iff_of_false (by rintro ⟨⟩) (by rintro ⟨⟩)

/-- A value is read back from each of its texts, if there are as many levels as it is deep. -/
theorem takes_json {v : Json} (ordered : v.isOrdered = true) : Takes json v.depth v v := by
  induction v using nested_induction with
  | null | bool | string =>
    intro levels source _ means
    cases means
    rfl
  | number n =>
    intro levels source _ means
    cases means with
    | number stands => exact congrArg (Option.map Json.number) stands
  | array xs ih =>
    have items : Takes (.list json) (Json.array xs).depth (.ofList id xs) xs :=
      takes_list fun x member => (ih x member (isOrdered_array.mp ordered x member)).mono
        (Nat.le_of_lt_succ (depth_lt_of_item member))
    rw [ofList, List.map_id] at items
    intro levels source enough means
    have read := items levels source enough means
    obtain ⟨levels, rfl⟩ := Nat.exists_eq_add_of_le' (Nat.le_of_add_left_le enough : 1 ≤ levels)
    cases means with
    | @array sources _ _ =>
      change sources.mapM (json levels) = some xs at read
      change (Source.jsonItems? levels sources).map Json.array = _
      rw [jsonItems?_eq_mapM, read, Option.map_some]
  | object ms ih =>
    intro levels source enough means
    obtain ⟨levels, rfl⟩ := Nat.exists_eq_add_of_le' (Nat.le_of_add_left_le enough : 1 ≤ levels)
    obtain ⟨sorted, ordered⟩ := isOrdered_object.mp ordered
    cases means with
    | @object given _ order named values perm =>
      have read := mapM_members (f := id) named values (fun m member => by
        have within := perm.mem_iff.mp member
        exact (ih m within (ordered m within)).mono
          (Nat.le_of_lt_succ (depth_lt_of_member within))) (Nat.le_of_succ_le_succ enough)
      change (Source.jsonMembers? levels given).map Json.ofMembers = _
      rw [jsonMembers?_eq_mapM, read, Option.map_some, ofMembers,
        Entries.sort_of_perm sorted perm]

end NodeGroups.Json.Decoder
