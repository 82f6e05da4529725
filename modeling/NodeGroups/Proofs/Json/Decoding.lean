import NodeGroups.Json.Decoder
import NodeGroups.Proofs.Json.Reading
import NodeGroups.Proofs.OrderedMap

set_option autoImplicit false

namespace NodeGroups.Json.Decoder

open Grammar (TextOf)
open Source (Means)

variable {α β : Type}

/-- A decoder gets `a` from every source of a value, with this many levels at least. -/
def Takes (d : Decoder α) (depth : Nat) (v : Json) (a : α) : Prop :=
  ∀ levels source, depth ≤ levels → Means source v → d levels source = some a

/-- What a decoder takes a value for is read from every text of the value. -/
theorem Takes.ofText? {d : Decoder α} {depth : Nat} {v : Json} {a : α} (takes : Takes d depth v a)
    (shallow : depth ≤ maxNesting) {text : String} (written : TextOf v text) :
    Decoder.ofText? d text = some a := by
  obtain ⟨source, read, means⟩ := Source.parse?_of_text written
  rw [Decoder.ofText?, read]
  exact takes maxNesting source shallow means

theorem takes_string (s : String) : Takes .string 0 (.string s) s := by
  intro levels source _ means
  cases means
  rfl

theorem takes_json_string (s : String) : Takes .json 0 (.string s) (.string s) := by
  intro levels source _ means
  cases means
  rfl

theorem takes_variant {names : List (String × α)} {name : String} {a : α}
    (listed : names.lookup name = some a) : Takes (.variant names) 0 (.string name) a := by
  intro levels source _ means
  cases means
  exact listed

/-- A value other than `null` is taken for what is behind the default. -/
theorem Takes.orNull {d : Decoder α} {depth : Nat} {v : Json} {a : α} (takes : Takes d depth v a)
    (default : α) (given : v ≠ .null) : Takes (.orNull default d) depth v a := by
  intro levels source enough means
  rw [← takes levels source enough means]
  cases means with
  | null => exact absurd rfl given
  | _ => rfl

theorem Takes.optional {d : Decoder α} {depth : Nat} {v : Json} {a : α} (takes : Takes d depth v a)
    (given : v ≠ .null) : Takes (.optional d) depth v (some a) := by
  intro levels source enough means
  have taken := takes levels source enough means
  cases means with
  | null => exact absurd rfl given
  | _ => exact congrArg (Option.map some) taken

/-- `null` is taken for no value, if no value is written so. -/
theorem takes_ofOption {d : Decoder α} {depth : Nat} {f : α → Json} {o : Option α}
    (takes : ∀ a ∈ o, Takes d depth (f a) a) (given : ∀ a, f a ≠ .null) :
    Takes (.optional d) depth (.ofOption f o) o := by
  cases o with
  | some a => exact (takes a rfl).optional (given a)
  | none =>
    intro levels source _ means
    cases means
    rfl

theorem takes_ofText? (s : Option String) : Takes (.optional .string) 0 (.ofText? s) s :=
  takes_ofOption (fun s _ => takes_string s) nofun

theorem takes_list {d : Decoder α} {depth : Nat} {f : α → Json} {xs : List α}
    (takes : ∀ x ∈ xs, Takes d depth (f x) x) : Takes (.list d) (depth + 1) (.ofList f xs) xs := by
  intro levels source enough means
  obtain ⟨levels, rfl⟩ := Nat.exists_eq_add_of_le' (Nat.le_of_add_left_le enough : 1 ≤ levels)
  cases means with
  | @array sources _ items =>
    change sources.mapM (d levels) = some xs
    induction xs generalizing sources with
    | nil =>
      cases items
      rfl
    | cons x xs ih =>
      cases items with
      | cons first others =>
        have head := takes x List.mem_cons_self levels _ (Nat.le_of_succ_le_succ enough) first
        have tail := ih (fun y member => takes y (List.mem_cons_of_mem x member)) others
        rw [List.mapM_cons, head]
        change (List.mapM (d levels) _ >>= _) = _
        rw [tail]
        rfl

/-- The members of an object are read as the entries that they stand for. -/
theorem mapM_members {d : Decoder α} {depth levels : Nat} {f : α → Json}
    {given : List (Option String × Source)} {es : List (String × α)}
    (named : given.map Prod.fst = es.map fun e => some e.1)
    (values : List.Forall₂ Means (given.map Prod.snd) (es.map fun e => f e.2))
    (takes : ∀ e ∈ es, Takes d depth (f e.2) e.2) (enough : depth ≤ levels) :
    (given.mapM fun g => do return (← g.1, ← d levels g.2) : Option (List (String × α))) =
      some es := by
  induction es generalizing given with
  | nil =>
    cases given with
    | nil => rfl
    | cons g given => cases named
  | cons e es ih =>
    cases given with
    | nil => cases named
    | cons g given =>
      obtain ⟨key, source⟩ := g
      obtain ⟨head, tail⟩ := List.cons.inj named
      change key = some e.1 at head
      subst head
      cases values with
      | cons first others =>
        have read := takes e List.mem_cons_self levels source enough first
        have onward := ih tail others fun e member => takes e (List.mem_cons_of_mem _ member)
        rw [List.mapM_cons, onward, read]
        rfl

/-- The members of an object are taken for a map whatever their order. -/
theorem takes_map {d : Decoder α} {depth : Nat} {f : α → Json} {m : OrderedMap α}
    (takes : ∀ e ∈ m.entries, Takes d depth (f e.2) e.2) :
    Takes (.map d) (depth + 1) (.ofMap f m) m := by
  intro levels source enough means
  obtain ⟨levels, rfl⟩ := Nat.exists_eq_add_of_le' (Nat.le_of_add_left_le enough : 1 ≤ levels)
  cases means with
  | @object given _ order named values perm =>
    have image : List.Forall₂ (fun x (e : String × α) => x = (e.1, f e.2))
        (m.entries.map fun e => (e.1, f e.2)) m.entries :=
      List.forall₂_map_left_iff.mpr (List.forall₂_same.mpr fun e _ => rfl)
    obtain ⟨es, same, shuffled⟩ := List.perm_comp_forall₂ perm image
    obtain rfl : order = es.map fun e => (e.1, f e.2) := by
      rwa [← List.forall₂_map_right_iff (R := Eq), List.forall₂_eq_eq_eq] at same
    rw [List.map_map] at named values
    have read := mapM_members named values
      (fun e member => takes e (shuffled.mem_iff.mp member)) (Nat.le_of_succ_le_succ enough)
    change (given.mapM fun g => do return (← g.1, ← d levels g.2) : Option _).map _ = _
    rw [read, Option.map_some, OrderedMap.ofList_perm shuffled]

/-- The fields give a source of each of these members. -/
def Fields.Give (f : Fields) (ms : List (String × Json)) : Prop :=
  ∀ m ∈ ms, ∃ source, f.given.lookup m.1 = some source ∧ Means source m.2

theorem Fields.Give.required {f : Fields} {ms : List (String × Json)} (give : f.Give ms)
    (key : String) {v : Json} (member : (key, v) ∈ ms) {d : Decoder α} {depth : Nat} {a : α}
    (takes : Takes d depth v a) (enough : depth ≤ f.levels) : f.required key d = some a := by
  obtain ⟨source, found, means⟩ := give (key, v) member
  rw [Fields.required, found]
  exact takes f.levels source enough means

theorem Fields.Give.withDefault {f : Fields} {ms : List (String × Json)} (give : f.Give ms)
    (key : String) {v : Json} (member : (key, v) ∈ ms) {d : Decoder α} {depth : Nat} {a : α}
    (takes : Takes d depth v a) (enough : depth ≤ f.levels) (default : α) :
    f.withDefault key default d = some a := by
  obtain ⟨source, found, means⟩ := give (key, v) member
  rw [Fields.withDefault, found]
  exact takes f.levels source enough means

/-- Members whose keys are known and not repeated are all given. -/
theorem knownMembers?_of_means {keys : List String} {given : List (Option String × Source)}
    {ms : List (String × Json)} (named : given.map Prod.fst = ms.map fun m => some m.1)
    (means : List.Forall₂ Means (given.map Prod.snd) (ms.map Prod.snd))
    (distinct : (ms.map Prod.fst).Nodup) (known : ∀ m ∈ ms, m.1 ∈ keys) :
    ∃ found, knownMembers? keys given = some found ∧ found.map Prod.fst = ms.map Prod.fst ∧
      ∀ m ∈ ms, ∃ source, found.lookup m.1 = some source ∧ Means source m.2 := by
  induction ms generalizing given with
  | nil =>
    cases given with
    | nil => exact ⟨[], rfl, rfl, fun m member => absurd member List.not_mem_nil⟩
    | cons g given => cases named
  | cons m ms ih =>
    obtain ⟨k, x⟩ := m
    cases given with
    | nil => cases named
    | cons g given =>
      obtain ⟨key, source⟩ := g
      obtain ⟨head, tail⟩ := List.cons.inj named
      change key = some k at head
      subst head
      cases means with
      | cons first others =>
        obtain ⟨fresh, distinct⟩ := List.nodup_cons.mp distinct
        obtain ⟨found, read, keysFound, look⟩ := ih tail others distinct
          fun m member => known m (List.mem_cons_of_mem _ member)
        have unused : (found.any fun e => e.1 == k) = false := by
          rw [List.any_eq_false]
          intro e member same
          have among : k ∈ found.map Prod.fst :=
            List.mem_map.mpr ⟨e, member, beq_iff_eq.mp same⟩
          rw [keysFound] at among
          exact fresh among
        refine ⟨(k, source) :: found, ?_, congrArg (k :: ·) keysFound, fun m member => ?_⟩
        · rw [knownMembers?, read]
          have listed : keys.contains k = true :=
            List.contains_iff_mem.mpr (known (k, x) List.mem_cons_self)
          simp only [Option.bind_eq_bind, Option.bind_some, listed, unused, if_true]
          rfl
        · rcases List.mem_cons.mp member with rfl | member
          · exact ⟨source, List.lookup_cons_self, first⟩
          · have other : (m.1 == k) = false := by
              exact beq_eq_false_iff_ne.mpr fun same =>
                fresh (List.mem_map.mpr ⟨m, member, same⟩)
            rw [List.lookup_cons, other]
            exact look m member

/-- A source of an object with known members gives all of them. -/
theorem fields?_of_means (keys : List String) (levels : Nat) {ms : List (String × Json)}
    {source : Source} (means : Means source (.object ms)) (distinct : (ms.map Prod.fst).Nodup)
    (known : ∀ m ∈ ms, m.1 ∈ keys) :
    ∃ f, fields? keys (levels + 1) source = some f ∧ f.levels = levels ∧ f.Give ms := by
  cases means with
  | @object given _ order named values perm =>
    have distinctOrder : (order.map Prod.fst).Nodup := (perm.map Prod.fst).nodup_iff.mpr distinct
    obtain ⟨found, read, -, look⟩ := knownMembers?_of_means named values distinctOrder
      fun m member => known m (perm.mem_iff.mp member)
    refine ⟨⟨levels, found⟩, ?_, rfl, fun m member => look m (perm.mem_iff.mpr member)⟩
    rw [fields?, if_neg (Nat.succ_ne_zero levels), read]
    rfl

/-- What is not a member of an object is not found. -/
theorem knownMembers?_absent {keys : List String} {given : List (Option String × Source)}
    {found : List (String × Source)} (read : knownMembers? keys given = some found) {key : String}
    (absent : some key ∉ given.map Prod.fst) : found.lookup key = none := by
  induction given generalizing found with
  | nil =>
    cases read
    rfl
  | cons g given ih =>
    obtain ⟨name, source⟩ := g
    rw [List.map_cons, List.mem_cons, not_or] at absent
    cases name with
    | none => cases read
    | some name =>
      have other : (key == name) = false :=
        beq_eq_false_iff_ne.mpr fun same => absent.1 (congrArg some same)
      rw [knownMembers?] at read
      simp only [Option.bind_eq_bind, Option.bind_some] at read
      obtain ⟨rest, readRest, read⟩ := Option.bind_eq_some_iff.mp read
      have behind := ih readRest absent.2
      split at read
      · split at read
        · cases read
        · cases read
          rw [List.lookup_cons, other]
          exact behind
      · cases read
        exact behind

/-- A field under a key that an object does not have takes its default. -/
theorem fields?_absent {keys : List String} {levels : Nat} {ms : List (String × Json)}
    {source : Source} {f : Fields} (read : fields? keys levels source = some f)
    (means : Means source (.object ms)) {key : String} (absent : key ∉ ms.map Prod.fst)
    (default : α) (d : Decoder α) : f.withDefault key default d = some default := by
  cases means with
  | @object given _ order named values perm =>
    have unnamed : some key ∉ given.map Prod.fst := by
      rw [named]
      intro member
      obtain ⟨m, within, same⟩ := List.mem_map.mp member
      exact absent (List.mem_map.mpr ⟨m, perm.mem_iff.mp within, Option.some.inj same⟩)
    rw [fields?] at read
    split at read
    · cases read
    · obtain ⟨found, known, rfl⟩ := Option.map_eq_some_iff.mp read
      rw [Fields.withDefault, knownMembers?_absent known unnamed]

end NodeGroups.Json.Decoder
