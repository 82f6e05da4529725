import Mathlib.Data.List.Induction
import Mathlib.Data.List.Perm.Basic
import NodeGroups.OrderedMap

set_option autoImplicit false

namespace NodeGroups

namespace Entries

variable {α : Type} {es fs : List (String × α)}

theorem insert_perm {k : String} (fresh : k ∉ es.map Prod.fst) (v : α) :
    (insert k v es).Perm ((k, v) :: es) := by
  induction es with
  | nil => exact .refl _
  | cons e es ih =>
    rw [List.map_cons, List.mem_cons, not_or] at fresh
    rw [insert, if_neg fresh.1]
    split
    · exact .refl _
    · exact ((ih fresh.2).cons e).trans (.swap (k, v) e es)

theorem sort_perm (distinct : (es.map Prod.fst).Nodup) : (sort es).Perm es := by
  induction es using List.reverseRecOn with
  | nil => exact .refl _
  | append_singleton es e ih =>
    rw [List.map_append, List.nodup_append] at distinct
    obtain ⟨before, -, apart⟩ := distinct
    have sorted := ih before
    have fresh : e.1 ∉ (sort es).map Prod.fst := fun old =>
      apart e.1 ((sorted.map Prod.fst).mem_iff.mp old) e.1 List.mem_cons_self rfl
    have step : sort (es ++ [e]) = insert e.1 e.2 (sort es) := List.foldl_append
    rw [step]
    exact ((insert_perm fresh e.2).trans (sorted.cons e)).trans
      (List.perm_append_singleton e es).symm

theorem mem_of_mem_sort {e : String × α} (member : e ∈ sort es) : e ∈ es := by
  induction es using List.reverseRecOn with
  | nil => exact member
  | append_singleton es last ih =>
    have step : sort (es ++ [last]) = insert last.1 last.2 (sort es) := List.foldl_append
    rw [step] at member
    rcases mem_insert member with rfl | before
    · exact List.mem_append_right es List.mem_cons_self
    · exact List.mem_append_left [last] (ih before)

theorem Sorted.nodup_keys (sorted : Sorted es) : (es.map Prod.fst).Nodup := by
  rw [List.Nodup, List.pairwise_map]
  refine sorted.imp fun before same => ?_
  rw [same] at before
  exact String.lt_irrefl _ before

/-- Entries in key order are put back into it from any other order. -/
theorem sort_of_perm (sorted : Sorted es) (perm : fs.Perm es) : sort fs = es := by
  have distinct : (fs.map Prod.fst).Nodup := (perm.map Prod.fst).nodup_iff.mpr sorted.nodup_keys
  exact ((sort_perm distinct).trans perm).eq_of_pairwise
    (fun a b _ _ before after => absurd after (String.lt_asymm before)) (sorted_sort fs) sorted

theorem insert_map {β : Type} (f : α → β) (k : String) (v : α) (es : List (String × α)) :
    insert k (f v) (es.map fun e => (e.1, f e.2)) =
      (insert k v es).map fun e => (e.1, f e.2) := by
  induction es with
  | nil => rfl
  | cons e es ih =>
    rw [List.map_cons, insert, insert, ih]
    split
    · rfl
    · split <;> rfl

/-- Sorting looks at keys only. -/
theorem sort_map {β : Type} (f : α → β) (es : List (String × α)) :
    sort (es.map fun e => (e.1, f e.2)) = (sort es).map fun e => (e.1, f e.2) := by
  induction es using List.reverseRecOn with
  | nil => rfl
  | append_singleton es e ih =>
    have step : sort (es ++ [e]) = insert e.1 e.2 (sort es) := List.foldl_append
    rw [step, List.map_append, ← insert_map, ← ih]
    exact List.foldl_append

/-- Of several entries with one key the last one counts. -/
theorem find?_sort (k : String) (es : List (String × α)) :
    find? k (sort es) = es.reverse.lookup k := by
  induction es using List.reverseRecOn with
  | nil => rfl
  | append_singleton es e ih =>
    have step : sort (es ++ [e]) = insert e.1 e.2 (sort es) := List.foldl_append
    rw [step, List.reverse_append, List.reverse_singleton, List.singleton_append, List.lookup_cons]
    split
    · rename_i same
      rw [beq_iff_eq.mp same, find?_insert_self]
    · rename_i other
      rw [find?_insert_of_ne (beq_eq_false_iff_ne.mp other), ih]

/-- In key order an entry is what its key finds. -/
theorem Sorted.mem_iff (sorted : Sorted es) (k : String) (v : α) :
    (k, v) ∈ es ↔ find? k es = some v := by
  induction es with
  | nil => exact iff_of_false List.not_mem_nil nofun
  | cons e es ih =>
    obtain ⟨first, others⟩ := List.pairwise_cons.mp sorted
    rw [List.mem_cons, find?]
    split
    · rename_i same
      have fresh : (k, v) ∉ es := fun member =>
        String.lt_irrefl k (same ▸ first (k, v) member)
      rw [or_iff_left fresh, Option.some.injEq, ← same]
      exact ⟨fun entry => by rw [← entry], fun value => by rw [← value]⟩
    · rename_i other
      rw [or_iff_right fun entry => other (congrArg Prod.fst entry).symm]
      exact ih others

/-- Writing the value that a key has already changes nothing. -/
theorem Sorted.insert_of_find? (sorted : Sorted es) {k : String} {v : α}
    (found : find? k es = some v) : Entries.insert k v es = es := by
  induction es with
  | nil => cases found
  | cons e es ih =>
    obtain ⟨first, others⟩ := List.pairwise_cons.mp sorted
    rw [find?] at found
    rw [Entries.insert]
    split at found
    · rename_i same
      rw [← same, ← Option.some.inj found, if_neg (String.lt_irrefl e.1), if_pos rfl]
    · rename_i other
      have behind : e.1 < k := first (k, v) ((Sorted.mem_iff others k v).mpr found)
      rw [if_neg (String.lt_asymm behind), if_neg (Ne.symm other), ih others found]

theorem find?_map {β : Type} (f : α → β) (k : String) (es : List (String × α)) :
    find? k (es.map fun e => (e.1, f e.2)) = (find? k es).map f := by
  induction es with
  | nil => rfl
  | cons e es ih =>
    rw [List.map_cons, find?, find?]
    split
    · rfl
    · exact ih

theorem lookup_eq_find? (k : String) (es : List (String × α)) : es.lookup k = find? k es := by
  induction es with
  | nil => rfl
  | cons e es ih =>
    rw [List.lookup_cons, find?]
    by_cases same : e.1 = k
    · rw [same, beq_self_eq_true, if_pos rfl]
    · rw [beq_eq_false_iff_ne.mpr (Ne.symm same), if_neg same, ih]

theorem find?_filter_ne (es : List (String × α)) (key k : String) :
    find? k (es.filter fun e => e.1 ≠ key) = if k = key then none else find? k es := by
  induction es with
  | nil => simp [find?]
  | cons e es ih =>
    by_cases here : e.1 = key
    · rw [List.filter_cons_of_neg (by simp [here]), ih, find?, here]
      by_cases same : k = key
      · rw [if_pos same, if_pos same]
      · rw [if_neg same, if_neg same, if_neg (Ne.symm same)]
    · rw [List.filter_cons_of_pos (by simp [here]), find?, find?, ih]
      by_cases same : k = key
      · rw [if_pos same, if_pos same, if_neg (same ▸ here)]
      · rw [if_neg same, if_neg same]

/-- In key order the last entry of a key is the only one. -/
theorem Sorted.find?_reverse {es : List (String × α)} (sorted : Sorted es) (k : String) :
    find? k es.reverse = find? k es := by
  rw [← lookup_eq_find?, ← find?_sort, sort_of_perm sorted (.refl es)]

/-- An entry of another key does not count for the last value of a key. -/
theorem lookup_reverse_of_ne {e : String × α} {k : String} (other : e.1 ≠ k)
    (front back : List (String × α)) :
    (front ++ e :: back).reverse.lookup k = (front ++ back).reverse.lookup k := by
  have apart : (k == e.1) = false := beq_eq_false_iff_ne.mpr other.symm
  rw [List.reverse_append, List.reverse_cons, List.append_assoc, List.singleton_append,
    List.lookup_append, List.lookup_cons, apart, ← List.lookup_append, ← List.reverse_append]

/-- The last of some entries of a key is the one that a look-up from their end finds. -/
theorem lookup_reverse (k : String) (es : List (String × α)) :
    es.reverse.lookup k = (es.filter fun e => e.1 = k).getLast?.map Prod.snd := by
  induction es using List.reverseRecOn with
  | nil => rfl
  | append_singleton es e ih =>
    rw [List.reverse_append, List.reverse_singleton, List.singleton_append, List.lookup_cons,
      List.filter_append]
    by_cases here : e.1 = k
    · simp [here]
    · rw [beq_eq_false_iff_ne.mpr (Ne.symm here), ih, List.filter_cons_of_neg (by simpa using here)]
      simp

end Entries

theorem OrderedMap.mem_keys_iff {α : Type} {m : OrderedMap α} {k : String} :
    k ∈ m.keys ↔ (m.find? k).isSome := by
  rw [keys, List.mem_map, Option.isSome_iff_exists]
  constructor
  · rintro ⟨⟨_, v⟩, member, rfl⟩
    exact ⟨v, (m.sorted.mem_iff _ v).mp member⟩
  · rintro ⟨v, found⟩
    exact ⟨(k, v), (m.sorted.mem_iff k v).mpr found, rfl⟩

theorem OrderedMap.insert_of_find? {α : Type} {m : OrderedMap α} {k : String} {v : α}
    (found : m.find? k = some v) : m.insert k v = m :=
  OrderedMap.ext (m.sorted.insert_of_find? found)

theorem OrderedMap.find?_erase {α : Type} (m : OrderedMap α) (key k : String) :
    (m.erase key).find? k = if k = key then none else m.find? k :=
  Entries.find?_filter_ne m.entries key k

theorem OrderedMap.ofList_perm {α : Type} {es : List (String × α)} {m : OrderedMap α}
    (perm : es.Perm m.entries) : ofList es = m :=
  OrderedMap.ext (Entries.sort_of_perm m.sorted perm)

/-- Maps in which every key finds the same are the same. -/
theorem OrderedMap.ext_find? {α : Type} {m n : OrderedMap α} (same : ∀ k, m.find? k = n.find? k) :
    m = n := by
  have perm : m.entries.Perm n.entries := by
    have distinct {es : List (String × α)} (sorted : Entries.Sorted es) : es.Nodup :=
      List.Pairwise.of_map Prod.fst (fun _ _ other same => other (congrArg Prod.fst same))
        sorted.nodup_keys
    refine (List.perm_ext_iff_of_nodup (distinct m.sorted) (distinct n.sorted)).mpr ?_
    rintro ⟨k, v⟩
    rw [m.sorted.mem_iff, n.sorted.mem_iff]
    exact Eq.congr (same k) rfl
  refine OrderedMap.ext ?_
  rw [← Entries.sort_of_perm m.sorted (.refl m.entries), Entries.sort_of_perm n.sorted perm]

end NodeGroups
