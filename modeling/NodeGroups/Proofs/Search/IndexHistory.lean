import Mathlib.Data.List.Induction
import NodeGroups.Proofs.OrderedMap
import NodeGroups.Proofs.Search.Change

set_option autoImplicit false

namespace NodeGroups.Search

def sameId (r s : Record) : Bool := r.id == s.id

/-- What is kept of records are those that were not seen before, without later duplicates. -/
theorem firstOfEach_eq (seen : List String) (records : List Record) :
    firstOfEach seen records = (records.filter fun r => r.id ∉ seen).eraseDupsBy sameId := by
  induction records generalizing seen with
  | nil => rfl
  | cons r records ih =>
    rw [firstOfEach]
    by_cases old : r.id ∈ seen
    · rw [if_pos (List.contains_iff_mem.mpr old), ih, List.filter_cons_of_neg (by simp [old])]
    · have others : ∀ s : Record, decide (s.id ∉ r.id :: seen) =
          (decide (sameId s r = false) && decide (s.id ∉ seen)) := by
        intro s
        simp [sameId]
      rw [if_neg fun seen => old (List.contains_iff_mem.mp seen), ih,
        List.filter_cons_of_pos (by simp [old]), List.eraseDupsBy_cons, List.filter_filter]
      simp only [others]

namespace Index

def after (past : List Change) : Index := past.foldl change empty

/-- How many records of a dataset have another state than in another index. -/
def differing (key : String) (index other : Index) : Nat :=
  ((index.records key).zip (other.records key)).countP fun p => p.1.state != p.2.state

namespace Change

def dataset : Change → String
  | .load key _ | .setState key _ _ | .setStateWhere key _ _ _ => key

def loaded? (key : String) : Change → Option (List Record)
  | .load k records => if k = key then some records else none
  | .setState _ _ _ | .setStateWhere _ _ _ _ => none

/-- The state that is given to a record of a dataset, if the change is about this record. -/
def given? (key : String) (r : Record) : Change → Option Activation
  | .load _ _ => none
  | .setState k id state => if k = key ∧ r.id = id then some state else none
  | .setStateWhere k field value state =>
    if k = key ∧ r.field? field = some value then some state else none

/-- A record of a dataset after a change. -/
def turned (key : String) (c : Change) (r : Record) : Record :=
  { r with state := (c.given? key r).getD r.state }

/-- What was loaded into a dataset last, if it was loaded at all. -/
def lastLoad? (key : String) (past : List Change) : Option (List Record) :=
  past.reverse.findSome? (loaded? key)

/-- What was done since a dataset was loaded last. -/
def since (key : String) (past : List Change) : List Change :=
  (past.reverse.takeWhile fun c => (c.loaded? key).isNone).reverse

/-- The state that a record of a dataset was given last since the dataset was loaded. -/
def lastGiven? (key : String) (past : List Change) (r : Record) : Option Activation :=
  (since key past).reverse.findSome? (given? key r)

/-- The records of a dataset by its past: those that were loaded last without later duplicates of an
identifier, each in the state that it was given last since then, or else as it was loaded. -/
def held? (key : String) (past : List Change) : Option (List Record) :=
  (lastLoad? key past).map fun loaded => (loaded.eraseDupsBy sameId).map fun r =>
    { r with state := (lastGiven? key past r).getD r.state }

section Concat

variable {key : String} {c : Change}

theorem turned_of_given?_eq_none {r : Record} (unmeant : c.given? key r = none) :
    c.turned key r = r := by
  rw [turned, unmeant, Option.getD_none]

theorem given?_of_ne (other : key ≠ c.dataset) (r : Record) : c.given? key r = none := by
  cases c with
  | load k records => rfl
  | setState k id state => exact if_neg fun both => other both.1.symm
  | setStateWhere k field value state => exact if_neg fun both => other both.1.symm

theorem loaded?_of_ne (other : key ≠ c.dataset) : c.loaded? key = none := by
  cases c with
  | load k records => exact if_neg (Ne.symm other)
  | setState k id state => rfl
  | setStateWhere k field value state => rfl

theorem held?_loaded {loaded : List Record} (loads : c.loaded? key = some loaded)
    (past : List Change) : held? key (past ++ [c]) = some (loaded.eraseDupsBy sameId) := by
  have last : lastLoad? key (past ++ [c]) = some loaded := by simp [lastLoad?, loads]
  have fresh : ∀ r, lastGiven? key (past ++ [c]) r = none := by simp [lastGiven?, since, loads]
  simp [held?, last, fresh]

theorem lastGiven?_concat (stays : c.loaded? key = none) (past : List Change) (r : Record) :
    lastGiven? key (past ++ [c]) r = (c.given? key r).or (lastGiven? key past r) := by
  cases meant : c.given? key r <;> simp [lastGiven?, since, stays, meant]

/-- Which state is given does not depend on the state that a record has, so that states may be given
one change after another. -/
theorem held?_concat (stays : c.loaded? key = none) (past : List Change) :
    held? key (past ++ [c]) = (held? key past).map (List.map (c.turned key)) := by
  have last : lastLoad? key (past ++ [c]) = lastLoad? key past := by simp [lastLoad?, stays]
  rw [held?, held?, last, Option.map_map]
  refine congrArg (Option.map · _) (funext fun loaded => ?_)
  rw [Function.comp_apply, List.map_map]
  refine List.map_congr_left fun r _ => ?_
  rw [lastGiven?_concat stays, Function.comp_apply, turned]
  change _ = { r with state := (c.given? key r).getD ((lastGiven? key past r).getD r.state) }
  cases c.given? key r <;> rfl

end Concat

end Change

section Turn

variable {index : Index} {key field value id : String} {state : Activation}

theorem field?_id (r : Record) : r.field? "id" = some r.id := rfl

theorem turn_of_ne {r : Record} (lacks : r.field? field ≠ some value) :
    turn field value state r = r :=
  if_neg fun has => lacks (beq_iff_eq.mp has)

theorem map_turn_of_ne {records : List Record}
    (none : ∀ r ∈ records, r.field? field ≠ some value) :
    records.map (turn field value state) = records := by
  rw [List.map_congr_left fun r member => turn_of_ne (none r member), List.map_id']

theorem differs_turn (r : Record) : (r.state != (turn field value state r).state) =
    (r.field? field == some value && r.state != state) := by
  rw [turn_state]
  by_cases has : r.field? field = some value
  · rw [if_pos has, has, beq_self_eq_true, Bool.true_and]
  · rw [if_neg has, bne_self_eq_false, beq_eq_false_iff_ne.mpr has, Bool.false_and]

theorem field?_id_of_nodup {r : Record} {records : List Record}
    (identified : ((r :: records).map (·.id)).Nodup) :
    ∀ s ∈ records, s.field? "id" ≠ some r.id := by
  intro s member same
  rw [field?_id, Option.some.injEq] at same
  exact (List.nodup_cons.mp identified).1 (List.mem_map.mpr ⟨s, member, same⟩)

/-- While no two records have one identifier, the first record that has it is the only one. -/
theorem filter_id {records : List Record} (identified : (records.map (·.id)).Nodup) (id : String) :
    (records.filter fun r => r.field? "id" == some id) =
      (records.find? fun r => r.id == id).toList := by
  induction records with
  | nil => rfl
  | cons r records ih =>
    have others := field?_id_of_nodup identified
    by_cases here : r.id = id
    · have rest : ∀ s ∈ records, ¬ (s.field? "id" == some id) = true := fun s member same =>
        others s member ((beq_iff_eq.mp same).trans (congrArg some here.symm))
      rw [List.filter_cons_of_pos (by simp [field?_id, here]), List.filter_eq_nil_iff.mpr rest,
        List.find?_cons_of_pos (by simp [here])]
      rfl
    · rw [List.filter_cons_of_neg (by simp [field?_id, here]),
        List.find?_cons_of_neg (by simp [here]), ih identified.of_cons]

theorem setFirst_eq_map {records : List Record} (identified : (records.map (·.id)).Nodup)
    (id : String) (state : Activation) :
    setFirst id state records = records.map (turn "id" id state) := by
  induction records with
  | nil => rfl
  | cons r records ih =>
    have others := field?_id_of_nodup identified
    rw [setFirst, List.map_cons]
    by_cases here : r.id = id
    · rw [here] at others
      have first : turn "id" id state r = { r with state } := by
        rw [turn, field?_id, here, beq_self_eq_true, if_pos rfl]
      rw [if_pos here, map_turn_of_ne others, first]
    · have lacks : r.field? "id" ≠ some id := fun same => by
        rw [field?_id, Option.some.injEq] at same
        exact here same
      rw [if_neg here, turn_of_ne lacks, ih identified.of_cons]

theorem setState_of_none (unknown : ∀ r ∈ index.records key, r.id ≠ id) :
    index.setState key id state = (index, false) := by
  unfold setState
  cases found : index.datasets.find? key with
  | none => rfl
  | some records =>
    rw [records_of_find? found] at unknown
    have missing : (records.find? fun r => r.id == id) = none :=
      List.find?_eq_none.mpr fun r member same => unknown r member (beq_iff_eq.mp same)
    dsimp only
    rw [missing]

theorem setState_of_some {records : List Record} {r : Record}
    (found : index.datasets.find? key = some records)
    (called : (records.find? fun r => r.id == id) = some r) :
    index.setState key id state =
      (⟨index.datasets.insert key (setFirst id state records)⟩, r.state != state) := by
  unfold setState
  rw [found]
  dsimp only
  rw [called]

theorem setStateWhere_of_some {records : List Record}
    (found : index.datasets.find? key = some records) :
    index.setStateWhere key field value state =
      (⟨index.datasets.insert key (records.map (turn field value state))⟩,
        (records.filter fun r => r.field? field == some value && r.state != state).length) := by
  unfold setStateWhere
  rw [found]
  rfl

/-- Where no record is meant, nothing is changed. -/
theorem setStateWhere_of_none (unknown : ∀ r ∈ index.records key, r.field? field ≠ some value) :
    index.setStateWhere key field value state = (index, 0) := by
  cases found : index.datasets.find? key with
  | none =>
    unfold setStateWhere
    rw [found]
  | some records =>
    rw [records_of_find? found] at unknown
    have unmeant : ∀ r ∈ records, ¬ (r.field? field == some value && r.state != state) = true := by
      intro r member meant
      exact unknown r member (beq_iff_eq.mp (Bool.and_eq_true_iff.mp meant).1)
    rw [setStateWhere_of_some found, map_turn_of_ne unknown, OrderedMap.insert_of_find? found,
      List.filter_eq_nil_iff.mpr unmeant]
    rfl

/-- Turning a record on or off by its identifier is turning on or off those whose field `id` has
it. -/
theorem setStateWhere_id (identified : index.Identified) (key id : String) (state : Activation) :
    index.setStateWhere key "id" id state =
      ((index.setState key id state).1, (index.setState key id state).2.toNat) := by
  cases called : (index.records key).find? fun r => r.id == id with
  | none =>
    have unknown : ∀ r ∈ index.records key, r.id ≠ id := fun r member same =>
      List.find?_eq_none.mp called r member (beq_iff_eq.mpr same)
    have unmeant : ∀ r ∈ index.records key, r.field? "id" ≠ some id := fun r member same =>
      unknown r member (Option.some.inj ((field?_id r).symm.trans same))
    rw [setState_of_none unknown, setStateWhere_of_none unmeant]
    rfl
  | some r =>
    cases found : index.datasets.find? key with
    | none =>
      rw [Index.records, found] at called
      cases called
    | some records =>
      have apart : (records.map (·.id)).Nodup := by
        rw [← records_of_find? found]
        exact identified key
      rw [records_of_find? found] at called
      have count : (records.filter fun s => s.field? "id" == some id && s.state != state).length =
          (r.state != state).toNat := by
        have only := filter_id apart id
        rw [called, Option.toList_some] at only
        simp only [Bool.and_comm]
        rw [← List.filter_filter, only]
        cases differs : r.state != state <;> simp [differs]
      rw [setState_of_some found called, setStateWhere_of_some found, setFirst_eq_map apart, count]

/-- The number that is told is that of the records that have another state than before. -/
theorem count_setStateWhere (index : Index) (key field value : String) (state : Activation) :
    (index.setStateWhere key field value state).2 =
      differing key index (index.setStateWhere key field value state).1 := by
  have zipped : (index.records key).zip ((index.records key).map (turn field value state)) =
      (index.records key).map fun r => (r, turn field value state r) := by
    rw [← List.zip_map', List.map_id']
  rw [differing, records_setStateWhere, zipped, List.countP_map]
  simp only [Function.comp_def, differs_turn]
  cases found : index.datasets.find? key with
  | none =>
    unfold setStateWhere
    rw [Index.records, found]
    rfl
  | some records =>
    rw [setStateWhere_of_some found, records_of_find? found, List.countP_eq_length_filter]

end Turn

theorem after_concat (past : List Change) (c : Change) :
    after (past ++ [c]) = (after past).change c := by
  rw [after, List.foldl_append]
  rfl

theorem identified_after (past : List Change) : (after past).Identified := by
  induction past using List.reverseRecOn with
  | nil => exact identified_empty
  | append_singleton past c ih =>
    rw [after_concat]
    exact ih.change c

theorem find?_change_of_ne (index : Index) {c : Change} {key : String} (other : key ≠ c.dataset) :
    (index.change c).datasets.find? key = index.datasets.find? key := by
  cases c with
  | load k records => exact OrderedMap.find?_insert_of_ne _ other _
  | setState k id state =>
    unfold change setState
    dsimp only
    split
    · rfl
    · split
      · rfl
      · exact OrderedMap.find?_insert_of_ne _ other _
  | setStateWhere k field value state =>
    unfold change setStateWhere
    dsimp only
    split
    · rfl
    · exact OrderedMap.find?_insert_of_ne _ other _

theorem find?_setStateWhere (index : Index) (key field value : String) (state : Activation) :
    (index.setStateWhere key field value state).1.datasets.find? key =
      (index.datasets.find? key).map (List.map (turn field value state)) := by
  cases found : index.datasets.find? key with
  | none =>
    unfold setStateWhere
    rw [found]
    exact found
  | some records =>
    rw [setStateWhere_of_some found]
    exact OrderedMap.find?_insert_self _ _ _

theorem turned_setStateWhere (key field value : String) (state : Activation) :
    (Change.setStateWhere key field value state).turned key = turn field value state := by
  funext r
  by_cases has : r.field? field = some value <;> simp [Change.turned, Change.given?, turn, has]

theorem turned_setState (key id : String) (state : Activation) :
    (Change.setState key id state).turned key = turn "id" id state := by
  funext r
  by_cases here : r.id = id <;> simp [Change.turned, Change.given?, turn, field?_id, here]

/-- A dataset after a change: what is loaded into it, or what it held with the states that the
change gives. -/
theorem find?_change {index : Index} (identified : index.Identified) (c : Change) (key : String) :
    (index.change c).datasets.find? key =
      match c.loaded? key with
      | some loaded => some (loaded.eraseDupsBy sameId)
      | none => (index.datasets.find? key).map (List.map (c.turned key)) := by
  by_cases other : key = c.dataset
  · subst other
    cases c with
    | load key records =>
      have loads : (Change.load key records).loaded? key = some records := if_pos rfl
      have kept : firstOfEach [] records = records.eraseDupsBy sameId := by
        simp [firstOfEach_eq]
      rw [Change.dataset, loads]
      dsimp only
      rw [← kept]
      exact OrderedMap.find?_insert_self _ _ _
    | setState key id state =>
      have same := congrArg Prod.fst (setStateWhere_id identified key id state)
      rw [Change.dataset, turned_setState, ← find?_setStateWhere, same]
      rfl
    | setStateWhere key field value state =>
      rw [Change.dataset, turned_setStateWhere, ← find?_setStateWhere]
      rfl
  · have idle : c.turned key = id :=
      funext fun r => Change.turned_of_given?_eq_none (Change.given?_of_ne other r)
    rw [find?_change_of_ne index other, Change.loaded?_of_ne other, idle, List.map_id_fun,
      Option.map_id]
    rfl

theorem find?_after (past : List Change) (key : String) :
    (after past).datasets.find? key = Change.held? key past := by
  induction past using List.reverseRecOn with
  | nil => rfl
  | append_singleton past c ih =>
    have step := find?_change (identified_after past) c key
    rw [ih] at step
    rw [after_concat, step]
    cases loads : c.loaded? key with
    | some loaded => rw [Change.held?_loaded loads]
    | none => rw [Change.held?_concat loads]

/-- Whatever was done to datasets, of which there were none at first: no two records of a dataset
have one identifier, and a dataset holds what its past tells. A change to another dataset leaves it
alone, and one that is about no record changes nothing. The answer is the number of records whose
state was changed, and turning a record on or off by its identifier is the same as turning on or off
those whose field `id` has it. -/
theorem datasets_after_history (past : List Change) :
    let index := after past
    index.Identified ∧
      (∀ key, index.records key = (Change.held? key past).getD [] ∧
        index.contains key = (Change.held? key past).isSome) ∧
      (∀ c key, key ≠ c.dataset →
        (index.change c).datasets.find? key = index.datasets.find? key) ∧
      (∀ key id state, (∀ r ∈ index.records key, r.id ≠ id) →
        index.setState key id state = (index, false)) ∧
      (∀ key field value state, (∀ r ∈ index.records key, r.field? field ≠ some value) →
        index.setStateWhere key field value state = (index, 0)) ∧
      (∀ key id state, (index.setState key id state).2.toNat =
        differing key index (index.setState key id state).1) ∧
      (∀ key field value state, (index.setStateWhere key field value state).2 =
        differing key index (index.setStateWhere key field value state).1) ∧
      ∀ key id state, index.setStateWhere key "id" id state =
        ((index.setState key id state).1, (index.setState key id state).2.toNat) := by
  intro index
  have identified : index.Identified := identified_after past
  refine ⟨identified, fun key => ?_, fun c key => find?_change_of_ne index,
    fun key id state => setState_of_none, fun key field value state => setStateWhere_of_none,
    fun key id state => ?_, count_setStateWhere index, setStateWhere_id identified⟩
  · have found : index.datasets.find? key = Change.held? key past := find?_after past key
    rw [Index.records, contains, found]
    exact ⟨rfl, rfl⟩
  · have count := count_setStateWhere index key "id" id state
    rw [setStateWhere_id identified] at count
    exact count

/-- A dataset with a repeated identifier and two records of one name, that are turned off and on
by identifier and by name. -/
theorem datasets_after_history_toggled :
    let off : Record := ⟨"2", "web", ∅, .disabled⟩
    let past : List Change := [.setState "k" "1" .disabled,
      .load "k" [.named "1" "web", .named "1" "again", off], .load "j" [.named "1" "web"],
      .setStateWhere "k" "name" "web" .disabled, .setStateWhere "k" "name" "web" .enabled,
      .setState "j" "1" .disabled, .setState "k" "2" .disabled]
    let index := after past
    index.records "k" = [.named "1" "web", off] ∧
      (index.setStateWhere "k" "name" "web" .disabled).2 = 1 ∧
      index.setState "k" "again" .disabled = (index, false) ∧
      index.setStateWhere "k" "name" "again" .disabled = (index, 0) ∧
      (index.change (.setState "k" "1" .disabled)).datasets.find? "j" =
        index.datasets.find? "j" := by
  intro off past index
  obtain ⟨-, holds, others, byId, byField, -⟩ := datasets_after_history past
  refine ⟨(holds "k").1.trans (by decide +kernel), by decide +kernel,
    byId "k" "again" .disabled (by decide +kernel),
    byField "k" "name" "again" .disabled (by decide +kernel),
    others (.setState "k" "1" .disabled) "j" (by decide)⟩

end Index

end NodeGroups.Search
