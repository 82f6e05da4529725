import NodeGroups.Proofs.Backend.Exchange
import NodeGroups.Proofs.Json.Nesting

set_option autoImplicit false

namespace NodeGroups

open Search (Record)

namespace Search

open Record (scalarFields scalarText?)

/-- A string, a number or a boolean value, and its text. -/
inductive ScalarText : Json → String → Prop
  | string (s : String) : ScalarText (.string s) s
  | number (n : Json.Number) : ScalarText (.number n) n.text
  | true : ScalarText (.bool true) "true"
  | false : ScalarText (.bool false) "false"

/-- The member of an object under a key is a scalar of a text. -/
def Holds (entry : Json) (key text : String) : Prop :=
  ∃ value, entry.get? key = some value ∧ ScalarText value text

/-- An object that can stand for a record: it has an identifier, and a name or a member that takes
the place of the name, which the identifier does not. -/
structure IsEntry (labelField : String) (entry : Json) : Prop where
  object : ∃ members, entry = .object members
  identified : ∃ id, Holds entry "id" id
  named : (∃ name, Holds entry "name" name) ∨
    labelField ≠ "id" ∧ ∃ name, Holds entry labelField name

/-- A record says what an entry says. The name of the record is that of the entry, and what takes
its place where the entry has none. -/
structure Stands (labelField : String) (entry : Json) (r : Record) : Prop where
  enabled : r.state = .enabled
  name : Holds entry "name" r.name ∨
    (¬ ∃ name, Holds entry "name" name) ∧ Holds entry labelField r.name
  fields : ∀ key, key ≠ "name" → ∀ text, r.field? key = some text ↔ Holds entry key text

theorem scalarText?_iff {value : Json} {text : String} :
    scalarText? value = some text ↔ ScalarText value text := by
  constructor
  · intro scalar
    unfold scalarText? at scalar
    split at scalar <;> cases scalar <;> constructor
  · intro scalar
    cases scalar <;> rfl

variable {members : List (String × Json)} {labelField : String}

/-- The scalar members of an object, found by their keys. -/
theorem find?_scalarFields (sorted : Entries.Sorted members) (key text : String) :
    (scalarFields members).find? key = some text ↔ Holds (.object members) key text := by
  let scalar := fun m : String × Json => (scalarText? m.2).map (m.1, ·)
  have inOrder : Entries.Sorted (members.filterMap scalar) := by
    refine List.Pairwise.filterMap scalar ?_ sorted
    intro m n before a first b second
    obtain ⟨_, -, rfl⟩ := Option.map_eq_some_iff.mp first
    obtain ⟨_, -, rfl⟩ := Option.map_eq_some_iff.mp second
    exact before
  have entries : (scalarFields members).entries = members.filterMap scalar :=
    Entries.sort_of_perm inOrder (.refl _)
  rw [OrderedMap.find?, entries, ← inOrder.mem_iff, List.mem_filterMap]
  constructor
  · rintro ⟨⟨_, value⟩, member, same⟩
    obtain ⟨_, isScalar, entry⟩ := Option.map_eq_some_iff.mp same
    cases entry
    exact ⟨value, (sorted.mem_iff _ value).mp member, scalarText?_iff.mp isScalar⟩
  · rintro ⟨value, found, isScalar⟩
    refine ⟨(key, value), (sorted.mem_iff key value).mpr found, ?_⟩
    exact congrArg (Option.map (key, ·)) (scalarText?_iff.mpr isScalar)

theorem not_holds_of_find? (sorted : Entries.Sorted members) {key : String}
    (none : (scalarFields members).find? key = none) :
    ¬ ∃ text, Holds (.object members) key text := by
  rintro ⟨text, holds⟩
  rw [(find?_scalarFields sorted key text).mpr holds] at none
  cases none

/-- A record whose fields are the scalar members holds what the entry holds, but for the name. -/
theorem field?_iff_holds (sorted : Entries.Sorted members) {r : Record}
    (identified : (scalarFields members).find? "id" = some r.id)
    (kept : ∀ key, key ≠ "id" → key ≠ "name" →
      r.fields.find? key = (scalarFields members).find? key) :
    ∀ key, key ≠ "name" → ∀ text,
      r.field? key = some text ↔ Holds (.object members) key text := by
  intro key other text
  rw [← find?_scalarFields sorted, Record.field?]
  split
  · rename_i isId
    rw [isId, identified]
  · rename_i notId
    rw [kept key notId other]

/-- An entry gives the record that stands for it, and any other value is invalid. -/
theorem ofJson_spec (labelField : String) {value : Json} (ordered : value.isOrdered = true) :
    (IsEntry labelField value ∧
      ∃ r, Record.ofJson value labelField = .ok r ∧ Stands labelField value r) ∨
    (¬ IsEntry labelField value ∧
      ∃ reason, Record.ofJson value labelField = .error (.validation reason)) := by
  cases value with
  | object members =>
    have sorted : Entries.Sorted members := (Json.isOrdered_object.mp ordered).1
    have holds := find?_scalarFields sorted
    rw [Record.ofJson]
    dsimp only
    cases identified : (scalarFields members).find? "id" with
    | none =>
      exact .inr ⟨fun entry => not_holds_of_find? sorted identified entry.identified, _, rfl⟩
    | some id =>
      have isIdentified := (holds "id" id).mp identified
      rw [OrderedMap.find?_erase, if_neg (by decide : ¬ "name" = "id")]
      cases named : (scalarFields members).find? "name" with
      | some name =>
        have isNamed := (holds "name" name).mp named
        refine .inl ⟨⟨⟨members, rfl⟩, ⟨id, isIdentified⟩, .inl ⟨name, isNamed⟩⟩, _, rfl, rfl,
          .inl isNamed, field?_iff_holds sorted identified fun key notId notName => ?_⟩
        rw [OrderedMap.find?_erase, if_neg notName, OrderedMap.find?_erase, if_neg notId]
      | none =>
        have unnamed := not_holds_of_find? sorted named
        rw [OrderedMap.find?_erase]
        by_cases isId : labelField = "id"
        · rw [if_pos isId]
          refine .inr ⟨fun entry => ?_, _, rfl⟩
          rcases entry.named with isNamed | ⟨notId, -⟩
          · exact unnamed isNamed
          · exact notId isId
        · rw [if_neg isId]
          cases labelled : (scalarFields members).find? labelField with
          | none =>
            refine .inr ⟨fun entry => ?_, _, rfl⟩
            rcases entry.named with isNamed | ⟨-, isLabelled⟩
            · exact unnamed isNamed
            · exact not_holds_of_find? sorted labelled isLabelled
          | some name =>
            have isLabelled := (holds labelField name).mp labelled
            refine .inl ⟨⟨⟨members, rfl⟩, ⟨id, isIdentified⟩, .inr ⟨isId, name, isLabelled⟩⟩, _,
              rfl, rfl, .inr ⟨unnamed, isLabelled⟩,
              field?_iff_holds sorted identified fun key notId _ => ?_⟩
            rw [OrderedMap.find?_erase, if_neg notId]
  | null | bool | number | string | array =>
    refine .inr ⟨fun entry => ?_, _, rfl⟩
    obtain ⟨_, same⟩ := entry.object
    cases same

/-- A value gives a record just if it is an entry. -/
theorem exists_ofJson_eq_ok (labelField : String) {value : Json}
    (ordered : value.isOrdered = true) :
    (∃ r, Record.ofJson value labelField = .ok r) ↔ IsEntry labelField value := by
  rcases ofJson_spec labelField ordered with ⟨entry, r, read, -⟩ | ⟨other, reason, failed⟩
  · exact iff_of_true ⟨r, read⟩ entry
  · refine iff_of_false (fun ⟨r, read⟩ => ?_) other
    rw [failed] at read
    cases read

theorem stands_of_ofJson {value : Json} (ordered : value.isOrdered = true) {r : Record}
    (read : Record.ofJson value labelField = .ok r) : Stands labelField value r := by
  rcases ofJson_spec labelField ordered with ⟨-, _, same, stands⟩ | ⟨-, reason, failed⟩
  · rw [same] at read
    cases read
    exact stands
  · rw [failed] at read
    cases read

theorem validation_of_ofJson {value : Json} (ordered : value.isOrdered = true) {e : Failure}
    (failed : Record.ofJson value labelField = .error e) : ∃ reason, e = .validation reason := by
  rcases ofJson_spec labelField ordered with ⟨-, r, read, -⟩ | ⟨-, reason, same⟩
  · rw [read] at failed
    cases failed
  · rw [same] at failed
    exact ⟨reason, (Except.error.inj failed).symm⟩

end Search

namespace Backend

open Search (IsEntry Stands)

variable {pathOf : Paths → String} {operation : String} {query : List (String × String)}
  {labelField : String} {s : Session} {r : Response} {entries : List Json}

/-- A dataset that is answered with an array is the records of its entries. -/
theorem outcome_fetchDataset
    (answered : s.answering s.sent (s.request .get (pathOf s.settings.paths) query none) = .ok r)
    (success : r.isSuccess = true) (read : Json.parse? r.body = some (.array entries)) :
    ((paths >>= fun p => fetchDataset operation (pathOf p) query labelField).run.run s).1 =
      entries.mapM fun entry => Record.ofJson entry labelField := by
  obtain ⟨outcome, log, ran, decoded⟩ := run_fetch pathOf operation query (.list .json) s
  rw [answered, documentIn?, if_pos success, Json.Decoder.ofText?_list_json.mpr read] at decoded
  unfold fetchDataset
  rw [← bind_assoc]
  cases outcome with
  | error e => cases decoded
  | ok got =>
    cases decoded
    rw [run_bind_of_ok ran]
    cases entries.mapM fun entry => Record.ofJson entry labelField with
    | ok records => rfl
    | error e => rfl

/-- Entries are read as they are or refused. A value gives a record just if it is an entry, and the
record stands for it; any other value is invalid. A dataset that is answered with an array has one
record for each of its entries, in their order, if all of them are entries, and fails as a whole
otherwise. -/
theorem entries_faithful (labelField : String) :
    (∀ value : Json, value.isOrdered = true →
      ((∃ r, Record.ofJson value labelField = .ok r) ↔ IsEntry labelField value) ∧
      (∀ r, Record.ofJson value labelField = .ok r → Stands labelField value r) ∧
      ∀ e, Record.ofJson value labelField = .error e → ∃ reason, e = .validation reason) ∧
    ∀ (pathOf : Paths → String) (operation : String) (query : List (String × String))
      (s : Session) (r : Response) (entries : List Json),
      s.answering s.sent (s.request .get (pathOf s.settings.paths) query none) = .ok r →
      r.isSuccess = true → Json.parse? r.body = some (.array entries) →
      let outcome :=
        ((paths >>= fun p => fetchDataset operation (pathOf p) query labelField).run.run s).1
      (∀ records, outcome = .ok records ↔
        List.Forall₂ (fun entry r => Record.ofJson entry labelField = .ok r) entries records) ∧
      ((∃ records, outcome = .ok records) ↔ ∀ entry ∈ entries, IsEntry labelField entry) ∧
      ∀ e, outcome = .error e → ∃ reason, e = .validation reason := by
  refine ⟨fun value ordered => ⟨Search.exists_ofJson_eq_ok labelField ordered,
    fun r => Search.stands_of_ofJson ordered, fun e => Search.validation_of_ofJson ordered⟩, ?_⟩
  intro pathOf operation query s r entries answered success read outcome
  have ordered := Json.isOrdered_array.mp (Json.isOrdered_parse? read)
  have all : outcome = entries.mapM fun entry => Record.ofJson entry labelField :=
    outcome_fetchDataset answered success read
  rw [all]
  refine ⟨fun records => mapM_eq_ok, ?_, fun e failed => ?_⟩
  · rw [exists_mapM_eq_ok]
    exact forall₂_congr fun entry member =>
      Search.exists_ofJson_eq_ok labelField (ordered entry member)
  · obtain ⟨entry, member, fails⟩ := mapM_eq_error failed
    exact Search.validation_of_ofJson (ordered entry member) fails

/-- An entry that is named by another member, and an answer with one more that has no identifier. -/
theorem entries_faithful_certname :
    let named : Json := .object [("certname", .string "web"), ("id", .int 7), ("meta", .null)]
    let unknown : Json := .object [("certname", .string "db")]
    let r : Response := ⟨200, "[\x7b\"id\":7,\"certname\":\"web\",\"meta\":null\x7d," ++
      "\x7b\"certname\":\"db\"\x7d]"⟩
    let s := Session.start {} (inTurn [r.body])
    named.isOrdered = true ∧
      (∀ record, Record.ofJson named "certname" = .ok record → Stands "certname" named record) ∧
      s.answering s.sent (s.request .get s.settings.paths.nodes [] none) = .ok r ∧
      r.isSuccess = true ∧ Json.parse? r.body = some (.array [named, unknown]) ∧
      ¬ (∃ records, ((nodes none).run.run s).1 = .ok records) ∧
      ∀ e, ((nodes none).run.run s).1 = .error e → ∃ reason, e = .validation reason := by
  intro named unknown r s
  have ordered : named.isOrdered = true := by decide
  have answered : s.answering s.sent (s.request .get s.settings.paths.nodes [] none) = .ok r := rfl
  have read : Json.parse? r.body = some (.array [named, unknown]) := by decide +kernel
  obtain ⟨values, datasets⟩ := entries_faithful "certname"
  obtain ⟨-, whole, failures⟩ := datasets Paths.nodes "nodes.list" (queryOf "master_zone" none) s r
    [named, unknown] answered rfl read
  refine ⟨ordered, (values named ordered).2.1, answered, rfl, read, fun got => ?_, failures⟩
  have entry : IsEntry "certname" unknown :=
    whole.mp got unknown (List.mem_cons_of_mem named List.mem_cons_self)
  obtain ⟨id, value, found, -⟩ := entry.identified
  cases found

end Backend

end NodeGroups
