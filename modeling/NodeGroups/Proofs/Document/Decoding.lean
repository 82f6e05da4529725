import NodeGroups.Document.Classification
import NodeGroups.Document.Configuration
import NodeGroups.Document.Environment
import NodeGroups.Document.Parameter
import NodeGroups.Document.Rules
import NodeGroups.Document.Variables
import NodeGroups.Proofs.Json.Decoding
import NodeGroups.Search.Record

set_option autoImplicit false

namespace NodeGroups.Document

open Json.Decoder (Takes)

theorem Quantifier.takes (q : Quantifier) : Takes decoder 0 (.string q.name) q :=
  Json.Decoder.takes_variant (by cases q <;> decide)

theorem Operator.takes (o : Operator) : Takes decoder 0 (.string o.sign) o :=
  Json.Decoder.takes_variant (by cases o <;> decide)

theorem Condition.takes (r : Condition) : Takes decoder 1 r.toJson r := by
  intro levels source enough means
  obtain ⟨levels, rfl⟩ := Nat.exists_eq_add_of_le' enough
  obtain ⟨f, read, -, give⟩ := Json.Decoder.fields?_of_means ["fact", "operator", "value"] levels
    means (by simp) (by simp)
  have fact := give.required "fact" (by simp) (Json.Decoder.takes_string r.fact) (Nat.zero_le _)
  have operator := give.required "operator" (by simp) r.operator.takes (Nat.zero_le _)
  have value := give.required "value" (by simp) (Json.Decoder.takes_string r.value) (Nat.zero_le _)
  rw [decoder, read]
  simp only [Option.bind_eq_bind, Option.bind_some, fact, operator, value]
  rfl

theorem Rules.takes (r : Rules) : Takes decoder 3 r.toJson r := by
  intro levels source enough means
  obtain ⟨levels, rfl⟩ := Nat.exists_eq_add_of_le' (Nat.le_of_add_left_le enough : 1 ≤ levels)
  obtain ⟨f, read, rfl, give⟩ := Json.Decoder.fields?_of_means ["match_type", "facts", "nodes"]
    levels means (by simp) (by simp)
  have two : 2 ≤ f.levels := Nat.le_of_succ_le_succ enough
  have conditions : Takes (.list Condition.decoder) 2 (.ofList Condition.toJson r.conditions)
      r.conditions := Json.Decoder.takes_list fun c _ => c.takes
  have nodes : Takes (.list .string) 1 (.ofList .string r.nodes) r.nodes :=
    Json.Decoder.takes_list fun n _ => Json.Decoder.takes_string n
  have quantifier := give.withDefault "match_type" (by simp) r.quantifier.takes (Nat.zero_le _) .all
  have facts := give.withDefault "facts" (by simp) (conditions.orNull [] nofun) two []
  have pinned := give.withDefault "nodes" (by simp) (nodes.orNull [] nofun)
    (Nat.le_of_succ_le two) []
  rw [decoder, read]
  simp only [Option.bind_eq_bind, Option.bind_some, quantifier, facts, pinned]
  rfl

section Configuration

variable {depth : Nat}

theorem AssignedParameter.takes {a : AssignedParameter}
    (value : Takes .json depth a.value a.value) : Takes decoder (depth + 1) a.toJson a := by
  intro levels source enough means
  obtain ⟨levels, rfl⟩ := Nat.exists_eq_add_of_le' (Nat.le_of_add_left_le enough : 1 ≤ levels)
  obtain ⟨f, read, rfl, give⟩ := Json.Decoder.fields?_of_means ["parameter", "value", "raw_value"]
    levels means (by simp) (by simp)
  have parameter := give.required "parameter" (by simp) (Json.Decoder.takes_string a.parameter)
    (Nat.zero_le _)
  have structured := give.withDefault "value" (by simp) value (Nat.le_of_succ_le_succ enough) .null
  have raw := give.withDefault "raw_value" (by simp) (Json.Decoder.takes_string a.rawValue)
    (Nat.zero_le _) ""
  rw [decoder, read]
  simp only [Option.bind_eq_bind, Option.bind_some, parameter, structured, raw]
  rfl

theorem AssignedClass.takes {a : AssignedClass}
    (values : ∀ p ∈ a.parameters, Takes .json depth p.value p.value) :
    Takes decoder (depth + 3) a.toJson a := by
  intro levels source enough means
  obtain ⟨levels, rfl⟩ := Nat.exists_eq_add_of_le' (Nat.le_of_add_left_le enough : 1 ≤ levels)
  obtain ⟨f, read, rfl, give⟩ := Json.Decoder.fields?_of_means ["puppet_class", "parameters"]
    levels means (by simp) (by simp)
  have parameters := Json.Decoder.takes_list fun p member =>
    AssignedParameter.takes (values p member)
  have name := give.required "puppet_class" (by simp) (Json.Decoder.takes_string a.className)
    (Nat.zero_le _)
  have assigned := give.withDefault "parameters" (by simp) (parameters.orNull [] nofun)
    (Nat.le_of_succ_le_succ enough) []
  rw [decoder, read]
  simp only [Option.bind_eq_bind, Option.bind_some, name, assigned]
  rfl

theorem Configuration.takes {c : Configuration}
    (values : ∀ a ∈ c.classes, ∀ p ∈ a.parameters, Takes .json depth p.value p.value) :
    Takes decoder (depth + 5) c.toJson c := by
  intro levels source enough means
  obtain ⟨levels, rfl⟩ := Nat.exists_eq_add_of_le' (Nat.le_of_add_left_le enough : 1 ≤ levels)
  obtain ⟨f, read, rfl, give⟩ := Json.Decoder.fields?_of_means ["classes"] levels means (by simp)
    (by simp)
  have classes := Json.Decoder.takes_list fun a member => AssignedClass.takes (values a member)
  have assigned := give.withDefault "classes" (by simp) (classes.orNull [] nofun)
    (Nat.le_of_succ_le_succ enough) []
  rw [decoder, read]
  simp only [Option.bind_eq_bind, Option.bind_some, assigned]
  rfl

end Configuration

theorem Variables.takes {depth : Nat} {v : Variables}
    (values : ∀ m ∈ v.data, ∀ e ∈ m.entries, Takes .json depth e.2 e.2) :
    Takes decoder (depth + 2) v.toJson v := by
  intro levels source enough means
  obtain ⟨levels, rfl⟩ := Nat.exists_eq_add_of_le' (Nat.le_of_add_left_le enough : 1 ≤ levels)
  obtain ⟨f, read, rfl, give⟩ := Json.Decoder.fields?_of_means ["data"] levels means (by simp)
    (by simp)
  have entries := Json.Decoder.takes_ofOption (f := .ofMap id)
    (fun m given => Json.Decoder.takes_map (f := id) (values m given)) nofun
  have data := give.withDefault "data" List.mem_cons_self entries (Nat.le_of_succ_le_succ enough)
    none
  rw [decoder, read]
  simp only [Option.bind_eq_bind, Option.bind_some, data]
  rfl

theorem Environment.takes (e : Environment) : Takes decoder 1 e.toJson e := by
  intro levels source enough means
  obtain ⟨levels, rfl⟩ := Nat.exists_eq_add_of_le' enough
  obtain ⟨f, read, -, give⟩ := Json.Decoder.fields?_of_means ["id", "name", "master_zone"] levels
    means (by simp) (by simp)
  have id := give.required "id" (by simp) (Json.Decoder.takes_string e.id) (Nat.zero_le _)
  have name := give.required "name" (by simp) (Json.Decoder.takes_string e.name) (Nat.zero_le _)
  have zone := give.required "master_zone" (by simp) (Json.Decoder.takes_string e.masterZone)
    (Nat.zero_le _)
  rw [decoder, read]
  simp only [Option.bind_eq_bind, Option.bind_some, id, name, zone]
  rfl

theorem ParameterInfo.takes {depth : Nat} {p : ParameterInfo}
    (values : Takes .json depth p.values p.values) : Takes decoder (depth + 1) p.toJson p := by
  intro levels source enough means
  obtain ⟨levels, rfl⟩ := Nat.exists_eq_add_of_le' (Nat.le_of_add_left_le enough : 1 ≤ levels)
  obtain ⟨f, read, rfl, give⟩ := Json.Decoder.fields?_of_means
    ["id", "name", "type", "default", "values"] levels means (by simp) (by simp)
  have id := give.withDefault "id" (by simp) (Json.Decoder.takes_ofText? p.id) (Nat.zero_le _) none
  have name := give.required "name" (by simp) (Json.Decoder.takes_string p.name) (Nat.zero_le _)
  have type := give.withDefault "type" (by simp) (Json.Decoder.takes_string p.typeName)
    (Nat.zero_le _) ""
  have default := give.withDefault "default" (by simp) (Json.Decoder.takes_ofText? p.default)
    (Nat.zero_le _) none
  have allowed := give.withDefault "values" (by simp) values (Nat.le_of_succ_le_succ enough) .null
  rw [decoder, read]
  simp only [Option.bind_eq_bind, Option.bind_some, id, name, type, default, allowed]
  rfl

/-- The parameters of classes are one level further down than those at the top. -/
theorem Classification.takes {depth : Nat} {c : Classification}
    (ofClasses : ∀ cs ∈ c.classes, ∀ k ∈ cs.entries, ∀ m ∈ k.2, ∀ e ∈ m.entries,
      Takes .json depth e.2 e.2)
    (ofParameters : ∀ m ∈ c.parameters, ∀ e ∈ m.entries, Takes .json (depth + 1) e.2 e.2) :
    Takes decoder (depth + 3) c.toJson c := by
  intro levels source enough means
  obtain ⟨levels, rfl⟩ := Nat.exists_eq_add_of_le' (Nat.le_of_add_left_le enough : 1 ≤ levels)
  obtain ⟨f, read, rfl, give⟩ := Json.Decoder.fields?_of_means
    ["classes", "parameters", "environment"] levels means (by simp) (by simp)
  have two : depth + 2 ≤ f.levels := Nat.le_of_succ_le_succ enough
  have values {n : Nat} {m : OrderedMap Json} (takes : ∀ e ∈ m.entries, Takes .json n e.2 e.2) :
      Takes (.map .json) (n + 1) (.ofMap id m) m := Json.Decoder.takes_map takes
  have classes := give.withDefault "classes" (by simp)
    (Json.Decoder.takes_ofOption (fun cs given => Json.Decoder.takes_map fun k member =>
      Json.Decoder.takes_ofOption (fun m given' => values (ofClasses cs given k member m given'))
        nofun) nofun) two none
  have parameters := give.withDefault "parameters" (by simp)
    (Json.Decoder.takes_ofOption (fun m given => values (ofParameters m given)) nofun) two none
  have environment := give.withDefault "environment" (by simp)
    (Json.Decoder.takes_ofText? c.environment) (Nat.zero_le _) none
  rw [decoder, read]
  simp only [Option.bind_eq_bind, Option.bind_some, classes, parameters, environment]
  rfl

end NodeGroups.Document

namespace NodeGroups.Search

open Json.Decoder (Takes)

theorem Activation.takes (a : Activation) : Takes decoder 0 (.string a.name) a :=
  Json.Decoder.takes_variant (by cases a <;> decide)

/-- A record without further fields is written without their map, and read with an empty one. -/
theorem Record.takes (r : Record) : Takes decoder 2 r.toJson r := by
  intro levels source enough means
  obtain ⟨levels, rfl⟩ := Nat.exists_eq_add_of_le' (Nat.le_of_add_left_le enough : 1 ≤ levels)
  have one : 1 ≤ levels := Nat.le_of_succ_le_succ enough
  have entries : Takes (.map .string) 1 (.ofMap .string r.fields) r.fields :=
    Json.Decoder.takes_map fun e _ => Json.Decoder.takes_string e.2
  have known : ∀ m ∈ [("id", Json.string r.id), ("name", .string r.name)] ++
      (if r.fields.isEmpty then [] else [("fields", .ofMap .string r.fields)]) ++
      [("state", .string r.state.name)], m.1 ∈ ["id", "name", "fields", "state"] := by
    split <;> simp
  obtain ⟨f, read, rfl, give⟩ := Json.Decoder.fields?_of_means ["id", "name", "fields", "state"]
    levels means (by split <;> simp) known
  have id := give.required "id" (by simp) (Json.Decoder.takes_string r.id) (Nat.zero_le _)
  have name := give.required "name" (by simp) (Json.Decoder.takes_string r.name) (Nat.zero_le _)
  have state := give.withDefault "state" (by simp) r.state.takes (Nat.zero_le _) .enabled
  have fields : f.withDefault "fields" ∅ (.map .string) = some r.fields := by
    cases without : r.fields.isEmpty with
    | false => exact give.withDefault "fields" (by simp [without]) entries one ∅
    | true =>
      rw [Json.Decoder.fields?_absent read means (by simp [without])]
      exact congrArg some (OrderedMap.ext (List.isEmpty_iff.mp without).symm)
  rw [decoder, read]
  simp only [Option.bind_eq_bind, Option.bind_some, id, name, state, fields]
  rfl

end NodeGroups.Search
