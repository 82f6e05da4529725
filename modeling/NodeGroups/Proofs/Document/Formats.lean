import NodeGroups.Backend.CallLog
import NodeGroups.Proofs.Document.Decoding
import NodeGroups.Proofs.Json.Nesting
import NodeGroups.Proofs.Json.Rereading

set_option autoImplicit false

namespace NodeGroups.Json.Decoder

theorem ofNumber_nat (n : Nat) :
    Source.ofJson (.nat n) = .number ⟨false, Number.natChars n, none, none⟩ := by
  change Source.ofNumber (.int n) = _
  rw [Source.ofNumber_int, decide_eq_false (Int.not_lt.mpr (Int.natCast_nonneg n)),
    Int.natAbs_natCast]

/-- A wide integer is read from the digits that it was printed with. -/
theorem wideNat_ofJson {n : Nat} (fits : n < Nat.pow 2 128) (levels : Nat) :
    wideNat levels (Source.ofJson (.nat n)) = some n := by
  rw [ofNumber_nat, wideNat, ofDigitChars_natChars]
  exact if_pos fits

theorem optional_natUpTo_ofJson {n max : Nat} (fits : n ≤ max) (exact : max ≤ maxInteger)
    (levels : Nat) :
    optional (natUpTo max) levels (Source.ofJson (.nat n)) = some (some n) := by
  have read : natUpTo max levels (.number ⟨false, Number.natChars n, none, none⟩) = some n := by
    rw [natUpTo, Numeral.value?, append_natChars (Nat.le_trans fits exact)]
    exact if_pos fits
  rw [ofNumber_nat]
  exact congrArg (Option.map some) read

end NodeGroups.Json.Decoder

namespace NodeGroups.Backend.LogEntry

open Json (Source)

/-- The numbers of an entry are within their types. -/
structure Fits (e : LogEntry) : Prop where
  httpStatus : ∀ n ∈ e.httpStatus, n ≤ 65535
  latencyMs : e.latencyMs < Nat.pow 2 128

def members (e : LogEntry) : List (String × Json) :=
  [("request_id", .string e.requestId), ("operation", .string e.operation),
    ("method", .string e.method), ("path", .string e.path), ("status", .string e.status)] ++
  member? "http_status" .nat e.httpStatus ++
  [("latency_ms", .nat e.latencyMs), ("created_at", .string e.createdAt)] ++
  member? "error_code" .string e.errorCode ++ member? "error_message" .string e.errorMessage

theorem toJson_eq (e : LogEntry) : e.toJson = .object e.members := rfl

section Member

variable {α : Type} (key : String) (f : α → Json) (o : Option α)

theorem keys_member? : ((member? key f o).map Prod.fst).Sublist [key] := by
  cases o with
  | none => exact List.nil_sublist _
  | some a => exact List.Sublist.refl _

theorem lookup_member? (k : String) :
    ((member? key f o).map fun m => (m.1, Source.ofJson m.2)).lookup k =
      if k = key then o.map fun a => Source.ofJson (f a) else none := by
  cases o with
  | none => exact (ite_self none).symm
  | some a =>
    change List.lookup k [(key, Source.ofJson (f a))] = _
    rw [List.lookup_cons]
    by_cases same : k = key
    · rw [if_pos same, beq_iff_eq.mpr same]
      rfl
    · rw [if_neg same, beq_eq_false_iff_ne.mpr same]
      rfl

end Member

/-- An entry has members with the known keys, each once at most. -/
theorem keys_members (e : LogEntry) : (e.members.map Prod.fst).Sublist keys := by
  rw [members, List.map_append, List.map_append, List.map_append, List.map_append]
  exact ((((List.Sublist.refl _).append (keys_member? _ _ _)).append (.refl _)).append
    (keys_member? _ _ _)).append (keys_member? _ _ _)

/-- A member that may be left out is read as the value that it has, or as none. -/
theorem withDefault_member? {α : Type} {fields : Json.Decoder.Fields} {key : String} (f : α → Json)
    {o : Option α} (given : fields.given.lookup key = o.map fun a => Source.ofJson (f a))
    (d : Json.Decoder α)
    (reads : ∀ a ∈ o, Json.Decoder.optional d fields.levels (Source.ofJson (f a)) = some (some a)) :
    fields.withDefault key none (.optional d) = some o := by
  rw [Json.Decoder.Fields.withDefault, given]
  cases o with
  | none => rfl
  | some a => exact reads a rfl

/-- An entry is read from the source of its text. -/
theorem decoder_ofJson {e : LogEntry} (fits : e.Fits) (levels : Nat) :
    decoder (levels + 1) (Source.ofJson e.toJson) = some e := by
  have read := Json.Decoder.fields?_ofJson keys (e.keys_members.nodup (by decide))
    (fun m member => e.keys_members.subset (List.mem_map_of_mem member)) levels
  generalize atFields : Json.Decoder.Fields.mk levels (e.members.map fun m =>
    (m.1, Source.ofJson m.2)) = fields at read
  have look (k : String) : fields.given.lookup k =
      (e.members.map fun m => (m.1, Source.ofJson m.2)).lookup k := by rw [← atFields]
  simp only [members, List.map_append, List.map_cons, List.map_nil, List.lookup_append,
    List.lookup_cons, List.lookup_nil, lookup_member?] at look
  have text (key s : String) (found : fields.given.lookup key = some (Source.ofJson (.string s))) :
      fields.required key .string = some s := by
    rw [Json.Decoder.Fields.required, found]
    rfl
  have latency : fields.required "latency_ms" .wideNat = some e.latencyMs := by
    simp [Json.Decoder.Fields.required, look, Json.Decoder.wideNat_ofJson fits.latencyMs]
  have status : fields.withDefault "http_status" none (.optional (.natUpTo 65535)) =
      some e.httpStatus :=
    withDefault_member? .nat (by simp [look]) _ fun n member =>
      Json.Decoder.optional_natUpTo_ofJson (fits.httpStatus n member) (by decide) _
  have code : fields.withDefault "error_code" none (.optional .string) = some e.errorCode :=
    withDefault_member? .string (by simp [look]) _ fun _ _ => rfl
  have message : fields.withDefault "error_message" none (.optional .string) =
      some e.errorMessage :=
    withDefault_member? .string (by simp [look]) _ fun _ _ => rfl
  have requestId := text "request_id" e.requestId (by simp [look])
  have operation := text "operation" e.operation (by simp [look])
  have method := text "method" e.method (by simp [look])
  have path := text "path" e.path (by simp [look])
  have outcome := text "status" e.status (by simp [look])
  have createdAt := text "created_at" e.createdAt (by simp [look])
  rw [decoder, toJson_eq, read]
  simp only [Option.bind_eq_bind, Option.bind_some, requestId, operation, method, path, outcome,
    status, latency, createdAt, code, message]
  rfl

end NodeGroups.Backend.LogEntry

namespace NodeGroups

open Json (maxInteger maxNegated maxNesting Portable depth_lt_of_list depth_lt_of_map
  depth_lt_of_member isIntegral_list isIntegral_map isIntegral_object isIntegral_option
  textOf_compact)
open Json.Decoder (Takes takes_json)

theorem Json.Portable.takes {v : Json} (portable : v.Portable) {depth : Nat}
    (le : v.depth ≤ depth) : Takes .json depth v v := (takes_json portable.ordered).mono le

namespace Document

theorem AssignedClass.depth_lt {a : AssignedClass} {p : AssignedParameter}
    (given : p ∈ a.parameters) : p.value.depth + 2 < a.toJson.depth := by
  have inAssignment : p.value.depth < p.toJson.depth :=
    depth_lt_of_member (m := ("value", p.value)) (by simp)
  have inList := depth_lt_of_list (f := AssignedParameter.toJson) given
  have inClass : (Json.ofList AssignedParameter.toJson a.parameters).depth < a.toJson.depth :=
    depth_lt_of_member (m := ("parameters", .ofList AssignedParameter.toJson a.parameters))
      (by simp)
  omega

theorem AssignedClass.isIntegral {a : AssignedClass}
    (values : ∀ p ∈ a.parameters, p.value.Portable) : a.toJson.isIntegral = true := by
  have parameters : (Json.ofList AssignedParameter.toJson a.parameters).isIntegral = true := by
    refine isIntegral_list fun p given => isIntegral_object.mpr ?_
    simp [(values p given).integral, Json.isIntegral]
  refine isIntegral_object.mpr ?_
  simp [parameters, Json.isIntegral]

theorem Configuration.ofText?_compact {c : Configuration}
    (values : ∀ a ∈ c.classes, ∀ p ∈ a.parameters, p.value.Portable)
    (shallow : c.toJson.depth ≤ maxNesting) : decoder.ofText? c.toJson.compact = some c := by
  have levels : ∀ a ∈ c.classes, ∀ p ∈ a.parameters, Takes .json 122 p.value p.value := by
    intro a assigned p given
    have inClass := AssignedClass.depth_lt given
    have inList := depth_lt_of_list (f := AssignedClass.toJson) assigned
    have inDocument : (Json.ofList AssignedClass.toJson c.classes).depth < c.toJson.depth :=
      depth_lt_of_member (m := ("classes", .ofList AssignedClass.toJson c.classes)) (by simp)
    refine (values a assigned p given).takes ?_
    unfold maxNesting at shallow
    omega
  have integral : c.toJson.isIntegral = true := by
    have classes : (Json.ofList AssignedClass.toJson c.classes).isIntegral = true :=
      isIntegral_list fun a assigned => AssignedClass.isIntegral (values a assigned)
    refine isIntegral_object.mpr ?_
    simp [classes]
  exact (Configuration.takes levels).ofText? (by decide) (textOf_compact integral)

theorem Rules.ofText?_compact (r : Rules) : decoder.ofText? r.toJson.compact = some r := by
  have conditions : (Json.ofList Condition.toJson r.conditions).isIntegral = true :=
    isIntegral_list fun _ _ => rfl
  have nodes : (Json.ofList .string r.nodes).isIntegral = true := isIntegral_list fun _ _ => rfl
  have integral : r.toJson.isIntegral = true := by
    refine isIntegral_object.mpr ?_
    simp [conditions, nodes, Json.isIntegral]
  exact r.takes.ofText? (by decide) (textOf_compact integral)

theorem Variables.ofText?_compact {v : Variables}
    (values : ∀ m ∈ v.data, ∀ e ∈ m.entries, e.2.Portable)
    (shallow : v.toJson.depth ≤ maxNesting) : decoder.ofText? v.toJson.compact = some v := by
  have levels : ∀ m ∈ v.data, ∀ e ∈ m.entries, Takes .json 125 e.2 e.2 := by
    intro m data e member
    have inMap := depth_lt_of_map (f := id) member
    have inDocument : (Json.ofMap id m).depth < v.toJson.depth := by
      refine depth_lt_of_member (m := ("data", .ofMap id m)) ?_
      rw [data]
      exact List.mem_cons_self
    refine (values m data e member).takes ?_
    unfold maxNesting at shallow
    rw [id] at inMap
    omega
  have integral : v.toJson.isIntegral = true := by
    have data : (Json.ofOption (.ofMap id) v.data).isIntegral = true :=
      isIntegral_option fun m data => isIntegral_map fun e member =>
        (values m data e member).integral
    refine isIntegral_object.mpr ?_
    simp [data]
  exact (Variables.takes levels).ofText? (by decide) (textOf_compact integral)

theorem Environment.ofText?_compact (e : Environment) :
    decoder.ofText? e.toJson.compact = some e :=
  e.takes.ofText? (by decide) (textOf_compact rfl)

theorem ParameterInfo.ofText?_compact {p : ParameterInfo} (values : p.values.Portable)
    (shallow : p.toJson.depth ≤ maxNesting) : decoder.ofText? p.toJson.compact = some p := by
  have inDocument : p.values.depth < p.toJson.depth :=
    depth_lt_of_member (m := ("values", p.values)) (by simp)
  have levels : Takes .json 126 p.values p.values := by
    refine values.takes ?_
    unfold maxNesting at shallow
    omega
  have integral : p.toJson.isIntegral = true := by
    have text (s : Option String) : (Json.ofText? s).isIntegral = true :=
      isIntegral_option fun _ _ => rfl
    refine isIntegral_object.mpr ?_
    simp [values.integral, text, Json.isIntegral]
  exact (ParameterInfo.takes levels).ofText? (by decide) (textOf_compact integral)

theorem Classification.ofText?_compact {c : Classification}
    (ofClasses : ∀ cs ∈ c.classes, ∀ k ∈ cs.entries, ∀ m ∈ k.2, ∀ e ∈ m.entries, e.2.Portable)
    (ofParameters : ∀ m ∈ c.parameters, ∀ e ∈ m.entries, e.2.Portable)
    (shallow : c.toJson.depth ≤ maxNesting) : decoder.ofText? c.toJson.compact = some c := by
  unfold maxNesting at shallow
  have inClasses : ∀ cs ∈ c.classes, ∀ k ∈ cs.entries, ∀ m ∈ k.2, ∀ e ∈ m.entries,
      Takes .json 124 e.2 e.2 := by
    intro cs classes k assigned m parameters e member
    have inMap := depth_lt_of_map (f := id) member
    have inClass := depth_lt_of_map (f := .ofOption (.ofMap id)) assigned
    have inDocument : (Json.ofMap (.ofOption (.ofMap id)) cs).depth < c.toJson.depth := by
      refine depth_lt_of_member (m := ("classes", .ofMap (.ofOption (.ofMap id)) cs)) ?_
      rw [classes]
      exact List.mem_cons_self
    refine (ofClasses cs classes k assigned m parameters e member).takes ?_
    rw [parameters] at inClass
    change (Json.ofMap id m).depth < _ at inClass
    rw [id] at inMap
    omega
  have inParameters : ∀ m ∈ c.parameters, ∀ e ∈ m.entries, Takes .json 125 e.2 e.2 := by
    intro m parameters e member
    have inMap := depth_lt_of_map (f := id) member
    have inDocument : (Json.ofMap id m).depth < c.toJson.depth := by
      refine depth_lt_of_member (m := ("parameters", .ofMap id m)) ?_
      rw [parameters]
      exact List.mem_cons_of_mem _ List.mem_cons_self
    refine (ofParameters m parameters e member).takes ?_
    rw [id] at inMap
    omega
  have integral : c.toJson.isIntegral = true := by
    have classes : (Json.ofOption (.ofMap (.ofOption (.ofMap id))) c.classes).isIntegral = true :=
      isIntegral_option fun cs classes => isIntegral_map fun k assigned =>
        isIntegral_option fun m parameters => isIntegral_map fun e member =>
          (ofClasses cs classes k assigned m parameters e member).integral
    have parameters : (Json.ofOption (.ofMap id) c.parameters).isIntegral = true :=
      isIntegral_option fun m parameters => isIntegral_map fun e member =>
        (ofParameters m parameters e member).integral
    have environment : (Json.ofText? c.environment).isIntegral = true :=
      isIntegral_option fun _ _ => rfl
    refine isIntegral_object.mpr ?_
    simp [classes, parameters, environment]
  exact (Classification.takes inClasses inParameters).ofText? (by decide) (textOf_compact integral)

end Document

theorem Search.Record.ofText?_compact (r : Search.Record) :
    Search.Record.decoder.ofText? r.toJson.compact = some r := by
  have fields : (Json.ofMap .string r.fields).isIntegral = true := isIntegral_map fun _ _ => rfl
  have integral : r.toJson.isIntegral = true := by
    refine isIntegral_object.mpr ?_
    split <;> simp [fields, Json.isIntegral]
  exact r.takes.ofText? (by decide) (textOf_compact integral)

theorem Backend.LogEntry.ofText?_compact {e : Backend.LogEntry} (fits : e.Fits) :
    Backend.LogEntry.decoder.ofText? e.toJson.compact = some e := by
  rw [Json.Decoder.ofText?, Json.Source.parse?_compact]
  exact Backend.LogEntry.decoder_ofJson fits 126

namespace Document

/-- The formats of documents on the wire and in the log. -/
inductive Format
  | configuration
  | rules
  | groupVariables
  | parameter
  | environment
  | classification
  | record
  | logEntry

namespace Format

@[reducible]
def Content : Format → Type
  | .configuration => Configuration
  | .rules => Rules
  | .groupVariables => Variables
  | .parameter => ParameterInfo
  | .environment => Environment
  | .classification => Classification
  | .record => Search.Record
  | .logEntry => Backend.LogEntry

def toJson : (f : Format) → f.Content → Json
  | .configuration => Configuration.toJson
  | .rules => Rules.toJson
  | .groupVariables => Variables.toJson
  | .parameter => ParameterInfo.toJson
  | .environment => Environment.toJson
  | .classification => Classification.toJson
  | .record => Search.Record.toJson
  | .logEntry => Backend.LogEntry.toJson

def decoder : (f : Format) → Json.Decoder f.Content
  | .configuration => Configuration.decoder
  | .rules => Rules.decoder
  | .groupVariables => Variables.decoder
  | .parameter => ParameterInfo.decoder
  | .environment => Environment.decoder
  | .classification => Classification.decoder
  | .record => Search.Record.decoder
  | .logEntry => Backend.LogEntry.decoder

/-- The values that a document embeds. -/
def embedded : (f : Format) → f.Content → List Json
  | .configuration, c => c.classes.flatMap fun a => a.parameters.map (·.value)
  | .groupVariables, v => v.data.toList.flatMap (·.values)
  | .parameter, p => [p.values]
  | .classification, c =>
    (c.classes.toList.flatMap fun m => m.values.flatMap fun p => p.toList.flatMap (·.values)) ++
      c.parameters.toList.flatMap (·.values)
  | .rules, _ | .environment, _ | .record, _ | .logEntry, _ => []

/-- The numbers of a document that are no embedded values are within their types. -/
def Fits : (f : Format) → f.Content → Prop
  | .logEntry, e => e.Fits
  | _, _ => True

/-- Every document is read from its text as it was. -/
theorem ofText?_toJson (f : Format) (d : f.Content) (embedded : ∀ v ∈ f.embedded d, v.Portable)
    (fits : f.Fits d) (shallow : (f.toJson d).depth ≤ maxNesting) :
    f.decoder.ofText? (f.toJson d).compact = some d := by
  cases f with
  | configuration =>
    exact Configuration.ofText?_compact (fun a assigned p given =>
      embedded p.value (List.mem_flatMap.mpr ⟨a, assigned, List.mem_map_of_mem given⟩)) shallow
  | rules => exact Rules.ofText?_compact d
  | groupVariables =>
    exact Variables.ofText?_compact (fun m data e member =>
      embedded e.2 (List.mem_flatMap.mpr ⟨m, Option.mem_toList.mpr data,
        List.mem_map_of_mem member⟩)) shallow
  | parameter => exact ParameterInfo.ofText?_compact (embedded _ List.mem_cons_self) shallow
  | environment => exact Environment.ofText?_compact d
  | classification =>
    refine Classification.ofText?_compact (fun cs classes k assigned m parameters e member => ?_)
      (fun m parameters e member => ?_) shallow
    · refine embedded e.2 (List.mem_append_left _ ?_)
      exact List.mem_flatMap.mpr ⟨cs, Option.mem_toList.mpr classes, List.mem_flatMap.mpr
        ⟨k.2, List.mem_map_of_mem assigned, List.mem_flatMap.mpr
          ⟨m, Option.mem_toList.mpr parameters, List.mem_map_of_mem member⟩⟩⟩
    · refine embedded e.2 (List.mem_append_right _ ?_)
      exact List.mem_flatMap.mpr
        ⟨m, Option.mem_toList.mpr parameters, List.mem_map_of_mem member⟩
  | record => exact Search.Record.ofText?_compact d
  | logEntry => exact Backend.LogEntry.ofText?_compact fits

/-- A classification with the largest and the smallest exact integer some levels down. -/
def nested : Classification where
  classes := some (.ofList [("apache", none), ("nginx", some (.ofList
    [("limits", .array [.nat maxInteger,
      .object [("low", .int (-maxNegated)), ("none", .null)]])]))])
  parameters := some ∅
  environment := some "line\n\"\u00e9\""

/-- An entry of a call that took longer than an exact integer can say. -/
def slow : Backend.LogEntry where
  requestId := "r"
  operation := "nodes.list"
  method := "GET"
  path := "api/nodes/"
  status := "error"
  httpStatus := some 502
  latencyMs := Nat.pow 2 128 - 1
  createdAt := ""
  errorCode := some "REJECTED"
  errorMessage := none

theorem ofText?_toJson_wide :
    Classification.decoder.ofText? nested.toJson.compact = some nested ∧
      Backend.LogEntry.decoder.ofText? slow.toJson.compact = some slow :=
  ⟨ofText?_toJson .classification nested (by decide +kernel) trivial (by decide +kernel),
    ofText?_toJson .logEntry slow nofun ⟨by decide +kernel, by decide +kernel⟩ (by decide +kernel)⟩

end Format

end Document

end NodeGroups
