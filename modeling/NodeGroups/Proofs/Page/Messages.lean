import NodeGroups.Proofs.Json.Nesting
import NodeGroups.Proofs.Json.Rereading
import NodeGroups.Proofs.Page.Commit

set_option autoImplicit false

namespace NodeGroups.Failure

/-- A value has a text: `null` and the empty string have none. -/
def HasText (v : Json) : Prop := v ≠ .null ∧ v ≠ .string ""

/-- The text that stands for a value: a string is its own, `null` is nothing, and all else is its
JSON text. -/
inductive Reads : Json → String → Prop
  | string (text : String) : Reads (.string text) text
  | null : Reads .null ""
  | bool (b : Bool) : Reads (.bool b) (Json.compact (.bool b))
  | number (n : Json.Number) : Reads (.number n) (Json.compact (.number n))
  | array (items : List Json) : Reads (.array items) (Json.compact (.array items))
  | object (members : List (String × Json)) :
      Reads (.object members) (Json.compact (.object members))

/-- The line of a member: of a list the texts of its items, in order and with commas between them,
and of all else its text. -/
inductive Line : Json → String → Prop
  | list {items : List Json} {texts : List String} (each : List.Forall₂ Reads items texts) :
      Line (.array items) (",".intercalate texts)
  | single {v : Json} {text : String} (other : ∀ items, v ≠ .array items) (reads : Reads v text) :
      Line v text

/-- A member has text: a list if one of its items has. -/
def Speaks : Json → Prop
  | .array items => ∃ item ∈ items, HasText item
  | v => HasText v

/-- A list of several items of which none has text. -/
def Mute (v : Json) : Prop :=
  ∃ items, v = .array items ∧ 2 ≤ items.length ∧ ∀ item ∈ items, ¬ HasText item

/-- The members of a body, none if it is no object. -/
def membersOf : Json → List (String × Json)
  | .object members => members
  | _ => []

/-- The lines of those members that a condition holds of, in order. -/
inductive Tells (condition : Json → Prop) : List (String × Json) → List String → Prop
  | nil : Tells condition [] []
  | line {key : String} {v : Json} {text : String} {members : List (String × Json)}
      {lines : List String} (holds : condition v) (line : Line v text)
      (others : Tells condition members lines) :
      Tells condition ((key, v) :: members) (text :: lines)
  | skip {key : String} {v : Json} {members : List (String × Json)} {lines : List String}
      (fails : ¬ condition v) (others : Tells condition members lines) :
      Tells condition ((key, v) :: members) lines

theorem compact_ne_empty (v : Json) : Json.compact v ≠ "" := by
  obtain ⟨c, u, text, -⟩ := Json.Source.compactChars_solid v
  intro empty
  have none : (Json.compact v).toList = [] := by rw [empty]; rfl
  rw [Json.compact, String.toList_ofList, text] at none
  cases none

theorem messageText_eq_empty {v : Json} : messageText v = "" ↔ ¬ HasText v := by
  unfold HasText
  cases v with
  | string text => simp [messageText]
  | null => simp [messageText]
  | bool | number | array | object => simp [messageText, compact_ne_empty]

theorem reads_iff {v : Json} {text : String} : Reads v text ↔ messageText v = text := by
  constructor
  · rintro (_ | _ | _ | _ | _ | _) <;> rfl
  · rintro rfl
    cases v with
    | string text => exact .string text
    | null => exact .null
    | bool b => exact .bool b
    | number n => exact .number n
    | array items => exact .array items
    | object members => exact .object members

theorem forall₂_reads {items : List Json} {texts : List String} :
    List.Forall₂ Reads items texts ↔ items.map messageText = texts := by
  have same : List.Forall₂ Reads items texts ↔
      List.Forall₂ (fun v text => messageText v = text) items texts :=
    ⟨fun each => each.imp fun _ _ => reads_iff.mp, fun each => each.imp fun _ _ => reads_iff.mpr⟩
  rw [same, ← List.forall₂_map_left_iff, List.forall₂_eq_eq_eq]

/-- A member that is no list has its own text for a line. -/
theorem single_of_ne {v : Json} (other : ∀ items, v ≠ .array items) :
    messageLine v = messageText v ∧ (Speaks v ↔ HasText v) ∧ ¬ Mute v := by
  refine ⟨?_, ?_, fun ⟨items, list, _⟩ => other items list⟩
  · cases v with
    | array items => exact absurd rfl (other items)
    | _ => rfl
  · cases v with
    | array items => exact absurd rfl (other items)
    | _ => exact Iff.rfl

theorem line_iff {v : Json} {text : String} : Line v text ↔ messageLine v = text := by
  constructor
  · rintro (⟨each⟩ | ⟨other, single⟩)
    · rw [messageLine, forall₂_reads.mp each]
    · rw [(single_of_ne other).1, reads_iff.mp single]
  · rintro rfl
    by_cases list : ∃ items, v = .array items
    · obtain ⟨items, rfl⟩ := list
      exact .list (forall₂_reads.mpr rfl)
    · have other : ∀ items, v ≠ .array items := fun items same => list ⟨items, same⟩
      exact .single other (reads_iff.mpr (single_of_ne other).1.symm)

/-- A member has no line just if it has no text and is no list of several items. -/
theorem messageLine_eq_empty {v : Json} : messageLine v = "" ↔ ¬ (Speaks v ∨ Mute v) := by
  by_cases list : ∃ items, v = .array items
  · obtain ⟨items, rfl⟩ := list
    have mute : Mute (.array items) ↔ 2 ≤ items.length ∧ ∀ item ∈ items, ¬ HasText item := by
      simp [Mute]
    rw [messageLine, mute, Speaks]
    rcases items with _ | ⟨first, _ | ⟨second, items⟩⟩
    · simp
    · simp [messageText_eq_empty]
    · have several : ",".intercalate ((first :: second :: items).map messageText) ≠ "" := by
        rw [List.map_cons, List.map_cons, String.intercalate_cons_cons]
        simp
      have enough : 2 ≤ (first :: second :: items).length := by simp
      refine iff_of_false several fun silent => silent ?_
      by_cases text : ∃ item ∈ first :: second :: items, HasText item
      · exact .inl text
      · exact .inr ⟨enough, fun item member has => text ⟨item, member, has⟩⟩
  · obtain ⟨line, speaks, unmute⟩ := single_of_ne fun items same => list ⟨items, same⟩
    rw [line, messageText_eq_empty, speaks, or_iff_left unmute]

/-- The characters of lines when each has an end of its own. -/
def weight : List String → Nat
  | [] => 0
  | line :: lines => line.length + 1 + weight lines

theorem length_intercalate {lines : List String} (nonempty : lines ≠ []) :
    ("\n".intercalate lines).length + 1 = weight lines := by
  induction lines with
  | nil => exact absurd rfl nonempty
  | cons line lines ih =>
    cases lines with
    | nil => simp [weight]
    | cons next lines =>
      have onward := ih (List.cons_ne_nil next lines)
      have newline : "\n".length = 1 := rfl
      rw [String.intercalate_cons_cons, String.length_append, String.length_append, weight,
        ← onward]
      omega

/-- What is told of members: a line of each that has text or is a mute list. -/
theorem tells_lines (members : List (String × Json)) :
    Tells (fun v => Speaks v ∨ Mute v) members
      ((members.map fun m => messageLine m.2).filter (· ≠ "")) := by
  induction members with
  | nil => exact .nil
  | cons m members ih =>
    obtain ⟨key, v⟩ := m
    rw [List.map_cons]
    by_cases empty : messageLine v = ""
    · rw [List.filter_cons_of_neg (by simpa using empty)]
      exact .skip (messageLine_eq_empty.mp empty) ih
    · rw [List.filter_cons_of_pos (by simpa using empty)]
      exact .line (not_not.mp (mt messageLine_eq_empty.mpr empty)) (line_iff.mpr rfl) ih

variable {members : List (String × Json)} {few all : List String}

theorem not_speaks_of_mute {v : Json} (mute : Mute v) : ¬ Speaks v := by
  obtain ⟨items, rfl, -, silent⟩ := mute
  rintro ⟨item, member, text⟩
  exact silent item member text

theorem Tells.weight_add_two_le (told : Tells Speaks members few)
    (more : Tells (fun v => Speaks v ∨ Mute v) members all) :
    weight few ≤ weight all ∧ ((∃ m ∈ members, Mute m.2) → weight few + 2 ≤ weight all) := by
  induction told generalizing all with
  | nil =>
    cases more
    exact ⟨Nat.le_refl _, fun ⟨m, member, _⟩ => absurd member List.not_mem_nil⟩
  | @line key v text members few speaks line others ih =>
    cases more with
    | skip fails _ => exact absurd (.inl speaks) fails
    | @line _ _ other _ all holds otherLine onward =>
      obtain rfl : other = text := (line_iff.mp otherLine).symm.trans (line_iff.mp line)
      obtain ⟨le, lt⟩ := ih onward
      refine ⟨Nat.add_le_add_left le _, fun ⟨m, member, mute⟩ => ?_⟩
      rcases List.mem_cons.mp member with rfl | member
      · exact absurd speaks (not_speaks_of_mute mute)
      · exact Nat.add_le_add_left (lt ⟨m, member, mute⟩) _
  | @skip key v members few silent others ih =>
    cases more with
    | @line _ _ text _ all holds line onward =>
      have solid : text ≠ "" := by
        rw [← line_iff.mp line]
        exact fun empty => messageLine_eq_empty.mp empty holds
      have long : text.length ≠ 0 := fun none => solid (String.length_eq_zero_iff.mp none)
      have le := (ih onward).1
      have more : weight (text :: all) = text.length + 1 + weight all := rfl
      refine ⟨?_, fun _ => ?_⟩ <;> omega
    | skip fails onward =>
      obtain ⟨le, lt⟩ := ih onward
      refine ⟨le, fun ⟨m, member, mute⟩ => ?_⟩
      rcases List.mem_cons.mp member with rfl | member
      · exact absurd (.inr mute) fails
      · exact lt ⟨m, member, mute⟩

/-- Members are told in no other way. -/
theorem Tells.of_iff {condition other : Json → Prop} {lines : List String}
    (told : Tells condition members lines)
    (same : ∀ m ∈ members, condition m.2 ↔ other m.2) : Tells other members lines := by
  induction told with
  | nil => exact .nil
  | line holds line others ih =>
    have onward := ih fun m member => same m (List.mem_cons_of_mem _ member)
    exact .line ((same _ List.mem_cons_self).mp holds) line onward
  | skip fails others ih =>
    have onward := ih fun m member => same m (List.mem_cons_of_mem _ member)
    exact .skip (mt (same _ List.mem_cons_self).mpr fails) onward

theorem messagesOf_eq (body : Json) :
    messagesOf body = "\n".intercalate
      (((membersOf body).map fun m => messageLine m.2).filter (· ≠ "")) := by
  cases body <;> rfl

/-- The text of lines that are not empty is empty just if there is none. -/
theorem intercalate_eq_empty {lines : List String} (solid : ∀ line ∈ lines, line ≠ "") :
    "\n".intercalate lines = "" ↔ lines = [] := by
  constructor
  · intro empty
    cases lines with
    | nil => rfl
    | cons line lines =>
      have length := length_intercalate (List.cons_ne_nil line lines)
      have long : line.length ≠ 0 :=
        fun none => solid line List.mem_cons_self (String.length_eq_zero_iff.mp none)
      have more : weight (line :: lines) = line.length + 1 + weight lines := rfl
      rw [empty, String.length_empty] at length
      omega
  · rintro rfl
    rfl

theorem messagesOf_eq_empty {body : Json} :
    messagesOf body = "" ↔ ∀ m ∈ membersOf body, ¬ (Speaks m.2 ∨ Mute m.2) := by
  have solid : ∀ line ∈ ((membersOf body).map fun m => messageLine m.2).filter (· ≠ ""),
      line ≠ "" := fun line member => of_decide_eq_true (List.mem_filter.mp member).2
  rw [messagesOf_eq, intercalate_eq_empty solid, List.filter_eq_nil_iff, List.forall_mem_map]
  refine forall₂_congr fun m member => ?_
  rw [← messageLine_eq_empty, decide_eq_true_iff, not_not]

/-- A body is told by the lines of the members with text alone, just if no list in it is mute. -/
theorem tells_speaks_iff (body : Json) :
    (∃ lines, Tells Speaks (membersOf body) lines ∧ messagesOf body = "\n".intercalate lines) ↔
      ∀ m ∈ membersOf body, ¬ Mute m.2 := by
  have told := tells_lines (membersOf body)
  rw [messagesOf_eq]
  generalize ((membersOf body).map fun m => messageLine m.2).filter (· ≠ "") = all at told
  constructor
  · -- A line may hold newlines, so lines cannot be told from their text, but lengths can.
    rintro ⟨few, speaking, same⟩ m member mute
    have more := (speaking.weight_add_two_le told).2 ⟨m, member, mute⟩
    have some : all ≠ [] := by
      rintro rfl
      exact absurd more (by simp [weight])
    have length := length_intercalate some
    rw [same] at length
    by_cases none : few = []
    · subst none
      rw [String.intercalate_nil, String.length_empty] at length
      omega
    · rw [length_intercalate none] at length
      omega
  · intro unmute
    exact ⟨all, told.of_iff fun m member => or_iff_left (unmute m member), rfl⟩

/-- The line of a mute list starts with the comma behind its first item. -/
theorem Mute.head?_line {v : Json} {text : String} (mute : Mute v) (line : Line v text) :
    text.toList.head? = some ',' := by
  obtain ⟨items, rfl, several, silent⟩ := mute
  match items with
  | first :: second :: items =>
    have empty : messageText first = "" :=
      messageText_eq_empty.mpr (silent first List.mem_cons_self)
    rw [← line_iff.mp line, messageLine, List.map_cons, List.map_cons,
      String.intercalate_cons_cons, empty]
    simp

/-- Where no member has text, what is told starts with a comma if there is anything. -/
theorem head?_messagesOf {body : Json} (silent : ∀ m ∈ membersOf body, ¬ Speaks m.2)
    (told : messagesOf body ≠ "") : (messagesOf body).toList.head? = some ',' := by
  have lines := tells_lines (membersOf body)
  rw [messagesOf_eq] at told ⊢
  generalize ((membersOf body).map fun m => messageLine m.2).filter (· ≠ "") = all at told lines
  generalize membersOf body = members at silent lines
  induction lines with
  | nil => exact absurd rfl told
  | @line key v text members all holds line others _ =>
    have head := (holds.resolve_left (silent _ List.mem_cons_self)).head?_line line
    cases all with
    | nil => rwa [String.intercalate_singleton]
    | cons next all =>
      rw [String.intercalate_cons_cons, String.append_assoc, String.toList_append,
        List.head?_append, head, Option.some_or]
  | skip fails others ih =>
    exact ih told fun m member => silent m (List.mem_cons_of_mem _ member)

end NodeGroups.Failure

namespace NodeGroups.Page

open Backend (Response Session)
open Failure (Mute Speaks Tells membersOf messagesOf)

/-- What a page that shows the messages of the backend says of a refusal with this body. -/
inductive Announced (body : String) : String → Prop
  | messages {v : Json} (read : Json.parse? body = some v)
      (told : ∃ m ∈ membersOf v, Speaks m.2 ∨ Mute m.2) : Announced body (messagesOf v)
  | general (untold : ∀ v, Json.parse? body = some v →
      ∀ m ∈ membersOf v, ¬ (Speaks m.2 ∨ Mute m.2)) : Announced body Failure.generalMessage

theorem announced_refusalText (r : Response) : Announced r.body (refusalText (.ok r)) := by
  rw [refusalText]
  cases read : Json.parse? r.body with
  | none =>
    refine .general fun v other => ?_
    rw [read] at other
    cases other
  | some v =>
    dsimp only
    by_cases empty : messagesOf v = ""
    · rw [if_pos empty]
      refine .general fun w same => ?_
      rw [read] at same
      cases same
      exact Failure.messagesOf_eq_empty.mp empty
    · rw [if_neg empty]
      refine .messages read ?_
      by_contra none
      exact empty (Failure.messagesOf_eq_empty.mpr fun m member holds => none ⟨m, member, holds⟩)

/-- Where the backend sent no text, the general sentence is said just if it sent no mute list. -/
theorem Announced.eq_general_iff {body text : String} (announced : Announced body text)
    (silent : ∀ v, Json.parse? body = some v → ∀ m ∈ membersOf v, ¬ Speaks m.2) :
    text = Failure.generalMessage ↔
      ∀ v, Json.parse? body = some v → ∀ m ∈ membersOf v, ¬ Mute m.2 := by
  cases announced with
  | @messages v read told =>
    obtain ⟨m, member, holds⟩ := told
    have mute := holds.resolve_left (silent v read m member)
    refine iff_of_false (fun general => ?_) fun unmute => unmute v read m member mute
    have some : messagesOf v ≠ "" := fun empty =>
      Failure.messagesOf_eq_empty.mp empty m member holds
    -- The general sentence does not start with a comma.
    have head := Failure.head?_messagesOf (silent v read) some
    rw [general] at head
    revert head
    decide
  | general untold =>
    exact iff_of_true rfl fun v read m member mute => untold v read m member (.inr mute)

theorem Status.banner_settled {status : Status} {rearm : Bool} {updated refusal : String}
    {r : Response} (refused : r.isSuccess = false) :
    (status.settled rearm updated refusal (.ok r)).banner = some ⟨.danger, refusal⟩ := by
  rw [settled, Backend.outcomeOf, refused]
  rfl

/-- A refused commit shows a text, of which `Announced` tells what it is. If the backend sent no
text, it is the general sentence just if the backend sent no mute list. -/
def TellsRefusal (body : String) (status : Status) : Prop :=
  ∃ text, status.banner = some ⟨.danger, text⟩ ∧ Announced body text ∧
    ((∀ v, Json.parse? body = some v → ∀ m ∈ membersOf v, ¬ Speaks m.2) →
      (text = Failure.generalMessage ↔
        ∀ v, Json.parse? body = some v → ∀ m ∈ membersOf v, ¬ Mute m.2))

theorem Status.tellsRefusal_settled {status : Status} {rearm : Bool} {updated : String}
    {r : Response} (refused : r.isSuccess = false) :
    TellsRefusal r.body (status.settled rearm updated (refusalText (.ok r)) (.ok r)) :=
  have announced := announced_refusalText r
  ⟨refusalText (.ok r), banner_settled refused, announced, announced.eq_general_iff⟩

/-- What is told of a body of messages is one line for each member that has text, in key order, the
line of a list being the texts of its items with commas between them, and a line of commas for each
list of several items of which none has text. So nothing is told just if no member is of either
kind, and no other line is told just if there is no such list. A commit of rules or variables that
is refused shows what is told of the body, and the general sentence if nothing is; after a refusal
without any text it shows the general sentence just if the body has no such list. -/
theorem messages_told_iff (body : Json) :
    (messagesOf body = "" ↔ ∀ m ∈ membersOf body, ¬ (Speaks m.2 ∨ Mute m.2)) ∧
    (∃ lines, Tells (fun v => Speaks v ∨ Mute v) (membersOf body) lines ∧
      messagesOf body = "\n".intercalate lines) ∧
    ((∃ lines, Tells Speaks (membersOf body) lines ∧ messagesOf body = "\n".intercalate lines) ↔
      ∀ m ∈ membersOf body, ¬ Mute m.2) ∧
    (∀ text, Json.parse? text = some body → Entries.Sorted (membersOf body)) ∧
    (∀ (page : RulesPage) (s : Session) (r : Response), page.status.canCommit = true →
      s.answering s.sent (page.put s) = .ok r → r.isSuccess = false →
      TellsRefusal r.body (page.commit s).2.1.status) ∧
    ∀ (page : VariablesPage) (s : Session) (r : Response), page.status.canCommit = true →
      s.answering s.sent (page.put s) = .ok r → r.isSuccess = false →
      TellsRefusal r.body (page.commit s).2.1.status := by
  refine ⟨Failure.messagesOf_eq_empty, ?_, Failure.tells_speaks_iff body, ?_, ?_, ?_⟩
  · exact ⟨_, Failure.tells_lines (membersOf body), Failure.messagesOf_eq body⟩
  · intro text read
    have ordered := Json.isOrdered_parse? read
    cases body with
    | object members => exact (Json.isOrdered_object.mp ordered).1
    | _ => exact List.Pairwise.nil
  · intro page s r ready answer refused
    have settled := RulesPage.writer.commits page ready s fun _ _ => bannerText_of_refused
    have answered : s.answering s.sent (RulesPage.writer.put page s) = .ok r := answer
    rw [RulesPage.commit, settled.page, answered]
    exact Status.tellsRefusal_settled refused
  · intro page s r ready answer refused
    have settled := VariablesPage.writer.commits page ready s fun _ _ => bannerText_of_refused
    have answered : s.answering s.sent (VariablesPage.writer.put page s) = .ok r := answer
    rw [VariablesPage.commit, settled.page, answered]
    exact Status.tellsRefusal_settled refused

/-- A refusal of which one line is told, that of a list with one text; the other list is empty. -/
theorem messages_told_iff_partly :
    let text := "\x7b\"nodes\":[\"twice\",null],\"others\":[],\"value\":null\x7d"
    let body : Json :=
      .object [("nodes", .array [.string "twice", .null]), ("others", .array []), ("value", .null)]
    let s := Session.start {} fun _ _ => .ok ⟨400, text⟩
    let rules := (RulesPage.new "g" none {}).chooseQuantifier .any
    let values := (((VariablesPage.new "g").typeKey "a").typeValue "1").addEntry.2
    Entries.Sorted (membersOf body) ∧
      TellsRefusal text (rules.commit s).2.1.status ∧
      TellsRefusal text (values.commit s).2.1.status ∧
      (rules.commit s).2.1.status.banner = some ⟨.danger, "twice,"⟩ := by
  intro text body s rules values
  obtain ⟨-, -, -, ordered, ofRules, ofValues⟩ := messages_told_iff body
  refine ⟨ordered text (by decide +kernel), ofRules rules s ⟨400, text⟩ rfl rfl rfl,
    ofValues values s ⟨400, text⟩ rfl rfl rfl, ?_⟩
  decide +kernel

/-- A list of two nulls has no text, and yet there is a line for it, which a page shows in place of
the general sentence. -/
theorem messages_told_commas :
    let body : Json := .object [("a", .array [.null, .null])]
    let s := Session.start {} fun _ _ => .ok ⟨400, "\x7b\"a\":[null,null]\x7d"⟩
    let rules := (RulesPage.new "g" none {}).chooseQuantifier .any
    (∀ m ∈ membersOf body, ¬ Speaks m.2) ∧ messagesOf body = "," ∧
      Json.parse? "\x7b\"a\":[null,null]\x7d" = some body ∧
      (rules.commit s).2.1.status.banner = some ⟨.danger, ","⟩ := by
  intro body s rules
  refine ⟨?_, by decide +kernel, by decide +kernel, by decide +kernel⟩
  intro m member
  obtain rfl := List.mem_singleton.mp member
  rintro ⟨item, null, text, -⟩
  simp at null
  exact text null

end NodeGroups.Page
