import Mathlib.Data.List.Nodup
import NodeGroups.Page.Group
import NodeGroups.Proofs.Backend.Exchange
import NodeGroups.Proofs.Past

set_option autoImplicit false

namespace NodeGroups.Page.GroupDraft

open Backend (Response Session documentIn?)
open Document (Environment)

/-- What can be done to a draft. A choice calls the backend in a session of its own, so that any
answer may come. -/
inductive Action
  | chooseZone (masterZone : String) (s : Session)
  | attach (raw : String)
  | detach (tag : String)

def act (d : GroupDraft) : Action → GroupDraft
  | .chooseZone masterZone s => (d.chooseZone masterZone s).1
  | .attach raw => (d.attach raw).2
  | .detach tag => (d.detach tag).2

def after (d : GroupDraft) (actions : List Action) : GroupDraft := actions.foldl act d

/-- How the backend answers the request for the environments in a session. -/
def answerIn (s : Session) : Except Failure Response :=
  s.answering s.sent (s.request .get s.settings.paths.environments [] none)

/-- What was done to a draft. -/
inductive Deed
  /-- A zone was chosen, or none by the empty text, and the backend would answer so. -/
  | chosen (masterZone : String) (answer : Except Failure Response)
  | accepted (tag : String)
  | removed (tag : String)

namespace Deed

def acceptance? : Deed → Option String
  | .accepted tag => some tag
  | .chosen _ _ | .removed _ => none

def removal? : Deed → Option String
  | .removed tag => some tag
  | .chosen _ _ | .accepted _ => none

def choice? : Deed → Option (String × Except Failure Response)
  | .chosen masterZone answer => some (masterZone, answer)
  | .accepted _ | .removed _ => none

end Deed

/-- What an action does to a draft: nothing if a tag is refused, or removed that is not there. -/
def deed? (d : GroupDraft) : Action → Option Deed
  | .chooseZone masterZone s => some (.chosen masterZone (answerIn s))
  | .attach raw => (d.attach raw).1.map .accepted
  | .detach tag => if (d.detach tag).1 then some (.removed tag) else none

/-- The tags that were accepted and not removed since, in the order in which they were accepted. -/
def kept : List Deed → List String :=
  lasting (fun deed => deed.acceptance?.toList) fun deed tag => deed.removal? = some tag

def lastChoice? (past : List Deed) : Option (String × Except Failure Response) :=
  past.reverse.findSome? Deed.choice?

section Concat

variable (past : List Deed) (deed : Deed)

/-- A removal takes its tag out, and an acceptance puts its tag behind the others. -/
theorem kept_concat : kept (past ++ [deed]) =
    (kept past).filter (fun tag => deed.removal? ≠ some tag) ++ deed.acceptance?.toList := by
  rw [kept, lasting_concat]
  simp only [decide_not]

theorem lastChoice?_concat :
    lastChoice? (past ++ [deed]) = deed.choice?.or (lastChoice? past) := by
  rw [lastChoice?, List.reverse_append, List.reverse_singleton, List.singleton_append,
    List.findSome?_cons]
  cases deed.choice? <;> rfl

end Concat

section Actions

variable {d next : GroupDraft} {raw tag : String}

/-- A tag is accepted if it is not blank and not there yet, and then stands behind the others. -/
theorem attach_eq_some : d.attach raw = (some tag, next) ↔
    tag = tagOfText raw ∧ Text.isBlankText tag = false ∧ tag ∉ d.tags ∧
      next = { d with tags := d.tags ++ [tag] } := by
  unfold attach
  dsimp only
  split
  · rename_i refused
    rw [Bool.or_eq_true, List.contains_iff_mem] at refused
    refine iff_of_false nofun ?_
    rintro ⟨rfl, solid, new, -⟩
    rcases refused with blank | old
    · rw [solid] at blank
      cases blank
    · exact new old
  · rename_i accepted
    rw [Bool.or_eq_true, List.contains_iff_mem, not_or, Bool.not_eq_true] at accepted
    constructor
    · rintro ⟨⟩
      exact ⟨rfl, accepted.1, accepted.2, rfl⟩
    · rintro ⟨rfl, -, -, rfl⟩
      rfl

theorem attach_eq_none (refused : (d.attach raw).1 = none) : (d.attach raw).2 = d := by
  unfold attach at refused ⊢
  dsimp only at refused ⊢
  split at refused
  · rename_i condition
    rw [if_pos condition]
  · cases refused

/-- The environments that a zone has by an answer, if that lists any. -/
def environmentsIn? (masterZone : String) (answer : Except Failure Response) :
    Option (List Environment) :=
  (documentIn? (.list Environment.decoder) answer).map
    fun all => all.filter fun e => e.masterZone = masterZone

theorem environmentsOf_toOption (masterZone : String) (s : Session) :
    ((Backend.environmentsOf masterZone).run.run s).1.toOption =
      environmentsIn? masterZone (answerIn s) := by
  obtain ⟨outcome, log, ran, decoded⟩ := Backend.run_fetch (fun p => p.environments)
    "environments.list" [] (.list Environment.decoder) s
  unfold Backend.environmentsOf
  rw [← bind_assoc, environmentsIn?, answerIn, ← decoded]
  cases outcome with
  | error failure =>
    rw [Backend.run_bind_of_error ran]
    rfl
  | ok all =>
    rw [Backend.run_bind_of_ok ran]
    simp only [beq_eq_decide]
    rfl

/-- A zone is chosen with its environments, and the empty text chooses none. -/
theorem chooseZone_eq (d : GroupDraft) (masterZone : String) (s : Session) :
    (d.chooseZone masterZone s).1 =
      if masterZone = "" then { d with masterZone := none, environments := none }
      else { d with
        masterZone := some masterZone
        environments := environmentsIn? masterZone (answerIn s) } := by
  rw [chooseZone]
  split
  · rfl
  · rw [← environmentsOf_toOption]
    rfl

end Actions

/-- A draft is what its past tells. -/
structure Recalls (d : GroupDraft) (past : List Deed) : Prop where
  tags : d.tags = kept past
  distinct : d.tags.Nodup
  clean : ∀ tag ∈ d.tags, '"' ∉ tag.toList ∧ Text.isBlankText tag = false
  masterZone : ∀ masterZone, d.masterZone = some masterZone ↔
    masterZone ≠ "" ∧ ∃ answer, lastChoice? past = some (masterZone, answer)
  environments : ∀ environments, d.environments = some environments ↔
    ∃ masterZone answer, lastChoice? past = some (masterZone, answer) ∧ masterZone ≠ "" ∧
      environmentsIn? masterZone answer = some environments

section Recalls

variable {d : GroupDraft} {past : List Deed}

theorem recalls_new : new.Recalls [] where
  tags := rfl
  distinct := List.nodup_nil
  clean := fun _ member => absurd member List.not_mem_nil
  masterZone := fun _ => iff_of_false nofun nofun
  environments := fun _ => iff_of_false nofun nofun

theorem quote_notMem_tagOfText (raw : String) : '"' ∉ (tagOfText raw).toList := by
  rw [tagOfText, String.toList_ofList]
  intro member
  exact absurd (List.mem_filter.mp member).2 (by decide)

theorem Recalls.chooseZone (recalls : d.Recalls past) (masterZone : String) (s : Session) :
    (d.chooseZone masterZone s).1.Recalls (past ++ [.chosen masterZone (answerIn s)]) := by
  have last : lastChoice? (past ++ [.chosen masterZone (answerIn s)]) =
      some (masterZone, answerIn s) := lastChoice?_concat past _
  have tags : kept (past ++ [.chosen masterZone (answerIn s)]) = kept past := by
    rw [kept_concat]
    simp [Deed.removal?, Deed.acceptance?]
  rw [chooseZone_eq]
  by_cases empty : masterZone = ""
  · rw [if_pos empty]
    refine ⟨recalls.tags.trans tags.symm, recalls.distinct, recalls.clean, fun other => ?_,
      fun environments => ?_⟩
    · refine iff_of_false nofun ?_
      rintro ⟨some, answer, same⟩
      rw [last, Option.some_inj, Prod.mk.injEq] at same
      exact some (same.1.symm.trans empty)
    · refine iff_of_false nofun ?_
      rintro ⟨other, answer, same, some, -⟩
      rw [last, Option.some_inj, Prod.mk.injEq] at same
      exact some (same.1.symm.trans empty)
  · rw [if_neg empty]
    refine ⟨recalls.tags.trans tags.symm, recalls.distinct, recalls.clean, fun other => ?_,
      fun environments => ?_⟩
    · rw [last]
      constructor
      · rintro ⟨⟩
        exact ⟨empty, _, rfl⟩
      · rintro ⟨-, _, ⟨⟩⟩
        rfl
    · rw [last]
      constructor
      · intro loaded
        exact ⟨_, _, rfl, empty, loaded⟩
      · rintro ⟨_, _, ⟨⟩, -, loaded⟩
        exact loaded

/-- What is no choice leaves the zone and its environments. -/
theorem Recalls.concat (recalls : d.Recalls past) {tags : List String} {deed : Deed}
    (idle : deed.choice? = none) (same : tags = kept (past ++ [deed])) (distinct : tags.Nodup)
    (clean : ∀ tag ∈ tags, '"' ∉ tag.toList ∧ Text.isBlankText tag = false) :
    { d with tags }.Recalls (past ++ [deed]) := by
  have last : lastChoice? (past ++ [deed]) = lastChoice? past := by
    rw [lastChoice?_concat, idle, Option.none_or]
  refine ⟨same, distinct, clean, ?_, ?_⟩
  · rw [last]
    exact recalls.masterZone
  · rw [last]
    exact recalls.environments

theorem Recalls.attach (recalls : d.Recalls past) (raw : String) :
    (d.attach raw).2.Recalls (past ++ (d.deed? (.attach raw)).toList) := by
  rw [deed?]
  rcases done : d.attach raw with ⟨answer, next⟩
  cases answer with
  | none =>
    have kept := attach_eq_none (congrArg Prod.fst done)
    rw [done] at kept
    rw [Option.map_none, Option.toList_none, List.append_nil]
    exact kept ▸ recalls
  | some tag =>
    obtain ⟨rfl, solid, new, rfl⟩ := attach_eq_some.mp done
    refine recalls.concat rfl ?_
      (List.nodup_append.mpr ⟨recalls.distinct, List.nodup_singleton _, ?_⟩) fun tag member => ?_
    · rw [kept_concat, recalls.tags]
      simp [Deed.removal?, Deed.acceptance?]
    · rintro old there _ last rfl
      exact new (List.mem_singleton.mp last ▸ there)
    · rcases List.mem_append.mp member with old | last
      · exact recalls.clean tag old
      · rw [List.mem_singleton.mp last]
        exact ⟨quote_notMem_tagOfText raw, solid⟩

theorem Recalls.detach (recalls : d.Recalls past) (tag : String) :
    (d.detach tag).2.Recalls (past ++ (d.deed? (.detach tag)).toList) := by
  have fewer : (d.tags.filter fun t => t != tag).Sublist d.tags := List.filter_sublist
  by_cases there : tag ∈ d.tags
  · have deed : d.deed? (.detach tag) = some (.removed tag) :=
      if_pos (List.contains_iff_mem.mpr there)
    rw [deed]
    refine recalls.concat rfl ?_ (recalls.distinct.sublist fewer)
      fun other member => recalls.clean other (fewer.mem member)
    rw [kept_concat, ← recalls.tags]
    simp [Deed.removal?, Deed.acceptance?, bne, beq_eq_decide, eq_comm]
  · have none : d.deed? (.detach tag) = none :=
      if_neg (mt List.contains_iff_mem.mp there)
    have whole : d.tags.filter (fun t => t != tag) = d.tags :=
      List.filter_eq_self.mpr fun other member => bne_iff_ne.mpr fun same => there (same ▸ member)
    rw [none, Option.toList_none, List.append_nil, GroupDraft.detach, whole]
    exact recalls

theorem Recalls.act (recalls : d.Recalls past) (a : Action) :
    (d.act a).Recalls (past ++ (d.deed? a).toList) := by
  cases a with
  | chooseZone masterZone s => exact recalls.chooseZone masterZone s
  | attach raw => exact recalls.attach raw
  | detach tag => exact recalls.detach tag

end Recalls

/-- Whatever is done to a new draft, its tags are those that were accepted and not removed since, in
this order; they differ from each other, none is blank and none has a double quote. A text is
accepted as what it is without its double quotes, just if that is not blank and not there yet. A
removal finds a tag just if it is there, and takes out that tag alone. The zone is the one chosen
last, unless that was the empty text; without a zone there are no environments; and there are
environments just if the answer to the last choice lists some, those of the zone, in order. -/
theorem draft_follows (actions : List Action) :
    let d := new.after actions
    let past := chronicle act deed? new actions
    d.tags = kept past ∧ d.tags.Nodup ∧
    (∀ tag ∈ d.tags, '"' ∉ tag.toList ∧ Text.isBlankText tag = false) ∧
    (∀ raw tag, (d.attach raw).1 = some tag ↔
      tag = tagOfText raw ∧ Text.isBlankText tag = false ∧ tag ∉ d.tags) ∧
    (∀ tag, ((d.detach tag).1 = true ↔ tag ∈ d.tags) ∧
      (d.detach tag).2 = { d with tags := d.tags.erase tag }) ∧
    (∀ masterZone, d.masterZone = some masterZone ↔
      masterZone ≠ "" ∧ ∃ answer, lastChoice? past = some (masterZone, answer)) ∧
    (d.masterZone = none → d.environments = none) ∧
    ∀ environments, d.environments = some environments ↔ ∃ masterZone answer all,
      masterZone ≠ "" ∧ lastChoice? past = some (masterZone, answer) ∧
        documentIn? (.list Environment.decoder) answer = some all ∧
          environments = all.filter fun e => e.masterZone = masterZone := by
  intro d past
  have recalls : d.Recalls past :=
    recalls_chronicle act deed? Recalls (fun _ _ a recalls => recalls.act a) recalls_new actions
  refine ⟨recalls.tags, recalls.distinct, recalls.clean, fun raw tag => ?_, fun tag => ⟨?_, ?_⟩,
    recalls.masterZone, fun unzoned => ?_, fun environments => ?_⟩
  · constructor
    · intro accepted
      have done : d.attach raw = (some tag, (d.attach raw).2) := Prod.ext accepted rfl
      obtain ⟨without, solid, new, -⟩ := attach_eq_some.mp done
      exact ⟨without, solid, new⟩
    · rintro ⟨without, solid, new⟩
      exact congrArg Prod.fst (attach_eq_some.mpr ⟨without, solid, new, rfl⟩)
  · exact List.contains_iff_mem
  · rw [recalls.distinct.erase_eq_filter]
    rfl
  · by_contra loaded
    obtain ⟨environments, loaded⟩ := Option.ne_none_iff_exists'.mp loaded
    obtain ⟨masterZone, answer, last, some, -⟩ := (recalls.environments environments).mp loaded
    rw [(recalls.masterZone masterZone).mpr ⟨some, answer, last⟩] at unzoned
    cases unzoned
  · rw [recalls.environments]
    simp only [environmentsIn?, Option.map_eq_some_iff]
    constructor
    · rintro ⟨masterZone, answer, last, some, all, listed, rfl⟩
      exact ⟨masterZone, answer, all, some, last, listed, rfl⟩
    · rintro ⟨masterZone, answer, all, some, last, listed, rfl⟩
      exact ⟨masterZone, answer, last, some, all, listed, rfl⟩

/-- A tag that is refused once its double quotes are gone, one that is removed and accepted again,
and a zone that is chosen after a choice without an answer. -/
theorem draft_follows_rechosen :
    let silent := Session.start {} fun _ _ => .error .http
    let s := Session.start {} (Backend.inTurn
      ["[\x7b\"id\":\"1\",\"name\":\"test\",\"master_zone\":\"a\"\x7d," ++
        "\x7b\"id\":\"2\",\"name\":\"live\",\"master_zone\":\"b\"\x7d]"])
    let actions : List Action := [.attach "\"web\"", .attach "w\"eb", .attach "\" \"",
      .attach "db", .detach "web", .detach "we", .attach "web", .chooseZone "b" s]
    let d := new.after actions
    d.tags = ["db", "web"] ∧ d.tags.Nodup ∧ '"' ∉ "web".toList ∧
      d.environments = some [⟨"2", "live", "b"⟩] ∧
      (∀ tag, (d.detach tag).2 = { d with tags := d.tags.erase tag }) ∧
      (new.after (actions ++ [.chooseZone "a" silent])).environments = none ∧
      (new.after (actions ++ [.chooseZone "" s])).environments = none := by
  intro silent s actions d
  have tags : kept (chronicle act deed? new actions) = ["db", "web"] := by decide +kernel
  obtain ⟨follows, distinct, clean, -, removes, -⟩ := draft_follows actions
  obtain ⟨-, -, -, -, -, -, unzoned, -⟩ := draft_follows (actions ++ [.chooseZone "" s])
  have there : d.tags = ["db", "web"] := follows.trans tags
  have member : "web" ∈ d.tags := by
    rw [there]
    decide
  exact ⟨there, distinct, (clean "web" member).1, by decide +kernel, fun tag => (removes tag).2,
    by decide +kernel, unzoned (by decide +kernel)⟩

end NodeGroups.Page.GroupDraft
