import Mathlib.Data.List.Basic
import NodeGroups.Proofs.Pattern.Row
import NodeGroups.Proofs.Search.Listing
import NodeGroups.Proofs.Text.CaseFold

set_option autoImplicit false

namespace NodeGroups.Search

open Text.CaseFold (fold)

/-- Two texts have the same length and differ in case at most. -/
def Alike (a b : List Char) : Prop := a.map fold = b.map fold

instance (a b : List Char) : Decidable (Alike a b) :=
  inferInstanceAs (Decidable (a.map fold = b.map fold))

/-- The run of a text at a position is what is wanted, in whatever case. -/
def OccursAt (wanted text : List Char) (i : Nat) : Prop :=
  Alike wanted ((text.drop i).take wanted.length)

instance (wanted text : List Char) (i : Nat) : Decidable (OccursAt wanted text i) :=
  inferInstanceAs (Decidable (Alike _ _))

/-- Some run of a text is what is wanted, in whatever case. -/
def Contains (wanted text : List Char) : Prop := ∃ i ≤ text.length, OccursAt wanted text i

instance (wanted text : List Char) : Decidable (Contains wanted text) :=
  inferInstanceAs (Decidable (∃ i ≤ text.length, OccursAt wanted text i))

/-- The positions of the occurrences met from a position on: the first of them, and then those met
from its end on. -/
inductive Met (wanted text : List Char) : Nat → List Nat → Prop
  | none {start : Nat} (absent : ∀ i, start ≤ i → ¬ OccursAt wanted text i) :
      Met wanted text start []
  | next {start i : Nat} {rest : List Nat} (ahead : start ≤ i) (occurs : OccursAt wanted text i)
      (first : ∀ j, start ≤ j → j < i → ¬ OccursAt wanted text j)
      (onward : Met wanted text (i + wanted.length) rest) : Met wanted text start (i :: rest)

/-- The highlights among fragments and where they stand, the first fragment standing at a given
position. -/
def highlights : Nat → List Fragment → List (Nat × String)
  | _, [] => []
  | position, .plain text :: rest => highlights (position + text.length) rest
  | position, .highlight text :: rest =>
    (position, text) :: highlights (position + text.length) rest

def textOf (fragments : List Fragment) : List Char := fragments.flatMap fun f => f.text.toList

/-- A run of a text and where it stands. -/
def runAt (wanted text : List Char) (i : Nat) : Nat × String :=
  (i, String.ofList ((text.drop i).take wanted.length))

/-- The fragments make up the label, and their highlights are the occurrences of the query that are
met from left to right; the empty query leaves the label whole. -/
structure Marks (query label : String) (fragments : List Fragment) : Prop where
  whole : textOf fragments = label.toList
  plain : query = "" → fragments = [.plain label]
  met : query ≠ "" → ∃ places, Met query.toList label.toList 0 places ∧
    highlights 0 fragments = places.map (runAt query.toList label.toList)

/-- A record that a literal query is to find. -/
def Wanted (query field : String) (r : Record) : Prop :=
  r.state = .enabled ∧ ∃ label ∈ r.field? field, Contains query.toList label.toList

instance (query field : String) (r : Record) : Decidable (Wanted query field r) :=
  inferInstanceAs (Decidable (_ ∧ ∃ label ∈ r.field? field, Contains query.toList label.toList))

theorem Alike.length_eq {a b : List Char} (alike : Alike a b) : a.length = b.length := by
  have lengths := congrArg List.length alike
  rwa [List.length_map, List.length_map] at lengths

theorem alike_cons (a b : Char) (as bs : List Char) :
    Alike (a :: as) (b :: bs) ↔ fold a = fold b ∧ Alike as bs := by
  rw [Alike, List.map_cons, List.map_cons, List.cons.injEq]
  rfl

/-- What occurs takes up as many characters as are wanted. -/
theorem OccursAt.take_length {wanted text : List Char} {i : Nat} (occurs : OccursAt wanted text i) :
    ((text.drop i).take wanted.length).length = wanted.length :=
  (Alike.length_eq occurs).symm

/-- What stands behind two runs of a text, the second written last character first. -/
theorem drop_behind {text lead plain cs : List Char} (whole : text = lead ++ plain.reverse ++ cs) :
    text.drop (lead.length + plain.length) = cs := by
  have place : lead.length + plain.length = (lead ++ plain.reverse).length := by
    rw [List.length_append, List.length_reverse]
  rw [whole, place, List.drop_left]

theorem occursAt_behind {text lead plain cs : List Char}
    (whole : text = lead ++ plain.reverse ++ cs) (wanted : List Char) :
    OccursAt wanted text (lead.length + plain.length) ↔ Alike wanted (cs.take wanted.length) := by
  rw [OccursAt, drop_behind whole]

/-- Nothing but the empty text occurs where a text has ended. -/
theorem not_occursAt_of_length_le {wanted text : List Char} {i : Nat} (solid : wanted ≠ [])
    (past : text.length ≤ i) : ¬ OccursAt wanted text i := by
  intro occurs
  have none := occurs.take_length
  rw [List.drop_eq_nil_of_le past, List.take_nil, List.length_nil] at none
  exact solid (List.length_eq_zero_iff.mp none.symm)

theorem contains_nil (wanted : List Char) : Contains wanted [] ↔ Alike wanted [] := by
  constructor
  · rintro ⟨i, -, occurs⟩
    rwa [OccursAt, List.drop_nil, List.take_nil] at occurs
  · intro alike
    refine ⟨0, Nat.le_refl 0, ?_⟩
    rwa [OccursAt, List.drop_nil, List.take_nil]

theorem contains_cons (wanted : List Char) (c : Char) (cs : List Char) :
    Contains wanted (c :: cs) ↔
      Alike wanted ((c :: cs).take wanted.length) ∨ Contains wanted cs := by
  constructor
  · rintro ⟨i, inside, occurs⟩
    cases i with
    | zero => exact .inl occurs
    | succ i => exact .inr ⟨i, Nat.le_of_succ_le_succ inside, occurs⟩
  · rintro (alike | ⟨i, inside, occurs⟩)
    · exact ⟨0, Nat.zero_le _, alike⟩
    · exact ⟨i + 1, Nat.succ_le_succ inside, occurs⟩

theorem contains_of_nil (text : List Char) : Contains [] text :=
  ⟨0, Nat.zero_le _, rfl⟩

theorem startsWithin_caseForms (wanted cs : List Char) :
    Pattern.startsWithin (Pattern.caseForms wanted) cs =
      decide (Alike wanted (cs.take wanted.length)) := by
  induction wanted generalizing cs with
  | nil => rfl
  | cons w wanted ih =>
    cases cs with
    | nil => rfl
    | cons c cs =>
      have same := Bool.eq_iff_iff.mpr ((Text.CaseFold.contains_closure_single w c).trans
        (decide_eq_true_iff (p := fold w = fold c)).symm)
      change ((Text.CaseFold.closure (.single w)).contains c &&
        Pattern.startsWithin (Pattern.caseForms wanted) cs) = _
      rw [same, ih, List.length_cons, List.take_succ_cons, ← Bool.decide_and]
      exact decide_eq_decide.mpr (alike_cons w c wanted _).symm

namespace Query

/-- A query finds at the front of a text just what is wanted. -/
def Seeks (q : Query) (wanted : List Char) : Prop :=
  ∀ before cs, q.lengthAt before cs =
    if Alike wanted (cs.take wanted.length) then some wanted.length else none

variable {q : Query} {wanted : List Char}

theorem Seeks.isSome_lengthAt (seeks : q.Seeks wanted) (before : Option Char) (cs : List Char) :
    (q.lengthAt before cs).isSome = true ↔ Alike wanted (cs.take wanted.length) := by
  rw [seeks]
  split <;> simp [*]

theorem Seeks.occurs_iff (seeks : q.Seeks wanted) (before : Option Char) (cs : List Char) :
    q.occurs before cs = true ↔ Contains wanted cs := by
  induction cs generalizing before with
  | nil => rw [occurs, seeks.isSome_lengthAt, List.take_nil, contains_nil]
  | cons c cs ih => rw [occurs, Bool.or_eq_true, seeks.isSome_lengthAt, ih, contains_cons]

theorem Seeks.lengthAt_eq_succ (seeks : q.Seeks wanted) {before : Option Char} {cs : List Char}
    {n : Nat} (found : q.lengthAt before cs = some (n + 1)) :
    Alike wanted (cs.take wanted.length) ∧ wanted.length = n + 1 := by
  rw [seeks] at found
  split at found
  · rename_i alike
    exact ⟨alike, Option.some.inj found⟩
  · cases found

/-- Where nothing of any length is found, what is wanted does not occur. -/
theorem Seeks.not_alike (seeks : q.Seeks wanted) (solid : wanted ≠ []) {before : Option Char}
    {cs : List Char} (missed : ∀ n, q.lengthAt before cs ≠ some (n + 1)) :
    ¬ Alike wanted (cs.take wanted.length) := by
  intro alike
  obtain ⟨n, length⟩ := Nat.exists_eq_succ_of_ne_zero (mt List.length_eq_zero_iff.mp solid)
  apply missed n
  rw [seeks, if_pos alike, length]

theorem textOf_plainBefore (plain : List Char) : textOf (plainBefore plain) = plain.reverse := by
  cases plain with
  | nil => rfl
  | cons c plain =>
    simp only [plainBefore, List.isEmpty_cons, Bool.false_eq_true, if_false, textOf,
      List.flatMap_cons, List.flatMap_nil, List.append_nil, Fragment.text, String.toList_ofList]

theorem textOf_append (front back : List Fragment) :
    textOf (front ++ back) = textOf front ++ textOf back := List.flatMap_append

theorem textOf_highlight (found : List Char) (rest : List Fragment) :
    textOf (.highlight (String.ofList found) :: rest) = found ++ textOf rest := by
  rw [textOf, List.flatMap_cons, Fragment.text, String.toList_ofList, textOf]

/-- The fragments make up what was passed since the last highlight and what remains. -/
theorem textOf_fragments (q : Query) (before : Option Char) (plain cs : List Char) :
    textOf (q.fragments before plain cs) = plain.reverse ++ cs := by
  fun_induction Query.fragments q before plain cs with
  | case1 before plain => rw [textOf_plainBefore, List.append_nil]
  | case2 before plain c cs n found run ih =>
    rw [textOf_append, textOf_plainBefore, textOf_highlight, ih, List.reverse_nil,
      List.nil_append, List.cons_append, List.take_append_drop]
  | case3 before plain c cs missed ih =>
    rw [ih, List.reverse_cons, List.append_assoc, List.singleton_append]

theorem highlights_plainBefore (plain : List Char) (position : Nat) (rest : List Fragment) :
    highlights position (plainBefore plain ++ rest) =
      highlights (position + plain.length) rest := by
  cases plain with
  | nil => rfl
  | cons c plain =>
    simp only [plainBefore, List.isEmpty_cons, Bool.false_eq_true, if_false, List.cons_append,
      List.nil_append, highlights, String.length_ofList, List.length_reverse]

/-- The highlights among the fragments of what remains of a text are the occurrences met from where
the plain characters before it start, as none starts among these. -/
theorem Seeks.fragments_spec (seeks : q.Seeks wanted) (solid : wanted ≠ []) (text : List Char)
    (before : Option Char) (plain cs lead : List Char)
    (whole : text = lead ++ plain.reverse ++ cs)
    (clear : ∀ i, lead.length ≤ i → i < lead.length + plain.length → ¬ OccursAt wanted text i) :
    ∃ places, Met wanted text lead.length places ∧
      highlights lead.length (q.fragments before plain cs) = places.map (runAt wanted text) := by
  -- The induction is on the scan, whose calls drop a whole occurrence at a time.
  fun_induction Query.fragments q before plain cs generalizing lead with
  | case1 before plain =>
    refine ⟨[], ?_, ?_⟩
    · refine .none fun i ahead => ?_
      by_cases among : i < lead.length + plain.length
      · exact clear i ahead among
      · apply not_occursAt_of_length_le solid
        rw [whole, List.append_nil, List.length_append, List.length_reverse]
        omega
    · have none := highlights_plainBefore plain lead.length []
      rwa [List.append_nil] at none
  | case2 before plain c cs n found run ih =>
    obtain ⟨alike, length⟩ := seeks.lengthAt_eq_succ found
    have taken : (c :: cs).take wanted.length = run := by
      rw [length]
      rfl
    have size : run.length = wanted.length := by
      rw [← taken]
      exact alike.length_eq.symm
    have split : run ++ cs.drop n = c :: cs := by
      rw [List.cons_append, List.take_append_drop]
    have passed : text = (lead ++ plain.reverse ++ run) ++ [].reverse ++ cs.drop n := by
      rw [List.reverse_nil, List.append_nil, List.append_assoc _ run, split, whole]
    have end_eq : (lead ++ plain.reverse ++ run).length =
        lead.length + plain.length + wanted.length := by
      rw [List.length_append, List.length_append, List.length_reverse, size]
    obtain ⟨places, met, marks⟩ := ih _ passed fun i ahead behind => by
      rw [List.length_nil] at behind
      omega
    rw [end_eq] at met marks
    have run_eq : runAt wanted text (lead.length + plain.length) =
        (lead.length + plain.length, String.ofList run) := by
      rw [runAt, drop_behind whole, taken]
    refine ⟨(lead.length + plain.length) :: places, ?_, ?_⟩
    · exact .next (Nat.le_add_right _ _) ((occursAt_behind whole wanted).mpr alike) clear met
    · rw [highlights_plainBefore, highlights, String.length_ofList, size, marks, List.map_cons,
        run_eq]
  | case3 before plain c cs missed ih =>
    have longer : text = lead ++ (c :: plain).reverse ++ cs := by
      rw [whole, List.reverse_cons, List.append_assoc, List.append_assoc, List.append_assoc,
        List.singleton_append]
    have absent : ¬ OccursAt wanted text (lead.length + plain.length) :=
      mt (occursAt_behind whole wanted).mp (seeks.not_alike solid missed)
    refine ih lead longer fun i ahead behind => ?_
    rw [List.length_cons] at behind
    by_cases last : i = lead.length + plain.length
    · rwa [last]
    · exact clear i ahead (by omega)

/-- A query marks the labels in which a text occurs, and passes over the others. -/
def Tells (q : Query) (query : String) : Prop :=
  ∀ label,
    (Contains query.toList label.toList →
      ∃ fragments, q.fragmentsOf? label = some fragments ∧ Marks query label fragments) ∧
    (¬ Contains query.toList label.toList → q.fragmentsOf? label = none)

theorem everything_tells : everything.Tells "" := by
  refine fun label => ⟨fun _ => ?_, fun absent => absurd (contains_of_nil _) absent⟩
  have whole : textOf [.plain label] = label.toList := List.append_nil _
  exact ⟨_, rfl, whole, fun _ => rfl, fun solid => absurd rfl solid⟩

theorem pattern_tells {program : Pattern.Program} {query : String}
    (seeks : (pattern program).Seeks query.toList) (solid : query ≠ "") :
    (pattern program).Tells query := by
  refine fun label => ⟨fun occurs => ?_, fun absent => ?_⟩
  · have found := (seeks.occurs_iff none label.toList).mpr occurs
    have nothing : ∀ i, ([] : List Char).length ≤ i →
        i < ([] : List Char).length + ([] : List Char).length →
        ¬ OccursAt query.toList label.toList i := by
      intro i _ below
      exact absurd below (Nat.not_lt_zero i)
    have met := seeks.fragments_spec (mt String.toList_eq_nil_iff.mp solid)
      label.toList none [] label.toList [] rfl nothing
    exact ⟨_, if_pos found, textOf_fragments _ none [] label.toList,
      fun empty => absurd empty solid, fun _ => met⟩
  · exact if_neg (mt (seeks.occurs_iff none label.toList).mp absent)

/-- A literal query is read without fail, and as one that tells where its text occurs. -/
theorem ofText_literal (query : String)
    (fits : Pattern.compile (patternText .literal query) ≠ .error .tooLarge) :
    ∃ q, ofText .literal query = .ok q ∧ q.Tells query := by
  by_cases empty : query = ""
  · subst empty
    exact ⟨.everything, rfl, everything_tells⟩
  · have compiled := Pattern.compile_escape query
    split at compiled
    · have seeks : (pattern (Pattern.Regex.row (Pattern.caseForms query.toList)).program).Seeks
          query.toList := by
        intro before cs
        rw [lengthAt, Pattern.Program.lengthAt_row, startsWithin_caseForms,
          Pattern.caseForms, List.length_map]
        simp only [decide_eq_true_eq]
      refine ⟨_, ?_, pattern_tells seeks empty⟩
      rw [ofText, if_neg empty, patternText, compiled]
    · exact absurd compiled fits

theorem Tells.sorts {query : String} (tells : q.Tells query) :
    q.Sorts (fun label => Contains query.toList label.toList) (Marks query) := tells

/-- A literal query finds the wanted records, in their order, and marks its text in their labels. -/
theorem Tells.filter_spec {query : String} (tells : q.Tells query) (field : String)
    (records : List Record) :
    (q.filter field records).map (fun s => (s.recordId, s.title, some s.label)) =
        (records.filter fun r => Wanted query field r).map
          (fun r => (r.id, r.name, r.field? field)) ∧
      ∀ s ∈ q.filter field records, Marks query s.label s.fragments :=
  tells.sorts.filter_eq field (fun _ => decide_eq_true_iff) records

end Query

/-- A literal query never fails. It finds the enabled records in whose field its text occurs, in
their order, and marks the occurrences it meets from left to right. -/
theorem find_literal (query field : String) (records : List Record)
    (fits : Pattern.compile (Query.patternText .literal query) ≠ .error .tooLarge) :
    ∃ found, find .literal query field records = .ok found ∧
      found.map (fun s => (s.recordId, s.title, some s.label)) =
        (records.filter fun r => Wanted query field r).map
          (fun r => (r.id, r.name, r.field? field)) ∧
      ∀ s ∈ found, Marks query s.label s.fragments := by
  obtain ⟨q, read, tells⟩ := Query.ofText_literal query fits
  refine ⟨q.filter field records, ?_, tells.filter_spec field records⟩
  rw [find, read]
  rfl

/-- A query that overlaps itself and would match more if it were a pattern, for records one of which
has no such field and one of which is disabled. -/
theorem find_literal_overlapping :
    let records : List Record := [(Record.named "1" "web").setField "owner" "a.a.a",
      (Record.named "2" "db").setField "owner" "aXa", .named "3" "A.A",
      { (Record.named "4" "mail").setField "owner" "A.A" with state := .disabled }]
    Pattern.compile (Query.patternText .literal "A.A") ≠ .error .tooLarge ∧
      ∃ found, find .literal "A.A" "owner" records = .ok found ∧
        found.map (fun s => (s.recordId, s.title, some s.label)) =
          [("1", "web", some "a.a.a")] ∧
        ∀ s ∈ found, Marks "A.A" s.label s.fragments := by
  intro records
  have letter : Text.CaseFold.closure (.single 'A') = ⟨#[(65, 65), (97, 97)]⟩ := by
    have targets : Text.CaseFold.targets (.single 'A') = [(97, 97)] := by decide +kernel
    have hits : Text.CaseFold.hits (.single 'A') = ⟨#[(97, 97)]⟩ := by
      rw [Text.CaseFold.hits_eq, targets]
      simp [Text.CharSet.ofRanges, Text.CharSet.addRange]
    have forms : Text.CaseFold.forms ⟨#[(97, 97)]⟩ = [(97, 97), (65, 65)] := by decide +kernel
    rw [Text.CaseFold.closure, hits, forms]
    simp [Text.CharSet.union, Text.CharSet.single, Text.CharSet.ofRanges, Text.CharSet.addRange,
      List.mergeSort]
  have dot : Text.CaseFold.closure (.single '.') = .single '.' :=
    Text.CaseFold.closure_single_of_targets (by decide +kernel)
  have forms : Pattern.caseForms ("A.A" : String).toList =
      [⟨#[(65, 65), (97, 97)]⟩, .single '.', ⟨#[(65, 65), (97, 97)]⟩] := by
    have chars : ("A.A" : String).toList = ['A', '.', 'A'] := by decide
    rw [chars, Pattern.caseForms, List.map_cons, List.map_cons, List.map_cons, letter, dot]
    rfl
  have small : (Pattern.Regex.row (Pattern.caseForms ("A.A" : String).toList)).footprint ≤
      Pattern.maxFootprint := by
    rw [forms]
    decide +kernel
  have fits : Pattern.compile (Query.patternText .literal "A.A") ≠ .error .tooLarge := by
    rw [Query.patternText, Pattern.compile_escape, if_pos small]
    intro refused
    cases refused
  have chosen : (records.filter fun r => Wanted "A.A" "owner" r).map
      (fun r => (r.id, r.name, r.field? "owner")) = [("1", "web", some "a.a.a")] := by
    decide +kernel
  have spec := find_literal "A.A" "owner" records fits
  rw [chosen] at spec
  exact ⟨fits, spec⟩

end NodeGroups.Search
