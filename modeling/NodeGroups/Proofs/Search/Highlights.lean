import Mathlib.Data.List.Chain
import NodeGroups.Proofs.Search.Substring

set_option autoImplicit false

namespace NodeGroups

/-- No thread accepts later than at the end of the text. -/
theorem Pattern.Program.run_le (p : Program) (addresses : List Nat) (before : Option Char)
    (length : Nat) (best : Option Nat) (cs : List Char)
    (earlier : ∀ n, best = some n → n ≤ length) {n : Nat}
    (accepted : p.run before addresses length best cs = some n) : n ≤ length + cs.length := by
  induction cs generalizing addresses before length best with
  | nil =>
    rw [run] at accepted
    split at accepted
    · exact (Option.some.inj accepted).symm.le
    · exact earlier n accepted
  | cons c cs ih =>
    rw [run] at accepted
    dsimp only at accepted
    have now : ∀ n, (if (p.waiting before (some c) addresses).accepted then some length
        else best) = some n → n ≤ length := by
      intro n found
      split at found
      · exact (Option.some.inj found).symm.le
      · exact earlier n found
    split at accepted
    · exact Nat.le_add_right_of_le (now n accepted)
    · have bound := ih _ _ (length + 1) _ (fun n found => Nat.le_succ_of_le (now n found)) accepted
      rw [List.length_cons]
      omega

namespace Search

/-- A match in a text: where it starts, and how many characters it takes. -/
structure Match where
  start : Nat
  length : Nat

/-- Where a match stands, and its characters. -/
def Match.run (m : Match) (text : List Char) : Nat × String :=
  (m.start, String.ofList ((text.drop m.start).take m.length))

namespace Query

/-- How many characters a query finds at a position of a text. -/
def lengthIn (q : Query) (text : List Char) (i : Nat) : Option Nat :=
  q.lengthAt (text.take i).getLast? (text.drop i)

/-- A query finds something in a text, be it of no length. -/
def Occurs (q : Query) (text : List Char) : Prop := ∃ i ≤ text.length, (q.lengthIn text i).isSome

instance (q : Query) (text : List Char) : Decidable (q.Occurs text) :=
  inferInstanceAs (Decidable (∃ i ≤ text.length, (q.lengthIn text i).isSome))

/-- What may be met after a match that ended at `last`, or from the start: a match that does not
start before that end, and is not the empty one there. -/
structure Ahead (q : Query) (text : List Char) (last : Option Nat) (m : Match) : Prop where
  inside : m.start ≤ text.length
  found : q.lengthIn text m.start = some m.length
  behind : last.getD 0 ≤ m.start
  fresh : ¬ (m.length = 0 ∧ last = some m.start)

/-- The matches met from left to right, each from the end of the one before. -/
inductive Meets (q : Query) (text : List Char) : (last : Option Nat) → List Match → Prop
  | done {last : Option Nat} (nothing : ∀ m, ¬ q.Ahead text last m) : Meets q text last []
  | next {last : Option Nat} {m : Match} {rest : List Match} (ahead : q.Ahead text last m)
      (first : ∀ other, q.Ahead text last other → m.start ≤ other.start)
      (onward : Meets q text (some (m.start + m.length)) rest) : Meets q text last (m :: rest)

variable {q : Query} {text : List Char} {last : Option Nat}

theorem Ahead.unique {m other : Match} (ahead : q.Ahead text last m)
    (also : q.Ahead text last other) (same : m.start = other.start) : m = other := by
  have length := ahead.found
  rw [same, also.found] at length
  obtain ⟨start, n⟩ := m
  obtain ⟨start', n'⟩ := other
  cases same
  cases length
  rfl

theorem Meets.unique {found others : List Match} (meets : q.Meets text last found)
    (also : q.Meets text last others) : found = others := by
  induction meets generalizing others with
  | done nothing =>
    cases also with
    | done => rfl
    | next ahead => exact absurd ahead (nothing _)
  | next ahead first onward ih =>
    cases also with
    | done nothing => exact absurd ahead (nothing _)
    | next ahead' first' onward' =>
      obtain rfl := ahead.unique ahead' (Nat.le_antisymm (first _ ahead') (first' _ ahead))
      rw [ih onward']

/-- What a query finds at a place of a text, told by what stands before and behind it. -/
theorem lengthIn_behind (q : Query) (lead cs : List Char) :
    q.lengthIn (lead ++ cs) lead.length = q.lengthAt lead.getLast? cs := by
  rw [lengthIn, List.take_left, List.drop_left]

theorem lengthAt_le {before : Option Char} {cs : List Char} {n : Nat}
    (found : q.lengthAt before cs = some n) : n ≤ cs.length := by
  cases q with
  | everything =>
    obtain rfl := Option.some.inj found
    exact Nat.zero_le _
  | pattern program =>
    have bound := program.run_le [program.start] before 0 none cs nofun found
    rwa [Nat.zero_add] at bound

theorem occurs_iff_from (q : Query) (lead cs : List Char) : q.occurs lead.getLast? cs = true ↔
    ∃ i ≤ (lead ++ cs).length, lead.length ≤ i ∧ (q.lengthIn (lead ++ cs) i).isSome := by
  induction cs generalizing lead with
  | nil =>
    rw [occurs, ← lengthIn_behind, List.append_nil]
    constructor
    · exact fun found => ⟨lead.length, Nat.le_refl _, Nat.le_refl _, found⟩
    · rintro ⟨i, inside, ahead, found⟩
      rwa [Nat.le_antisymm inside ahead] at found
  | cons c cs ih =>
    have onward := ih (lead ++ [c])
    have longer : (lead ++ [c]).length = lead.length + 1 := List.length_append
    rw [List.getLast?_concat, longer, List.append_assoc, List.singleton_append] at onward
    rw [occurs, Bool.or_eq_true, onward, ← lengthIn_behind]
    constructor
    · rintro (found | ⟨i, inside, ahead, found⟩)
      · exact ⟨lead.length, by rw [List.length_append]; omega, Nat.le_refl _, found⟩
      · exact ⟨i, inside, by omega, found⟩
    · rintro ⟨i, inside, ahead, found⟩
      by_cases here : i = lead.length
      · exact .inl (here ▸ found)
      · exact .inr ⟨i, inside, by omega, found⟩

theorem occurs_iff (q : Query) (text : List Char) :
    q.occurs none text = true ↔ q.Occurs text := by
  have all := q.occurs_iff_from [] text
  simp only [List.nil_append, List.length_nil, Nat.zero_le, true_and] at all
  exact all

end Query

/-- Of two fragments one at least was found. -/
def Fragment.Parted (f g : Fragment) : Prop := ∃ text, f = .highlight text ∨ g = .highlight text

namespace Query

variable {q : Query}

theorem ofList_cons_ne_empty (c : Char) (cs : List Char) : String.ofList (c :: cs) ≠ "" := by
  intro empty
  have chars := congrArg String.toList empty
  rw [String.toList_ofList] at chars
  cases chars

/-- What was passed is one fragment or none. -/
theorem plainBefore_cases (plain : List Char) :
    plainBefore plain = [] ∨ ∃ text, text ≠ "" ∧ plainBefore plain = [.plain text] := by
  cases plain with
  | nil => exact .inl rfl
  | cons c plain =>
    refine .inr ⟨String.ofList (c :: plain).reverse, ?_, rfl⟩
    intro empty
    have chars := congrArg (fun text => text.toList.reverse) empty
    simp at chars

theorem isChain_highlight {rest : List Fragment} (chain : rest.IsChain Fragment.Parted)
    (text : String) : (Fragment.highlight text :: rest).IsChain Fragment.Parted :=
  List.isChain_cons.mpr ⟨fun _ _ => ⟨text, .inl rfl⟩, chain⟩

/-- No fragment is empty, and of two that stand side by side one is a highlight. -/
theorem fragments_parted (q : Query) (before : Option Char) (plain cs : List Char) :
    (∀ f ∈ q.fragments before plain cs, f.text ≠ "") ∧
      (q.fragments before plain cs).IsChain Fragment.Parted := by
  fun_induction Query.fragments q before plain cs with
  | case1 before plain =>
    rcases plainBefore_cases plain with none | ⟨text, solid, one⟩
    · rw [none]
      exact ⟨fun f member => absurd member List.not_mem_nil, List.isChain_nil⟩
    · rw [one]
      refine ⟨fun f member => ?_, List.isChain_singleton _⟩
      rw [List.mem_singleton.mp member]
      exact solid
  | case2 before plain c cs n found run ih =>
    have chain := isChain_highlight ih.2 (String.ofList run)
    have solid : ∀ f ∈ Fragment.highlight (String.ofList run) ::
        q.fragments run.getLast? [] (cs.drop n), f.text ≠ "" := by
      intro f member
      rcases List.mem_cons.mp member with rfl | member
      · exact ofList_cons_ne_empty c (cs.take n)
      · exact ih.1 f member
    rcases plainBefore_cases plain with none | ⟨text, nonempty, one⟩
    · rw [none]
      exact ⟨solid, chain⟩
    · rw [one]
      refine ⟨fun f member => ?_, List.isChain_cons.mpr ⟨fun g first => ?_, chain⟩⟩
      · rcases List.mem_cons.mp member with rfl | member
        · exact nonempty
        · exact solid f member
      · exact ⟨_, .inr (Option.some.inj first).symm⟩
  | case3 before plain c cs missed ih => exact ih

/-- Where a query finds nothing, or the empty match that ends at `last`, what may be met starts
later. -/
theorem Ahead.beyond {text : List Char} {last : Option Nat} {place : Nat}
    (passed : ∀ m, q.Ahead text last m → place ≤ m.start)
    (missed : ∀ n, q.lengthIn text place = some n → n = 0 ∧ last = some place) :
    ∀ m, q.Ahead text last m → place + 1 ≤ m.start := by
  intro m ahead
  refine Nat.lt_of_le_of_ne (passed m ahead) ?_
  rintro rfl
  exact ahead.fresh (missed _ ahead.found)

/-- At the end of a text nothing is met but an empty match. -/
theorem meets_end {text : List Char} {last : Option Nat}
    (passed : ∀ m, q.Ahead text last m → text.length ≤ m.start) :
    ∃ found, q.Meets text last found ∧ ∀ m ∈ found, m.length = 0 := by
  have atEnd : ∀ {last : Option Nat} {m : Match}, q.Ahead text last m → text.length ≤ m.start →
      m.start = text.length ∧ m.length = 0 := by
    intro last m ahead late
    have start := Nat.le_antisymm ahead.inside late
    have found := ahead.found
    rw [start, lengthIn, List.drop_length] at found
    exact ⟨start, Nat.le_zero.mp (lengthAt_le found)⟩
  by_cases more : ∃ m, q.Ahead text last m
  · obtain ⟨m, ahead⟩ := more
    obtain ⟨start, empty⟩ := atEnd ahead (passed m ahead)
    have first : ∀ other, q.Ahead text last other → m.start ≤ other.start := fun other also => by
      rw [start]
      exact passed other also
    refine ⟨[m], .next ahead first (.done fun other also => ?_), fun other member => ?_⟩
    · have late := also.behind
      rw [start, empty] at late
      obtain ⟨start', empty'⟩ := atEnd also late
      exact also.fresh ⟨empty', by rw [start, start', empty, Nat.add_zero]⟩
    · rw [List.mem_singleton.mp member]
      exact empty
  · exact ⟨[], .done (not_exists.mp more), fun m member => absurd member List.not_mem_nil⟩

/-- The place of what remains of a text behind two runs, the second written last character first. -/
theorem place_behind {text lead plain cs : List Char} (whole : text = lead ++ plain.reverse ++ cs) :
    lead.length + plain.length + cs.length = text.length := by
  rw [whole, List.length_append, List.length_append, List.length_reverse]

theorem lengthIn_scan {text lead plain cs : List Char} {before : Option Char}
    (whole : text = lead ++ plain.reverse ++ cs)
    (here : before = (lead ++ plain.reverse).getLast?) :
    q.lengthIn text (lead.length + plain.length) = q.lengthAt before cs := by
  have place : lead.length + plain.length = (lead ++ plain.reverse).length := by
    rw [List.length_append, List.length_reverse]
  rw [whole, here, place, lengthIn_behind]

/-- The highlights among the fragments of what remains of a text are the matches of any length that
are met after `last`, if none of these starts earlier. -/
theorem meets_fragments (q : Query) (text : List Char) (before : Option Char)
    (plain cs lead : List Char) (last : Option Nat) (whole : text = lead ++ plain.reverse ++ cs)
    (here : before = (lead ++ plain.reverse).getLast?)
    (behind : last.getD 0 ≤ lead.length + plain.length)
    (passed : ∀ m, q.Ahead text last m → lead.length + plain.length ≤ m.start) :
    ∃ found, q.Meets text last found ∧ highlights lead.length (q.fragments before plain cs) =
      (found.filter fun m => 0 < m.length).map fun m => m.run text := by
  -- The induction is on the scan, whose calls drop a whole match at a time.
  fun_induction Query.fragments q before plain cs generalizing lead last with
  | case1 before plain =>
    have inside := place_behind whole
    rw [List.length_nil, Nat.add_zero] at inside
    rw [inside] at passed
    obtain ⟨found, meets, empty⟩ := meets_end passed
    refine ⟨found, meets, ?_⟩
    have none : found.filter (fun m => 0 < m.length) = [] := by
      refine List.filter_eq_nil_iff.mpr fun m member => ?_
      rw [empty m member]
      decide
    have unmarked := highlights_plainBefore plain lead.length []
    rw [List.append_nil] at unmarked
    rw [unmarked, none]
    rfl
  | case2 before plain c cs n found run ih =>
    have fits : n ≤ cs.length := Nat.le_of_succ_le_succ (lengthAt_le found)
    have size : run.length = n + 1 := by
      rw [List.length_cons, List.length_take_of_le fits]
    have split : run ++ cs.drop n = c :: cs := by
      rw [List.cons_append, List.take_append_drop]
    have inside : lead.length + plain.length ≤ text.length := by
      rw [← place_behind whole]
      exact Nat.le_add_right _ _
    have ahead : q.Ahead text last ⟨lead.length + plain.length, n + 1⟩ :=
      ⟨inside, (lengthIn_scan whole here).trans found, behind,
        fun empty => Nat.succ_ne_zero n empty.1⟩
    have rest : text = (lead ++ plain.reverse ++ run) ++ [].reverse ++ cs.drop n := by
      rw [List.reverse_nil, List.append_nil, List.append_assoc _ run, split, whole]
    have here' : run.getLast? = (lead ++ plain.reverse ++ run ++ [].reverse).getLast? := by
      rw [List.reverse_nil, List.append_nil, List.getLast?_append]
      rfl
    have place' : (lead ++ plain.reverse ++ run).length =
        lead.length + plain.length + (n + 1) := by
      rw [List.length_append, List.length_append, List.length_reverse, size]
    obtain ⟨others, meets, marks⟩ := ih (lead ++ plain.reverse ++ run)
      (some (lead.length + plain.length + (n + 1))) rest here' place'.ge
      fun m beyond => place'.le.trans beyond.behind
    have chars : Match.run ⟨lead.length + plain.length, n + 1⟩ text =
        (lead.length + plain.length, String.ofList run) := by
      rw [Match.run, drop_behind whole]
      rfl
    have solid : (Match.mk (lead.length + plain.length) (n + 1) :: others).filter
        (fun m => 0 < m.length) = ⟨_, n + 1⟩ :: others.filter fun m => 0 < m.length :=
      List.filter_cons_of_pos (decide_eq_true (Nat.succ_pos n))
    refine ⟨_ :: others, .next ahead passed meets, ?_⟩
    rw [place'] at marks
    rw [highlights_plainBefore, highlights, String.length_ofList, size, marks, solid,
      List.map_cons, chars]
  | case3 before plain c cs missed ih =>
    have longer : text = lead ++ (c :: plain).reverse ++ cs := by
      rw [whole, List.reverse_cons, List.append_assoc, List.append_assoc, List.append_assoc,
        List.singleton_append]
    have here' : some c = (lead ++ (c :: plain).reverse).getLast? := by
      rw [List.reverse_cons, ← List.append_assoc, List.getLast?_concat]
    have empty : ∀ n, q.lengthIn text (lead.length + plain.length) = some n → n = 0 := by
      intro n found
      rw [lengthIn_scan whole here] at found
      cases n with
      | zero => rfl
      | succ n => exact (missed n found).elim
    by_cases fresh : q.lengthIn text (lead.length + plain.length) = some 0 ∧
        last ≠ some (lead.length + plain.length)
    · -- An empty match is met, and not again.
      have inside : lead.length + plain.length ≤ text.length := by
        rw [← place_behind whole]
        exact Nat.le_add_right _ _
      have ahead : q.Ahead text last ⟨lead.length + plain.length, 0⟩ :=
        ⟨inside, fresh.1, behind, fun ends => fresh.2 ends.2⟩
      have beyond := Ahead.beyond
        (fun m (next : q.Ahead text (some (lead.length + plain.length)) m) => next.behind)
        fun n found => ⟨empty n found, rfl⟩
      obtain ⟨others, meets, marks⟩ := ih lead (some (lead.length + plain.length)) longer here'
        (Nat.le_succ _) beyond
      exact ⟨_ :: others, .next ahead passed meets, marks⟩
    · refine ih lead last longer here' (Nat.le_succ_of_le behind) (Ahead.beyond passed ?_)
      intro n found
      obtain rfl := empty n found
      exact ⟨rfl, not_not.mp fun other => fresh ⟨found, other⟩⟩

/-- The fragments make up the label. None of them is empty but the one of an empty label that was
not searched, of two that stand side by side one is a highlight, and the highlights are the matches
of any length that are met in the label from left to right. -/
structure Divides (q : Query) (query label : String) (fragments : List Fragment) : Prop where
  whole : textOf fragments = label.toList
  solid : ∀ f ∈ fragments, f.text = "" → query = "" ∧ label = ""
  parted : fragments.IsChain Fragment.Parted
  plain : query = "" → fragments = [.plain label]
  marked : query ≠ "" → ∃ found, (∀ others, q.Meets label.toList none others ↔ others = found) ∧
    highlights 0 fragments =
      (found.filter fun m => 0 < m.length).map fun m => m.run label.toList

/-- A record that a query lists. -/
def Lists (q : Query) (query field : String) (r : Record) : Prop :=
  r.state = .enabled ∧ ∃ label ∈ r.field? field, query = "" ∨ q.Occurs label.toList

instance (q : Query) (query field : String) (r : Record) : Decidable (q.Lists query field r) :=
  inferInstanceAs (Decidable (_ ∧ ∃ label ∈ r.field? field, query = "" ∨ q.Occurs label.toList))

theorem everything_divides (label : String) :
    everything.Divides "" label [.plain label] where
  whole := List.append_nil _
  solid := by
    intro f member empty
    rw [List.mem_singleton.mp member] at empty
    exact ⟨rfl, empty⟩
  parted := List.isChain_singleton _
  plain _ := rfl
  marked other := absurd rfl other

theorem fragments_divide (q : Query) {query : String} (given : query ≠ "") (label : String) :
    q.Divides query label (q.fragments none [] label.toList) where
  whole := q.textOf_fragments none [] label.toList
  solid f member empty := absurd empty ((q.fragments_parted none [] label.toList).1 f member)
  parted := (q.fragments_parted none [] label.toList).2
  plain empty := absurd empty given
  marked _ := by
    obtain ⟨found, meets, marks⟩ := q.meets_fragments label.toList none [] label.toList []
      none rfl rfl (Nat.le_refl 0) fun m _ => Nat.zero_le m.start
    exact ⟨found, fun others => ⟨fun also => also.unique meets, fun same => same ▸ meets⟩, marks⟩

/-- A query that was read divides the labels in which it finds something, and passes over the
others. -/
theorem fragmentsOf?_divides {mode : PatternMode} {query : String}
    (read : ofText mode query = .ok q) (label : String) :
    ((query = "" ∨ q.Occurs label.toList) →
      ∃ fragments, q.fragmentsOf? label = some fragments ∧ q.Divides query label fragments) ∧
    (¬ (query = "" ∨ q.Occurs label.toList) → q.fragmentsOf? label = none) := by
  unfold ofText at read
  split at read
  · rename_i empty
    cases read
    rw [empty]
    exact ⟨fun _ => ⟨_, rfl, everything_divides label⟩, fun absent => absurd (.inl rfl) absent⟩
  · rename_i given
    split at read
    · rename_i program compiled
      cases read
      rw [or_iff_right given, ← occurs_iff]
      exact ⟨fun occurs => ⟨_, if_pos occurs, fragments_divide _ given label⟩, fun absent =>
        if_neg absent⟩
    · cases read

end Query

/-- A query that was read lists the enabled records that have the field and in whose label it finds
something, be it of no length, in their order, and divides their labels into fragments. -/
theorem find_divides {mode : PatternMode} {query field : String} {records : List Record}
    {found : List Suggestion} (ok : find mode query field records = .ok found) :
    ∃ q, Query.ofText mode query = .ok q ∧
      found.map (fun s => (s.recordId, s.title, some s.label)) =
        (records.filter fun r => q.Lists query field r).map
          (fun r => (r.id, r.name, r.field? field)) ∧
      ∀ s ∈ found, q.Divides query s.label s.fragments := by
  unfold find at ok
  cases read : Query.ofText mode query with
  | error e =>
    rw [read] at ok
    cases ok
  | ok q =>
    rw [read] at ok
    cases ok
    have sorts : q.Sorts (fun label => query = "" ∨ q.Occurs label.toList) (q.Divides query) :=
      Query.fragmentsOf?_divides read
    exact ⟨q, rfl, sorts.filter_eq field (fun _ => decide_eq_true_iff) records⟩

/-- A pattern that matches everywhere, for the most part with no length, on labels one of which is
empty, and on records one of which has no such field and one of which is disabled. -/
theorem find_divides_empty_matches :
    let records : List Record := [(Record.named "1" "web").setField "owner" "ébba",
      (Record.named "2" "db").setField "owner" "", .named "3" "b",
      { (Record.named "4" "mail").setField "owner" "b" with state := .disabled }]
    let found : List Suggestion :=
      [⟨"1", "ébba", "web", [.plain "é", .highlight "bb", .plain "a"]⟩, ⟨"2", "", "db", []⟩]
    find .raw "(?-i)b*" "owner" records = .ok found ∧
      ∃ q, Query.ofText .raw "(?-i)b*" = .ok q ∧
        found.map (fun s => (s.recordId, s.title, some s.label)) =
          (records.filter fun r => q.Lists "(?-i)b*" "owner" r).map
            (fun r => (r.id, r.name, r.field? "owner")) ∧
        ∀ s ∈ found, q.Divides "(?-i)b*" s.label s.fragments := by
  intro records found
  have ok : find .raw "(?-i)b*" "owner" records = .ok found := by
    have results : (find .raw "(?-i)b*" "owner" records).toOption = some found := by
      decide +kernel
    cases outcome : find .raw "(?-i)b*" "owner" records with
    | error e =>
      rw [outcome] at results
      cases results
    | ok others =>
      rw [outcome] at results
      exact congrArg Except.ok (Option.some.inj results)
  exact ⟨ok, find_divides ok⟩

end Search

end NodeGroups
