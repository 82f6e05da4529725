import Mathlib.Data.List.Induction
import NodeGroups.Picker.Basic
import NodeGroups.Proofs.Past

set_option autoImplicit false

namespace NodeGroups.Picker

open Search (Index)

/-- What can be done to an input. An event comes with the datasets and the mode of its moment. -/
inductive Call
  | event (event : Event) (index : Index) (mode : PatternMode)
  | close
  | clear

/-- Does something to an input, and gives its answer. -/
def call (p : Picker) : Call → Picker × Option Selection
  | .event event index mode => p.apply event index mode
  | .close => (p.close, none)
  | .clear => (p.clear, none)

/-- What happened to an input. -/
inductive Happening
  | focus
  | keyUp (text : String)
  /-- A click that was answered with a selection. -/
  | picked (selection : Selection)
  /-- A click that was not. -/
  | missed
  | blur
  | closed
  | cleared

/-- What a call and its answer amount to. -/
def Call.happening : Call → (answer : Option Selection) → Happening
  | .event (.focus _ _) _ _, _ => .focus
  | .event (.keyUp text) _ _, _ => .keyUp text
  | .event (.click _) _ _, some s => .picked s
  | .event (.click _) _ _, none => .missed
  | .event .blur _ _, _ => .blur
  | .event .outsideClick _ _, _ => .closed
  | .close, _ => .closed
  | .clear, _ => .cleared

def after (p : Picker) (calls : List Call) : Picker := calls.foldl (fun p c => (p.call c).1) p

def history (p : Picker) : List Call → List Happening
  | [] => []
  | c :: calls => c.happening (p.call c).2 :: history (p.call c).1 calls

theorem after_concat (p : Picker) (calls : List Call) (c : Call) :
    p.after (calls ++ [c]) = ((p.after calls).call c).1 := by
  rw [after, List.foldl_append]
  rfl

theorem history_concat (p : Picker) (calls : List Call) (c : Call) :
    p.history (calls ++ [c]) =
      p.history calls ++ [c.happening ((p.after calls).call c).2] := by
  induction calls generalizing p with
  | nil => rfl
  | cons d calls ih =>
    rw [List.cons_append, history, ih, history]
    rfl

namespace Happening

/-- A click that was answered with a selection. -/
def Picks : Happening → Prop
  | .picked _ => True
  | _ => False

/-- What drops a selection wherever the focus is. -/
def Drops : Happening → Prop
  | .keyUp _ | .cleared => True
  | _ => False

/-- What makes earlier clicks count no more for a loss of focus. -/
def Unlatches : Happening → Prop
  | .focus | .keyUp _ | .cleared => True
  | _ => False

end Happening

/-- Something happened that is of one kind, and all that happened since is of another. -/
def Since (P Q : Happening → Prop) (past : List Happening) : Prop :=
  ∃ earlier h since, past = earlier ++ h :: since ∧ P h ∧ ∀ x ∈ since, Q x

/-- The focus was got and later lost. -/
def LosesFocus (past : List Happening) : Prop :=
  ∃ earlier since, past = earlier ++ .focus :: since ∧ .blur ∈ since

/-- A selection was picked, and since then no other was, nothing dropped it, and no focus that the
input got was lost. -/
def Held (s : Selection) (past : List Happening) : Prop :=
  ∃ earlier since, past = earlier ++ .picked s :: since ∧
    (∀ h ∈ since, ¬ h.Picks ∧ ¬ h.Drops) ∧ ¬ LosesFocus since

/-- A loss of focus would clear the input: the input got the focus since it was last lost, and no
selection was picked since the last focus, keystroke or clearing. -/
def Clearing (past : List Happening) : Prop :=
  Since (· = .focus) (· ≠ .blur) past ∧ ¬ Since Happening.Picks (¬ ·.Unlatches) past

/-- What writes into the input, and the text that it writes. -/
inductive Writes (past : List Happening) : Happening → String → Prop
  | picked (s : Selection) : Writes past (.picked s) s.label
  | keyUp (text : String) : Writes past (.keyUp text) text
  | cleared : Writes past .cleared ""
  | blur (clearing : Clearing past) : Writes past .blur ""

/-- The text that was written last, empty when none was. -/
inductive LastWritten : List Happening → String → Prop
  | never : LastWritten [] ""
  | now {past : List Happening} {h : Happening} {text : String} (writes : Writes past h text) :
      LastWritten (past ++ [h]) text
  | before {past : List Happening} {h : Happening} {text : String} (last : LastWritten past text)
      (silent : ∀ other, ¬ Writes past h other) : LastWritten (past ++ [h]) text

theorem not_since_nil (P Q : Happening → Prop) : ¬ Since P Q [] := by
  rintro ⟨earlier, h, since, none, -⟩
  cases earlier <;> cases none

theorem since_concat (P Q : Happening → Prop) (past : List Happening) (h : Happening) :
    Since P Q (past ++ [h]) ↔ P h ∨ (Q h ∧ Since P Q past) := by
  constructor
  · rintro ⟨earlier, x, since, split, is, all⟩
    rcases concat_eq_append_cons.mp split with ⟨-, rfl, -⟩ | ⟨rest, rfl, rfl⟩
    · exact .inl is
    · refine .inr ⟨all h (List.mem_append_right rest (List.mem_singleton_self h)), ?_⟩
      exact ⟨earlier, x, rest, rfl, is, fun y member => all y (List.mem_append_left [h] member)⟩
  · rintro (is | ⟨kind, earlier, x, since, rfl, is, all⟩)
    · exact ⟨past, h, [], rfl, is, fun y member => absurd member List.not_mem_nil⟩
    · refine ⟨earlier, x, since ++ [h], concat_eq_append_cons.mpr (.inr ⟨since, rfl, rfl⟩), is, ?_⟩
      intro y member
      rcases List.mem_append.mp member with member | member
      · exact all y member
      · rwa [List.mem_singleton.mp member]

theorem losesFocus_concat (past : List Happening) (h : Happening) :
    LosesFocus (past ++ [h]) ↔ LosesFocus past ∨ (h = .blur ∧ .focus ∈ past) := by
  constructor
  · rintro ⟨earlier, since, split, lost⟩
    rcases concat_eq_append_cons.mp split with ⟨-, -, rfl⟩ | ⟨rest, rfl, rfl⟩
    · exact absurd lost List.not_mem_nil
    · rcases List.mem_append.mp lost with lost | lost
      · exact .inl ⟨earlier, rest, rfl, lost⟩
      · have got : Happening.focus ∈ earlier ++ .focus :: rest :=
          List.mem_append_right earlier List.mem_cons_self
        exact .inr ⟨(List.mem_singleton.mp lost).symm, got⟩
  · rintro (⟨earlier, since, rfl, lost⟩ | ⟨rfl, got⟩)
    · exact ⟨earlier, since ++ [h], concat_eq_append_cons.mpr (.inr ⟨since, rfl, rfl⟩),
        List.mem_append_left [h] lost⟩
    · obtain ⟨earlier, rest, rfl⟩ := List.append_of_mem got
      exact ⟨earlier, rest ++ [.blur], concat_eq_append_cons.mpr (.inr ⟨rest, rfl, rfl⟩),
        List.mem_append_right rest (List.mem_singleton_self _)⟩

theorem Writes.unique {past : List Happening} {h : Happening} {text other : String}
    (writes : Writes past h text) (rewrites : Writes past h other) : text = other := by
  cases writes <;> cases rewrites <;> rfl

theorem lastWritten_nil {text : String} (last : LastWritten [] text) : text = "" := by
  generalize none : ([] : List Happening) = past at last
  cases last with
  | never => rfl
  | now writes => exact absurd none.symm (List.concat_ne_nil _ _)
  | before last silent => exact absurd none.symm (List.concat_ne_nil _ _)

theorem lastWritten_concat {past : List Happening} {h : Happening} {text : String}
    (last : LastWritten (past ++ [h]) text) :
    Writes past h text ∨ (LastWritten past text ∧ ∀ other, ¬ Writes past h other) := by
  generalize same : past ++ [h] = whole at last
  cases last with
  | never => exact absurd same (List.concat_ne_nil _ _)
  | now writes =>
    obtain ⟨rfl, only⟩ := List.append_inj' same rfl
    obtain ⟨rfl, -⟩ := List.cons.inj only
    exact .inl writes
  | before last silent =>
    obtain ⟨rfl, only⟩ := List.append_inj' same rfl
    obtain ⟨rfl, -⟩ := List.cons.inj only
    exact .inr ⟨last, silent⟩

theorem LastWritten.unique {past : List Happening} {text other : String}
    (last : LastWritten past text) (also : LastWritten past other) : text = other := by
  induction past using List.reverseRecOn with
  | nil => rw [lastWritten_nil last, lastWritten_nil also]
  | append_singleton past h ih =>
    rcases lastWritten_concat last with writes | ⟨before, silent⟩
    · rcases lastWritten_concat also with rewrites | ⟨-, silent⟩
      · exact writes.unique rewrites
      · exact absurd writes (silent _)
    · rcases lastWritten_concat also with writes | ⟨earlier, -⟩
      · exact absurd writes (silent _)
      · exact ih before earlier

/-- A selection was picked, and since then no other was, nothing dropped it and the input did not
get the focus. -/
def Kept (s : Selection) (past : List Happening) : Prop :=
  Since (· = .picked s) (fun h => ¬ h.Picks ∧ ¬ h.Drops ∧ h ≠ .focus) past

theorem not_losesFocus_of_not_mem {past : List Happening} (never : .focus ∉ past) :
    ¬ LosesFocus past := by
  rintro ⟨earlier, since, rfl, -⟩
  exact never (List.mem_append_right earlier List.mem_cons_self)

theorem not_held_nil (s : Selection) : ¬ Held s [] := by
  rintro ⟨earlier, since, none, -⟩
  cases earlier <;> cases none

theorem held_of_kept {s : Selection} {past : List Happening} (kept : Kept s past) :
    Held s past := by
  obtain ⟨earlier, _, since, rfl, rfl, all⟩ := kept
  refine ⟨earlier, since, rfl, fun h member => ?_, ?_⟩
  · exact ⟨(all h member).1, (all h member).2.1⟩
  · exact not_losesFocus_of_not_mem fun got => (all _ got).2.2 rfl

/-- A loss of focus leaves held what was kept, and what neither picks nor drops leaves held what
was held. -/
theorem held_concat (s : Selection) (past : List Happening) (h : Happening) :
    Held s (past ++ [h]) ↔
      h = .picked s ∨ (h = .blur ∧ Kept s past) ∨
        (h ≠ .blur ∧ ¬ h.Picks ∧ ¬ h.Drops ∧ Held s past) := by
  constructor
  · rintro ⟨earlier, since, split, quiet, calm⟩
    rcases concat_eq_append_cons.mp split with ⟨-, same, -⟩ | ⟨rest, rfl, rfl⟩
    · exact .inl same.symm
    · rw [losesFocus_concat, not_or, not_and] at calm
      have before : ∀ x ∈ rest, ¬ x.Picks ∧ ¬ x.Drops :=
        fun x member => quiet x (List.mem_append_left [h] member)
      by_cases lost : h = .blur
      · refine .inr (.inl ⟨lost, earlier, _, rest, rfl, rfl, fun x member => ?_⟩)
        refine ⟨(before x member).1, (before x member).2, ?_⟩
        rintro rfl
        exact calm.2 lost member
      · obtain ⟨picksNot, dropsNot⟩ :=
          quiet h (List.mem_append_right rest (List.mem_singleton_self h))
        exact .inr (.inr ⟨lost, picksNot, dropsNot, earlier, rest, rfl, before, calm.1⟩)
  · rintro (rfl | ⟨rfl, earlier, _, since, rfl, rfl, all⟩ |
      ⟨stays, picksNot, dropsNot, earlier, since, rfl, quiet, calm⟩)
    · exact ⟨past, [], rfl, fun x member => absurd member List.not_mem_nil,
        not_losesFocus_of_not_mem List.not_mem_nil⟩
    · have never : .focus ∉ since := fun got => (all _ got).2.2 rfl
      refine ⟨earlier, since ++ [.blur], concat_eq_append_cons.mpr (.inr ⟨since, rfl, rfl⟩), ?_, ?_⟩
      · intro x member
        rcases List.mem_append.mp member with member | member
        · exact ⟨(all x member).1, (all x member).2.1⟩
        · rw [List.mem_singleton.mp member]
          exact ⟨id, id⟩
      · rw [losesFocus_concat, not_or, not_and]
        exact ⟨not_losesFocus_of_not_mem never, fun _ => never⟩
    · refine ⟨earlier, since ++ [h], concat_eq_append_cons.mpr (.inr ⟨since, rfl, rfl⟩), ?_, ?_⟩
      · intro x member
        rcases List.mem_append.mp member with member | member
        · exact quiet x member
        · rw [List.mem_singleton.mp member]
          exact ⟨picksNot, dropsNot⟩
      · rw [losesFocus_concat, not_or, not_and]
        exact ⟨calm, fun lost => absurd lost stays⟩

/-- What of an input says how its text and its selection go on. -/
structure Memory where
  focused : Bool
  latched : Bool
  selection : Option Selection
  text : String

/-- What an input remembers. -/
def memory (p : Picker) : Memory := ⟨p.focused, p.latched, p.selection, p.text⟩

namespace Memory

def step (m : Memory) : Happening → Memory
  | .focus => { m with focused := true, latched := false }
  | .keyUp text => { m with latched := false, selection := none, text }
  | .picked s => { m with latched := true, selection := some s, text := s.label }
  | .missed | .closed => m
  | .blur =>
    if m.focused = true ∧ m.latched = false then ⟨false, false, none, ""⟩
    else ⟨false, false, m.selection, m.text⟩
  | .cleared => { m with latched := false, selection := none, text := "" }

end Memory

theorem memory_relist (p : Picker) (query : String) (index : Index) (mode : PatternMode) :
    (p.relist query index mode).memory = p.memory := by
  unfold relist
  split <;> rfl

theorem memory_onBlur (p : Picker) : p.onBlur.memory = p.memory.step .blur := by
  by_cases clears : p.focused = true ∧ p.latched = false
  · simp [onBlur, memory, Memory.step, clears]
  · have keeps : (p.focused && !p.latched) = false := by
      rw [← Bool.not_eq_true, Bool.and_eq_true, Bool.not_eq_true']
      exact clears
    simp [onBlur, memory, Memory.step, clears, keeps]

/-- What an input remembers goes by what happens to it, whatever the datasets are. -/
theorem memory_call (p : Picker) (c : Call) :
    (p.call c).1.memory = p.memory.step (c.happening (p.call c).2) := by
  cases c with
  | close => rfl
  | clear => rfl
  | event event index mode =>
    cases event with
    | focus box scroll => exact memory_relist _ _ _ _
    | keyUp text =>
      change (p.onKeyUp text index mode).memory = p.memory.step (.keyUp text)
      unfold onKeyUp
      dsimp only
      split
      · rfl
      · exact memory_relist _ _ _ _
    | click id =>
      rw [call, apply]
      cases p.offered? id index with
      | none => rfl
      | some s => rfl
    | blur => exact memory_onBlur p
    | outsideClick => rfl

namespace Memory

/-- A loss of focus would clear the input. -/
def Clears (m : Memory) : Prop := m.focused = true ∧ m.latched = false

/-- What an input remembers is what its past says. The latch tells of the past only while the input
has the focus, and what was kept is what the next loss of focus would not clear. -/
structure Agrees (m : Memory) (past : List Happening) : Prop where
  focused : m.focused = true ↔ Since (· = .focus) (· ≠ .blur) past
  latched : m.focused = true →
    (m.latched = true ↔ Since Happening.Picks (¬ ·.Unlatches) past)
  selection : ∀ s, m.selection = some s ↔ Held s past
  kept : ∀ s, Held s past → (Kept s past ↔ ¬ m.Clears)
  text : LastWritten past m.text

variable {m : Memory} {past : List Happening}

theorem Agrees.clears_iff (agrees : m.Agrees past) : m.Clears ↔ Clearing past := by
  rw [Clears, Clearing, ← agrees.focused]
  refine and_congr_right fun focused => ?_
  rw [← agrees.latched focused, Bool.not_eq_true]

theorem Agrees.focused_step (agrees : m.Agrees past) (h : Happening) :
    (m.step h).focused = true ↔ Since (· = .focus) (· ≠ .blur) (past ++ [h]) := by
  rw [since_concat, ← agrees.focused]
  cases h with
  | blur =>
    rw [step]
    split <;> simp
  | focus => simp [step]
  | keyUp text => simp [step]
  | picked s => simp [step]
  | missed => simp [step]
  | closed => simp [step]
  | cleared => simp [step]

theorem Agrees.latched_step (agrees : m.Agrees past) (h : Happening)
    (focused : (m.step h).focused = true) :
    (m.step h).latched = true ↔ Since Happening.Picks (¬ ·.Unlatches) (past ++ [h]) := by
  rw [since_concat]
  cases h with
  | blur =>
    rw [step] at focused
    split at focused <;> cases focused
  | focus => simp [step, Happening.Picks, Happening.Unlatches]
  | keyUp text => simp [step, Happening.Picks, Happening.Unlatches]
  | picked s => simp [step, Happening.Picks]
  | missed => simpa [step, Happening.Picks, Happening.Unlatches] using agrees.latched focused
  | closed => simpa [step, Happening.Picks, Happening.Unlatches] using agrees.latched focused
  | cleared => simp [step, Happening.Picks, Happening.Unlatches]

/-- A loss of focus drops the selection unless it was kept. -/
theorem Agrees.selection_blur (agrees : m.Agrees past) (s : Selection) :
    (m.step .blur).selection = some s ↔ Kept s past := by
  rw [step]
  split
  · rename_i clears
    refine iff_of_false (fun none => nomatch none) fun kept => ?_
    exact (agrees.kept s (held_of_kept kept)).mp kept clears
  · rename_i stays
    change m.selection = some s ↔ _
    rw [agrees.selection s]
    exact ⟨fun held => (agrees.kept s held).mpr stays, held_of_kept⟩

theorem Agrees.selection_step (agrees : m.Agrees past) (h : Happening) (s : Selection) :
    (m.step h).selection = some s ↔ Held s (past ++ [h]) := by
  rw [held_concat]
  cases h with
  | blur => simpa using agrees.selection_blur s
  | focus => simpa [step, Happening.Picks, Happening.Drops] using agrees.selection s
  | keyUp text => simp [step, Happening.Drops]
  | picked t => simp [step, Happening.Picks]
  | missed => simpa [step, Happening.Picks, Happening.Drops] using agrees.selection s
  | closed => simpa [step, Happening.Picks, Happening.Drops] using agrees.selection s
  | cleared => simp [step, Happening.Drops]

theorem Agrees.kept_step (agrees : m.Agrees past) (h : Happening) (s : Selection)
    (held : Held s (past ++ [h])) : Kept s (past ++ [h]) ↔ ¬ (m.step h).Clears := by
  rw [held_concat] at held
  rw [Kept, since_concat, ← Kept]
  cases h with
  | blur =>
    have kept : Kept s past := by simpa using held
    have unfocused : (m.step .blur).focused = false := by
      rw [step]
      split <;> rfl
    simp [Happening.Picks, Happening.Drops, kept, Clears, unfocused]
  | focus => simp [step, Clears]
  | keyUp text => simp [Happening.Drops] at held
  | picked t =>
    have same : t = s := by simpa [Happening.Picks] using held
    simp [same, step, Clears]
  | missed =>
    have before : Held s past := by simpa [Happening.Picks, Happening.Drops] using held
    simpa [step, Happening.Picks, Happening.Drops] using agrees.kept s before
  | closed =>
    have before : Held s past := by simpa [Happening.Picks, Happening.Drops] using held
    simpa [step, Happening.Picks, Happening.Drops] using agrees.kept s before
  | cleared => simp [Happening.Drops] at held

theorem Agrees.text_step (agrees : m.Agrees past) (h : Happening) :
    LastWritten (past ++ [h]) (m.step h).text := by
  cases h with
  | keyUp text => exact .now (.keyUp text)
  | picked s => exact .now (.picked s)
  | cleared => exact .now .cleared
  | focus => exact .before agrees.text fun _ writes => nomatch writes
  | missed => exact .before agrees.text fun _ writes => nomatch writes
  | closed => exact .before agrees.text fun _ writes => nomatch writes
  | blur =>
    rw [step]
    split
    · rename_i clears
      exact .now (.blur (agrees.clears_iff.mp clears))
    · rename_i stays
      refine .before agrees.text fun _ writes => ?_
      cases writes with
      | blur clearing => exact stays (agrees.clears_iff.mpr clearing)

theorem Agrees.step (agrees : m.Agrees past) (h : Happening) :
    (m.step h).Agrees (past ++ [h]) where
  focused := agrees.focused_step h
  latched := agrees.latched_step h
  selection := agrees.selection_step h
  kept := agrees.kept_step h
  text := agrees.text_step h

end Memory

variable (dataset field : String) (widthPad : Numeric.Binary)

theorem agrees_onField : (onField dataset field widthPad).memory.Agrees [] where
  focused := iff_of_false Bool.false_ne_true (not_since_nil _ _)
  latched := fun focused => absurd focused Bool.false_ne_true
  selection := fun s => iff_of_false (fun none => nomatch none) (not_held_nil s)
  kept := fun s held => absurd held (not_held_nil s)
  text := .never

theorem agrees_after (calls : List Call) :
    ((onField dataset field widthPad).after calls).memory.Agrees
      ((onField dataset field widthPad).history calls) := by
  -- The induction is on the last call, since a past grows at its end.
  induction calls using List.reverseRecOn with
  | nil => exact agrees_onField dataset field widthPad
  | append_singleton calls c ih =>
    rw [after_concat, history_concat, memory_call]
    exact ih.step _

/-- Losses of focus and closings. -/
def Call.LeavesAlone : Call → Prop
  | .event .blur _ _ | .event .outsideClick _ _ | .close => True
  | _ => False

theorem Call.LeavesAlone.happening {c : Call} (harmless : c.LeavesAlone)
    (answer : Option Selection) : c.happening answer = .blur ∨ c.happening answer = .closed := by
  cases c with
  | close => exact .inr rfl
  | clear => exact harmless.elim
  | event event index mode =>
    cases event with
    | blur => exact .inl rfl
    | outsideClick => exact .inr rfl
    | focus box scroll => exact harmless.elim
    | keyUp text => exact harmless.elim
    | click id => exact harmless.elim

/-- What the next loss of focus would not clear stays, however many of them and of closings
follow. -/
theorem kept_after {p : Picker} {later : List Call} (harmless : ∀ c ∈ later, c.LeavesAlone)
    (stays : ¬ p.memory.Clears) :
    (p.after later).selection = p.selection ∧ (p.after later).text = p.text := by
  induction later generalizing p with
  | nil => exact ⟨rfl, rfl⟩
  | cons c later ih =>
    have next : (p.call c).1.memory = p.memory ∨
        (p.call c).1.memory = ⟨false, false, p.selection, p.text⟩ := by
      rw [memory_call]
      rcases (harmless c List.mem_cons_self).happening (p.call c).2 with same | same
      · rw [same]
        exact .inr (if_neg stays)
      · rw [same]
        exact .inl rfl
    have unchanged : (p.call c).1.selection = p.selection ∧ (p.call c).1.text = p.text ∧
        ¬ (p.call c).1.memory.Clears := by
      rcases next with same | same
      · rw [same]
        exact ⟨congrArg Memory.selection same, congrArg Memory.text same, stays⟩
      · rw [same]
        exact ⟨congrArg Memory.selection same, congrArg Memory.text same,
          fun clears => Bool.false_ne_true clears.1⟩
    have onward := ih (fun d member => harmless d (List.mem_cons_of_mem c member)) unchanged.2.2
    rw [unchanged.1, unchanged.2.1] at onward
    exact onward

/-- After a click that selects, the input has its selection and its text. -/
theorem call_click {p : Picker} {id : String} {index : Index} {mode : PatternMode} {s : Selection}
    (selects : (p.call (.event (.click id) index mode)).2 = some s) :
    (p.call (.event (.click id) index mode)).1.memory = ⟨p.focused, true, some s, s.label⟩ := by
  have picked := memory_call p (.event (.click id) index mode)
  rw [selects] at picked
  exact picked

/-- Whatever was done to an input, its selection is what its past holds and its text is what was
written last; and what a click selects then outlasts losses of focus and closings. -/
theorem after_history (calls : List Call) :
    let p := (onField dataset field widthPad).after calls
    let past := (onField dataset field widthPad).history calls
    (∀ s, p.selection = some s ↔ Held s past) ∧
      (∀ text, p.text = text ↔ LastWritten past text) ∧
      ∀ id index mode s later, (p.call (.event (.click id) index mode)).2 = some s →
        (∀ c ∈ later, c.LeavesAlone) →
        let q := (p.call (.event (.click id) index mode)).1.after later
        q.selection = some s ∧ q.text = s.label := by
  intro p past
  have agrees : p.memory.Agrees past := agrees_after dataset field widthPad calls
  refine ⟨agrees.selection, fun text => ⟨?_, fun last => agrees.text.unique last⟩, ?_⟩
  · rintro rfl
    exact agrees.text
  · intro id index mode s later selects harmless
    have clicked := call_click selects
    have stays : ¬ (p.call (.event (.click id) index mode)).1.memory.Clears := by
      rw [clicked]
      exact fun clears => Bool.false_ne_true clears.2.symm
    have kept := kept_after harmless stays
    have selection : (p.call (.event (.click id) index mode)).1.selection = some s :=
      congrArg Memory.selection clicked
    have text : (p.call (.event (.click id) index mode)).1.text = s.label :=
      congrArg Memory.text clicked
    rwa [selection, text] at kept

/-- A click that comes after the focus was lost, with two more losses of focus behind it. -/
theorem after_history_click :
    let index := Index.empty.load Search.classesKey [.named "1" "web", .named "2" "db"]
    let p := (onField Search.classesKey "name" .zero).after
      [.event (.focus .zero .zero) index .literal, .event .blur index .literal]
    let click := Call.event (.click "2") index .literal
    let later := [Call.event .blur index .literal, .event .outsideClick index .literal,
      .event .blur index .literal]
    (p.call click).2 = some ⟨"2", "db"⟩ ∧
      ((p.call click).1.after later).selection = some ⟨"2", "db"⟩ ∧
      ((p.call click).1.after later).text = "db" := by
  intro index p click later
  have selects : (p.call click).2 = some ⟨"2", "db"⟩ := by decide +kernel
  have harmless : ∀ c ∈ later, c.LeavesAlone := by
    intro c member
    simp only [later, List.mem_cons, List.not_mem_nil, or_false] at member
    rcases member with rfl | rfl | rfl <;> trivial
  have outlasts := (after_history Search.classesKey "name" .zero
    [.event (.focus .zero .zero) index .literal, .event .blur index .literal]).2.2
  exact ⟨selects, outlasts "2" index .literal ⟨"2", "db"⟩ later selects harmless⟩

end NodeGroups.Picker
