import NodeGroups.Proofs.Numeric.Reading
import NodeGroups.Proofs.Settings.Url

set_option autoImplicit false

namespace NodeGroups.Settings

open Numeric (Binary DecimalParts NatText binary32)

variable {α : Type} {lookup : String → Option String} {v : Variable}

/-- A variable has a text: what is left of its value without the blanks around it, if anything. -/
def Gives (lookup : String → Option String) (v : Variable) (text : String) : Prop :=
  ∃ raw, lookup v.name = some raw ∧ Text.isBlankText raw = false ∧ text = Text.trim raw

/-- A variable is not set, or blank. -/
def Unset (lookup : String → Option String) (v : Variable) : Prop :=
  ∀ raw, lookup v.name = some raw → Text.isBlankText raw = true

theorem given_eq_some {text : String} : given lookup v = some text ↔ Gives lookup v text := by
  unfold given Gives
  cases lookup v.name with
  | none => exact iff_of_false nofun fun ⟨_, set, _⟩ => nomatch set
  | some raw =>
    dsimp only
    by_cases empty : Text.trim raw = ""
    · rw [if_pos empty]
      refine iff_of_false nofun ?_
      rintro ⟨_, ⟨⟩, solid, -⟩
      rw [Text.trim_eq_empty.mp empty] at solid
      cases solid
    · rw [if_neg empty]
      have solid := Bool.eq_false_iff.mpr (mt Text.trim_eq_empty.mpr empty)
      constructor
      · rintro ⟨⟩
        exact ⟨raw, rfl, solid, rfl⟩
      · rintro ⟨_, ⟨⟩, -, rfl⟩
        rfl

theorem given_eq_none : given lookup v = none ↔ Unset lookup v := by
  constructor
  · intro none raw set
    by_contra solid
    have some := given_eq_some.mpr ⟨raw, set, Bool.eq_false_iff.mpr solid, rfl⟩
    rw [none] at some
    cases some
  · intro unset
    cases found : given lookup v with
    | none => rfl
    | some text =>
      obtain ⟨raw, set, solid, -⟩ := given_eq_some.mp found
      rw [unset raw set] at solid
      cases solid

theorem Gives.trim {text : String} (gives : Gives lookup v text) : Text.trim text = text := by
  obtain ⟨raw, -, -, rfl⟩ := gives
  exact Text.trim_trim raw

/-- The texts of a time limit. -/
def TimeText (n : Nat) (text : String) : Prop := NatText n text ∧ n < UInt64.size

inductive ModeName : PatternMode → String → Prop
  | raw : ModeName .raw "raw"
  | regex : ModeName .raw "regex"
  | literal : ModeName .literal "literal"
  | escaped : ModeName .literal "escaped"

/-- The texts of a mode: its names in any case. -/
def ModeText (mode : PatternMode) (text : String) : Prop := ModeName mode text.toLower

/-- The texts of a width: decimals of which the nearest number of single precision is finite and not
below zero. -/
def WidthText (x : Binary) (text : String) : Prop :=
  ∃ d : DecimalParts, d.Text text.toList ∧ x = d.value binary32 ∧ x.isFinite = true ∧
    x.isNonnegative = true

/-- What `read` makes of the text of a variable: a value of which it is a text, if there is one, and
otherwise a complaint about the variable. -/
structure Understands (read : String → Except Failure α) (texts : α → String → Prop)
    (v : Variable) (complaint : String → String) : Prop where
  ok : ∀ {text : String} {a : α}, Text.trim text = text → (read text = .ok a ↔ texts a text)
  error : ∀ {text : String} {f : Failure}, Text.trim text = text → read text = .error f →
    f = v.invalid (complaint text)

/-- A reader that complains of what has no value. -/
theorem understands_readBy {read : String → Option α} {texts : α → String → Prop}
    (reads : ∀ {text : String} {a : α}, read text = some a ↔ texts a text) :
    Understands (readBy v read) texts v id where
  ok {text a} _ := by
    rw [← reads, readBy]
    cases read text <;> simp
  error {text f} _ failed := by
    rw [readBy] at failed
    split at failed <;> cases failed
    rfl

theorem understands_time :
    Understands (readBy .timeoutMs (Numeric.natOfText? maxTimeout)) TimeText .timeoutMs id :=
  understands_readBy fun {text n} => by
    have bound : n ≤ maxTimeout ↔ n < UInt64.size := Nat.le_sub_one_iff_lt (by decide)
    rw [Numeric.natOfText?_eq_some, bound, TimeText]

theorem understands_width :
    Understands (readBy .listWidthPad widthOfText?) WidthText .listWidthPad id :=
  understands_readBy fun {text x} => by
    rw [widthOfText?, Option.filter_eq_some_iff, Bool.and_eq_true, ← and_assoc,
      Numeric.ofText?_finite_iff, WidthText]
    constructor
    · rintro ⟨⟨d, written, value, finite⟩, positive⟩
      exact ⟨d, written, value, finite, positive⟩
    · rintro ⟨d, written, value, finite, positive⟩
      exact ⟨⟨d, written, value, finite⟩, positive⟩

theorem modeName_iff {mode : PatternMode} {word : String} : ModeName mode word ↔
    mode = .raw ∧ (word = "raw" ∨ word = "regex") ∨
      mode = .literal ∧ (word = "literal" ∨ word = "escaped") := by
  constructor
  · rintro (_ | _ | _ | _) <;> decide
  · rintro (⟨rfl, rfl | rfl⟩ | ⟨rfl, rfl | rfl⟩)
    · exact .raw
    · exact .regex
    · exact .literal
    · exact .escaped

/-- A word names one mode at most. -/
theorem ModeName.unique {mode other : PatternMode} {word : String} (name : ModeName mode word)
    (another : ModeName other word) : mode = other := by
  rcases modeName_iff.mp name with ⟨rfl, word⟩ | ⟨rfl, word⟩ <;>
    rcases modeName_iff.mp another with ⟨rfl, same⟩ | ⟨rfl, same⟩
  · rfl
  · rcases word with rfl | rfl <;> exact absurd same (by decide)
  · rcases word with rfl | rfl <;> exact absurd same (by decide)
  · rfl

theorem understands_mode :
    Understands PatternMode.ofText ModeText .patternMode
      fun text => text.toLower ++ " (expected raw|literal)" where
  ok {text mode} trimmed := by
    rw [PatternMode.ofText, trimmed, ModeText]
    generalize text.toLower = word
    have found {named : PatternMode} (name : ModeName named word) :
        (Except.ok named : Except Failure PatternMode) = .ok mode ↔ ModeName mode word := by
      constructor
      · rintro ⟨⟩
        exact name
      · intro another
        rw [name.unique another]
    by_cases raw : word = "raw" ∨ word = "regex"
    · rw [if_pos raw, found (modeName_iff.mpr (.inl ⟨rfl, raw⟩))]
    · by_cases literal : word = "literal" ∨ word = "escaped"
      · rw [if_neg raw, if_pos literal, found (modeName_iff.mpr (.inr ⟨rfl, literal⟩))]
      · rw [if_neg raw, if_neg literal]
        refine iff_of_false nofun fun name => ?_
        rcases modeName_iff.mp name with ⟨-, named⟩ | ⟨-, named⟩
        · exact raw named
        · exact literal named
  error {text f} trimmed failed := by
    rw [PatternMode.ofText, trimmed] at failed
    split at failed
    · cases failed
    · split at failed <;> cases failed
      rfl

/-- A setting of which the flag, the variable and the base are known: what the flag says, if it is
given, and otherwise what the variable says, if it has a text, and otherwise the base. -/
inductive Chosen (flag : Option α) (lookup : String → Option String) (v : Variable)
    (texts : α → String → Prop) (base : α) : α → Prop
  | flag {a : α} (flagged : flag = some a) : Chosen flag lookup v texts base a
  | given {a : α} {text : String} (unflagged : flag = none) (gives : Gives lookup v text)
      (reads : texts a text) : Chosen flag lookup v texts base a
  | base (unflagged : flag = none) (unset : Unset lookup v) : Chosen flag lookup v texts base base

/-- A variable that is not blank has a value. -/
def Readable (lookup : String → Option String) (v : Variable) (texts : α → String → Prop) : Prop :=
  ∀ text, Gives lookup v text → ∃ a, texts a text

section Chosen

variable {read : String → Except Failure α} {texts : α → String → Prop}
  {complaint : String → String} {base a b : α}

theorem override_eq_ok (understands : Understands read texts v complaint) :
    override lookup v base read = .ok a ↔ Chosen none lookup v texts base a := by
  rw [override]
  cases found : given lookup v with
  | none =>
    have unset := given_eq_none.mp found
    constructor
    · rintro ⟨⟩
      exact .base rfl unset
    · rintro (⟨⟨⟩⟩ | ⟨-, gives, -⟩ | -)
      · rw [given_eq_some.mpr gives] at found
        cases found
      · rfl
  | some text =>
    have gives := given_eq_some.mp found
    refine (understands.ok gives.trim).trans ⟨fun reads => .given rfl gives reads, ?_⟩
    rintro (⟨⟨⟩⟩ | ⟨-, others, reads⟩ | ⟨-, unset⟩)
    · rw [given_eq_some.mpr others] at found
      cases found
      exact reads
    · rw [given_eq_none.mpr unset] at found
      cases found

theorem override_of_unread (understands : Understands read texts v complaint) (base : α)
    {text : String} (gives : Gives lookup v text) (unread : ∀ a, ¬ texts a text) :
    override lookup v base read = .error (v.invalid (complaint text)) := by
  rw [override, given_eq_some.mpr gives]
  dsimp only
  cases came : read text with
  | ok a => exact absurd ((understands.ok gives.trim).mp came) (unread a)
  | error f => rw [understands.error gives.trim came]

theorem Chosen.readable (chosen : Chosen none lookup v texts base a) : Readable lookup v texts := by
  intro text here
  rcases chosen with ⟨⟨⟩⟩ | ⟨-, gives, reads⟩ | ⟨-, unset⟩
  · have same := given_eq_some.mpr gives
    rw [given_eq_some.mpr here] at same
    cases same
    exact ⟨a, reads⟩
  · have some := given_eq_some.mpr here
    rw [given_eq_none.mpr unset] at some
    cases some

theorem Readable.exists_chosen (readable : Readable lookup v texts) (base : α) :
    ∃ a, Chosen none lookup v texts base a := by
  cases found : given lookup v with
  | none => exact ⟨base, .base rfl (given_eq_none.mp found)⟩
  | some text =>
    have gives := given_eq_some.mp found
    obtain ⟨a, reads⟩ := readable text gives
    exact ⟨a, .given rfl gives reads⟩

/-- A flag takes the place of what there would be without it. -/
theorem Chosen.getD (flag : Option α) (chosen : Chosen none lookup v texts base a) :
    Chosen flag lookup v texts base (flag.getD a) := by
  cases flag with
  | some b => exact .flag rfl
  | none =>
    rcases chosen with ⟨⟨⟩⟩ | ⟨-, gives, reads⟩ | ⟨-, unset⟩
    · exact .given rfl gives reads
    · exact .base rfl unset

/-- What is chosen is decided by the flag, the variable and the base. -/
theorem Chosen.unique (understands : Understands read texts v complaint) {flag : Option α}
    (chosen : Chosen none lookup v texts base a) (flagged : Chosen flag lookup v texts base b) :
    b = flag.getD a := by
  cases flag with
  | some c =>
    rcases flagged with ⟨⟨⟩⟩ | ⟨⟨⟩⟩ | ⟨⟨⟩⟩
    rfl
  | none =>
    have here := (override_eq_ok understands).mpr chosen
    rw [(override_eq_ok understands).mpr flagged] at here
    cases here
    rfl

end Chosen

/-- What overrides variables. -/
structure Overrides where
  baseUrl : Option String := none
  csrfToken : Option String := none
  patternMode : Option PatternMode := none

/-- Settings in which each setting is chosen among what overrides the variables, its variable, and
the base. A time limit, a width and a log have no flag, and paths have no variable either. -/
structure Layered (above : Overrides) (lookup : String → Option String) (base s : Settings) :
    Prop where
  baseUrl : Chosen above.baseUrl lookup .baseUrl (fun url text => url = text) base.baseUrl s.baseUrl
  csrfToken : Chosen (above.csrfToken.map some) lookup .csrfToken
    (fun token text => token = some text) base.csrfToken s.csrfToken
  timeoutMs : Chosen none lookup .timeoutMs TimeText base.timeoutMs s.timeoutMs
  patternMode : Chosen above.patternMode lookup .patternMode ModeText base.patternMode s.patternMode
  listWidthPad : Chosen none lookup .listWidthPad WidthText base.listWidthPad s.listWidthPad
  logPath : Chosen none lookup .logFile (fun path text => path = some text) base.logPath s.logPath
  paths : s.paths = base.paths

/-- The variables whose texts may have no value all have one, if they are not blank. -/
structure AllReadable (lookup : String → Option String) : Prop where
  time : Readable lookup .timeoutMs TimeText
  mode : Readable lookup .patternMode ModeText
  width : Readable lookup .listWidthPad WidthText

/-- Why settings are not valid. -/
inductive Fault (s : Settings) : String → Prop
  | base (offline : ¬ OnWeb (Text.trim s.baseUrl)) :
      Fault s ("base_url must be an http(s) URL: " ++ Text.trim s.baseUrl)
  | time (web : OnWeb (Text.trim s.baseUrl)) (none : s.timeoutMs = 0) :
      Fault s "timeout_ms must be greater than zero"

/-- Why settings under an environment are rejected: the first reason in the order time limit, mode,
width, base URL, no time. -/
inductive Offence (lookup : String → Option String) (base : Settings) : String → Prop
  | time {text : String} (gives : Gives lookup .timeoutMs text) (unread : ∀ n, ¬ TimeText n text) :
      Offence lookup base ("invalid GRUA_TIMEOUT_MS: " ++ text)
  | mode {text : String} (time : Readable lookup .timeoutMs TimeText)
      (gives : Gives lookup .patternMode text) (unread : ∀ mode, ¬ ModeText mode text) :
      Offence lookup base
        ("invalid GRUA_PATTERN_MODE: " ++ text.toLower ++ " (expected raw|literal)")
  | width {text : String} (time : Readable lookup .timeoutMs TimeText)
      (mode : Readable lookup .patternMode ModeText) (gives : Gives lookup .listWidthPad text)
      (unread : ∀ x, ¬ WidthText x text) :
      Offence lookup base ("invalid GRUA_LIST_WIDTH_PAD: " ++ text)
  | fault {s : Settings} {reason : String} (layered : Layered {} lookup base s)
      (fault : Fault s reason) : Offence lookup base reason

theorem validate_eq_error {s : Settings} {f : Failure} :
    s.validate = .error f ↔ ∃ reason, Fault s reason ∧ f = .configuration reason := by
  by_cases base : OnWeb (Text.trim s.baseUrl)
  · rw [validate_of_onWeb base]
    by_cases time : s.timeoutMs = 0
    · rw [if_pos time]
      constructor
      · rintro ⟨⟩
        exact ⟨_, .time base time, rfl⟩
      · rintro ⟨_, offline | _, rfl⟩
        · exact absurd base offline
        · rfl
    · rw [if_neg time]
      refine iff_of_false nofun ?_
      rintro ⟨_, offline | ⟨-, none⟩, -⟩
      · exact offline base
      · exact time none
  · rw [validate_of_not_onWeb base]
    constructor
    · rintro ⟨⟩
      exact ⟨_, .base base, rfl⟩
    · rintro ⟨_, _ | web, rfl⟩
      · rfl
      · exact absurd web base

section Merge

variable {base s : Settings}

/-- The settings of the variables over those of a base, with these readings. -/
def merge (lookup : String → Option String) (base : Settings) (timeoutMs : Nat)
    (patternMode : PatternMode) (listWidthPad : Binary) : Settings where
  baseUrl := (given lookup .baseUrl).getD base.baseUrl
  csrfToken := (given lookup .csrfToken).or base.csrfToken
  timeoutMs := timeoutMs
  patternMode := patternMode
  listWidthPad := listWidthPad
  logPath := (given lookup .logFile).or base.logPath
  paths := base.paths

theorem chosen_getD {base : String} :
    Chosen none lookup v (fun url text => url = text) base ((given lookup v).getD base) := by
  cases found : given lookup v with
  | none => exact .base rfl (given_eq_none.mp found)
  | some text => exact .given rfl (given_eq_some.mp found) rfl

theorem chosen_or {base : Option String} :
    Chosen none lookup v (fun token text => token = some text) base ((given lookup v).or base) := by
  cases found : given lookup v with
  | none => exact .base rfl (given_eq_none.mp found)
  | some text => exact .given rfl (given_eq_some.mp found) rfl

theorem layered_merge {n : Nat} {mode : PatternMode} {x : Binary}
    (time : Chosen none lookup .timeoutMs TimeText base.timeoutMs n)
    (pattern : Chosen none lookup .patternMode ModeText base.patternMode mode)
    (width : Chosen none lookup .listWidthPad WidthText base.listWidthPad x) :
    Layered {} lookup base (merge lookup base n mode x) :=
  ⟨chosen_getD, chosen_or, time, pattern, width, chosen_or, rfl⟩

theorem understands_text (v : Variable) :
    Understands (.ok : String → Except Failure String) (fun a text => a = text) v id where
  ok _ := by rw [Except.ok.injEq, eq_comm]
  error _ failed := nomatch failed

theorem understands_some (v : Variable) :
    Understands (fun text => .ok (some text) : String → Except Failure (Option String))
      (fun a text => a = some text) v id where
  ok _ := by rw [Except.ok.injEq, eq_comm]
  error _ failed := nomatch failed

theorem Layered.unique {above : Overrides} {t : Settings} (layered : Layered {} lookup base s)
    (flagged : Layered above lookup base t) :
    t = { s with
      baseUrl := above.baseUrl.getD s.baseUrl
      csrfToken := above.csrfToken.or s.csrfToken
      patternMode := above.patternMode.getD s.patternMode } := by
  have baseUrl := layered.baseUrl.unique (understands_text .baseUrl) flagged.baseUrl
  have csrfToken := layered.csrfToken.unique (understands_some .csrfToken) flagged.csrfToken
  have timeoutMs := layered.timeoutMs.unique understands_time flagged.timeoutMs
  have patternMode := layered.patternMode.unique understands_mode flagged.patternMode
  have listWidthPad := layered.listWidthPad.unique understands_width flagged.listWidthPad
  have logPath := layered.logPath.unique (understands_some .logFile) flagged.logPath
  have paths := flagged.paths.trans layered.paths.symm
  have token : (above.csrfToken.map some).getD s.csrfToken = above.csrfToken.or s.csrfToken := by
    cases above.csrfToken <;> rfl
  rw [token] at csrfToken
  cases t
  congr

theorem Layered.readable (layered : Layered {} lookup base s) : AllReadable lookup :=
  ⟨layered.timeoutMs.readable, layered.patternMode.readable, layered.listWidthPad.readable⟩

/-- Without flags there is one result at most. -/
theorem Layered.eq {t : Settings} (layered : Layered {} lookup base s)
    (other : Layered {} lookup base t) : t = s := layered.unique other

theorem withEnvironment_of_readable (base : Settings) (readable : AllReadable lookup) :
    ∃ s, Layered {} lookup base s ∧ base.withEnvironment lookup = s.validate.map fun _ => s := by
  obtain ⟨n, time⟩ := readable.time.exists_chosen base.timeoutMs
  obtain ⟨mode, pattern⟩ := readable.mode.exists_chosen base.patternMode
  obtain ⟨x, width⟩ := readable.width.exists_chosen base.listWidthPad
  refine ⟨_, layered_merge time pattern width, ?_⟩
  rw [withEnvironment, (override_eq_ok understands_time).mpr time]
  dsimp only [bind, Except.bind]
  rw [(override_eq_ok understands_mode).mpr pattern]
  dsimp only
  rw [(override_eq_ok understands_width).mpr width]
  -- Both sides look at the same validation, which is not evaluated.
  unfold merge
  dsimp only
  split
  · next failed =>
    rw [failed]
    rfl
  · next passed =>
    rw [passed]
    rfl

theorem withEnvironment_of_offence {reason : String} (offence : Offence lookup base reason) :
    base.withEnvironment lookup = .error (.configuration reason) := by
  -- A variable fails where those before it were read.
  cases offence with
  | time gives unread =>
    rw [withEnvironment, override_of_unread understands_time base.timeoutMs gives unread]
    rfl
  | mode time gives unread =>
    obtain ⟨n, read⟩ := time.exists_chosen base.timeoutMs
    rw [withEnvironment, (override_eq_ok understands_time).mpr read]
    dsimp only [bind, Except.bind]
    rw [override_of_unread understands_mode base.patternMode gives unread]
    rw [Variable.invalid, ← String.append_assoc]
    rfl
  | width time mode gives unread =>
    obtain ⟨n, read⟩ := time.exists_chosen base.timeoutMs
    obtain ⟨m, pattern⟩ := mode.exists_chosen base.patternMode
    rw [withEnvironment, (override_eq_ok understands_time).mpr read]
    dsimp only [bind, Except.bind]
    rw [(override_eq_ok understands_mode).mpr pattern]
    dsimp only
    rw [override_of_unread understands_width base.listWidthPad gives unread]
    rfl
  | fault layered fault =>
    obtain ⟨t, other, came⟩ := withEnvironment_of_readable base layered.readable
    rw [came, layered.eq other, validate_eq_error.mpr ⟨_, fault, rfl⟩]
    rfl

/-- A variable that has no value offends, if no variable before it does. -/
theorem exists_offence (base : Settings) (unreadable : ¬ AllReadable lookup) :
    ∃ reason, Offence lookup base reason := by
  by_cases time : Readable lookup .timeoutMs TimeText
  · by_cases mode : Readable lookup .patternMode ModeText
    · have width : ¬ Readable lookup .listWidthPad WidthText :=
        fun width => unreadable ⟨time, mode, width⟩
      obtain ⟨text, gives, unread⟩ := by simpa only [Readable, not_forall] using width
      exact ⟨_, .width time mode gives fun x reads => unread ⟨x, reads⟩⟩
    · obtain ⟨text, gives, unread⟩ := by simpa only [Readable, not_forall] using mode
      exact ⟨_, .mode time gives fun x reads => unread ⟨x, reads⟩⟩
  · obtain ⟨text, gives, unread⟩ := by simpa only [Readable, not_forall] using time
    exact ⟨_, .time gives fun x reads => unread ⟨x, reads⟩⟩

theorem withEnvironment_eq_ok :
    base.withEnvironment lookup = .ok s ↔ Layered {} lookup base s ∧ s.Valid := by
  by_cases readable : AllReadable lookup
  · obtain ⟨t, layered, came⟩ := withEnvironment_of_readable base readable
    rw [came]
    constructor
    · intro passed
      cases valid : t.validate with
      | ok _ =>
        rw [valid] at passed
        cases passed
        exact ⟨layered, validate_eq_ok.mp valid⟩
      | error f =>
        rw [valid] at passed
        cases passed
    · intro ⟨other, valid⟩
      rw [← layered.eq other, validate_eq_ok.mpr valid]
      rfl
  · obtain ⟨reason, offence⟩ := exists_offence base readable
    rw [withEnvironment_of_offence offence]
    exact iff_of_false nofun fun ⟨layered, _⟩ => readable layered.readable

theorem withEnvironment_eq_error {f : Failure} :
    base.withEnvironment lookup = .error f ↔
      ∃ reason, Offence lookup base reason ∧ f = .configuration reason := by
  constructor
  · intro failed
    by_cases readable : AllReadable lookup
    · obtain ⟨t, layered, came⟩ := withEnvironment_of_readable base readable
      rw [came] at failed
      cases valid : t.validate with
      | ok _ =>
        rw [valid] at failed
        cases failed
      | error g =>
        rw [valid] at failed
        cases failed
        obtain ⟨reason, fault, rfl⟩ := validate_eq_error.mp valid
        exact ⟨reason, .fault layered fault, rfl⟩
    · obtain ⟨reason, offence⟩ := exists_offence base readable
      rw [withEnvironment_of_offence offence] at failed
      cases failed
      exact ⟨reason, offence, rfl⟩
  · rintro ⟨reason, offence, rfl⟩
    exact withEnvironment_of_offence offence

end Merge

end NodeGroups.Settings
