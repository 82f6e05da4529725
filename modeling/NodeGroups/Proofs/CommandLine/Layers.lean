import NodeGroups.CommandLine.Layers
import NodeGroups.Proofs.Settings.Environment

set_option autoImplicit false

namespace NodeGroups

open Settings (AllReadable Fault Layered Offence Overrides Valid)

namespace CommandLine.Flags

variable {flags : Flags} {lookup : String → Option String} {base e s : Settings}

def overrides (flags : Flags) : Overrides where
  baseUrl := flags.baseUrl
  csrfToken := flags.csrfToken
  patternMode := if flags.rawPatterns then some .raw else none

/-- The settings of the environment over a base, with the flags over them. -/
def layered (flags : Flags) (base : Settings) (lookup : String → Option String) :
    Except Trace Settings := do
  flags.apply (← noted flags.loadingNote (base.withEnvironment lookup))

theorem settings_of_base {around : Surroundings} (file : flags.base around.file = .ok base) :
    flags.settings around = flags.layered base around.environment := by
  rw [settings, loaded, file]
  rfl

theorem layered_overrides_iff (alone : Layered {} lookup base e) :
    Layered flags.overrides lookup base s ↔ s = flags.override e := by
  have overridden : flags.override e = { e with
      baseUrl := flags.overrides.baseUrl.getD e.baseUrl
      csrfToken := flags.overrides.csrfToken.or e.csrfToken
      patternMode := flags.overrides.patternMode.getD e.patternMode } := by
    unfold override overrides
    cases flags.rawPatterns <;> rfl
  rw [overridden]
  constructor
  · exact alone.unique
  · rintro rfl
    have token : flags.overrides.csrfToken.or e.csrfToken =
        (flags.overrides.csrfToken.map some).getD e.csrfToken := by
      cases flags.overrides.csrfToken <;> rfl
    rw [token]
    exact ⟨alone.baseUrl.getD _, alone.csrfToken.getD _, alone.timeoutMs, alone.patternMode.getD _,
      alone.listWidthPad, alone.logPath, alone.paths⟩

theorem apply_of_ok (passed : (flags.override e).validate = .ok ()) :
    flags.apply e = .ok (flags.override e) := by
  rw [apply, passed]
  rfl

theorem apply_of_error {f : Failure} (failed : (flags.override e).validate = .error f) :
    flags.apply e = .error ⟨["invalid command-line flags"], some f⟩ := by
  rw [apply, failed]
  rfl

theorem apply_eq_ok : flags.apply e = .ok s ↔ (flags.override e).Valid ∧ s = flags.override e := by
  cases came : (flags.override e).validate with
  | ok _ =>
    rw [apply_of_ok came, Except.ok.injEq, eq_comm]
    exact (and_iff_right (Settings.validate_eq_ok.mp came)).symm
  | error f =>
    rw [apply_of_error came]
    refine iff_of_false nofun fun ⟨valid, _⟩ => ?_
    rw [Settings.validate_eq_ok.mpr valid] at came
    cases came

theorem apply_eq_error {t : Trace} : flags.apply e = .error t ↔
    ∃ reason, Fault (flags.override e) reason ∧
      t = ⟨["invalid command-line flags"], some (.configuration reason)⟩ := by
  cases came : (flags.override e).validate with
  | ok _ =>
    rw [apply_of_ok came]
    refine iff_of_false nofun fun ⟨reason, fault, _⟩ => ?_
    rw [Settings.validate_eq_error.mpr ⟨reason, fault, rfl⟩] at came
    cases came
  | error f =>
    rw [apply_of_error came, Except.error.injEq]
    obtain ⟨reason, fault, rfl⟩ := Settings.validate_eq_error.mp came
    constructor
    · intro same
      exact ⟨reason, fault, same.symm⟩
    · rintro ⟨other, another, same⟩
      rw [Settings.validate_eq_error.mpr ⟨other, another, rfl⟩, Except.error.injEq] at came
      rw [same, came]

theorem layered_of_ok (came : base.withEnvironment lookup = .ok e) :
    flags.layered base lookup = flags.apply e := by
  rw [layered, came]
  exact pure_bind e flags.apply

theorem layered_of_error {f : Failure} (came : base.withEnvironment lookup = .error f) :
    flags.layered base lookup = .error ⟨[flags.loadingNote], some f⟩ := by
  rw [layered, came]
  rfl

theorem layered_eq_ok : flags.layered base lookup = .ok s ↔
    ∃ e, Layered {} lookup base e ∧ e.Valid ∧ Layered flags.overrides lookup base s ∧ s.Valid := by
  -- The environment makes one `e` of the base at most, so the flags stand over that one.
  cases came : base.withEnvironment lookup with
  | ok e =>
    obtain ⟨alone, valid⟩ := Settings.withEnvironment_eq_ok.mp came
    rw [layered_of_ok came, apply_eq_ok]
    constructor
    · rintro ⟨after, rfl⟩
      exact ⟨e, alone, valid, (layered_overrides_iff alone).mpr rfl, after⟩
    · rintro ⟨-, -, -, above, after⟩
      obtain rfl := (layered_overrides_iff alone).mp above
      exact ⟨after, rfl⟩
  | error f =>
    rw [layered_of_error came]
    refine iff_of_false nofun fun ⟨e, alone, valid, _⟩ => ?_
    rw [Settings.withEnvironment_eq_ok.mpr ⟨alone, valid⟩] at came
    cases came

theorem layered_eq_error {t : Trace} : flags.layered base lookup = .error t ↔
    (∃ reason, Offence lookup base reason ∧
      t = ⟨[flags.loadingNote], some (.configuration reason)⟩) ∨
    ∃ e s reason, Layered {} lookup base e ∧ e.Valid ∧ Layered flags.overrides lookup base s ∧
      Fault s reason ∧ t = ⟨["invalid command-line flags"], some (.configuration reason)⟩ := by
  cases came : base.withEnvironment lookup with
  | ok e =>
    obtain ⟨alone, valid⟩ := Settings.withEnvironment_eq_ok.mp came
    rw [layered_of_ok came, apply_eq_error]
    constructor
    · intro ⟨reason, fault, told⟩
      exact .inr ⟨e, _, reason, alone, valid, (layered_overrides_iff alone).mpr rfl, fault, told⟩
    · rintro (⟨reason, offence, -⟩ | ⟨-, s, reason, -, -, above, fault, told⟩)
      · rw [Settings.withEnvironment_of_offence offence] at came
        cases came
      · obtain rfl := (layered_overrides_iff alone).mp above
        exact ⟨reason, fault, told⟩
  | error f =>
    rw [layered_of_error came, Except.error.injEq]
    obtain ⟨reason, offence, rfl⟩ := Settings.withEnvironment_eq_error.mp came
    constructor
    · intro told
      exact .inl ⟨reason, offence, told.symm⟩
    · rintro (⟨other, another, told⟩ | ⟨e, -, -, alone, valid, -⟩)
      · rw [Settings.withEnvironment_of_offence another, Except.error.injEq] at came
        rw [told, came]
      · rw [Settings.withEnvironment_eq_ok.mpr ⟨alone, valid⟩] at came
        cases came

/-- The environment over a base and the flags over both make settings just if every variable that
is not blank has a value, and the result is valid with the environment alone and with the flags as
well. Then the base URL, the token and the mode are those of the flags, if given, or else of their
variables, if not blank, or else of the base; the time limit, the width and the log are those of
their variables, if not blank, or else of the base; the paths are those of the base; and all of it
is valid. Otherwise what is told is the first reason against the environment, in the order time
limit, mode, width, base URL, no time, and if there is none, the reason against the settings with
the flags. A run whose file gives the base goes the same way. -/
theorem layers_decide (flags : Flags) (base : Settings) (lookup : String → Option String) :
    ((∃ s, flags.layered base lookup = .ok s) ↔ AllReadable lookup ∧
      (∀ e, Layered {} lookup base e → e.Valid) ∧
      ∀ s, Layered flags.overrides lookup base s → s.Valid) ∧
    (∀ s, flags.layered base lookup = .ok s → Layered flags.overrides lookup base s ∧ s.Valid) ∧
    (∀ t, flags.layered base lookup = .error t ↔
      (∃ reason, Offence lookup base reason ∧
        t = ⟨[flags.loadingNote], some (.configuration reason)⟩) ∨
      ∃ e s reason, Layered {} lookup base e ∧ e.Valid ∧ Layered flags.overrides lookup base s ∧
        Fault s reason ∧ t = ⟨["invalid command-line flags"], some (.configuration reason)⟩) ∧
    ∀ around : Surroundings, flags.base around.file = .ok base → around.environment = lookup →
      flags.settings around = flags.layered base lookup := by
  refine ⟨⟨?_, ?_⟩, ?_, fun t => layered_eq_error, ?_⟩
  · intro ⟨s, passed⟩
    obtain ⟨e, alone, before, above, after⟩ := layered_eq_ok.mp passed
    refine ⟨alone.readable, fun t other => ?_, fun t other => ?_⟩
    · rw [alone.eq other]
      exact before
    · have same : t = s := ((layered_overrides_iff alone).mp other).trans
        ((layered_overrides_iff alone).mp above).symm
      rw [same]
      exact after
  · intro ⟨readable, before, after⟩
    obtain ⟨e, alone, -⟩ := Settings.withEnvironment_of_readable base readable
    have above : Layered flags.overrides lookup base (flags.override e) :=
      (layered_overrides_iff alone).mpr rfl
    exact ⟨_, layered_eq_ok.mpr ⟨e, alone, before e alone, above, after _ above⟩⟩
  · intro s passed
    obtain ⟨e, -, -, above, after⟩ := layered_eq_ok.mp passed
    exact ⟨above, after⟩
  · rintro around file rfl
    exact settings_of_base file

/-- A flag over the environment, with one variable that is blank and two that have blanks around
their texts; and two variables without a value, of which the first is told. -/
theorem layers_decide_flagged :
    let flags : Flags := ⟨none, some "https://b/", none, false⟩
    let lookup (pairs : List (String × String)) (name : String) := pairs.lookup name
    let good := lookup [("GRUA_TIMEOUT_MS", " +5 "), ("GRUA_CSRF_TOKEN", "t\t"),
      ("GRUA_PATTERN_MODE", " ")]
    let bad := lookup [("GRUA_LIST_WIDTH_PAD", "wide"), ("GRUA_PATTERN_MODE", "Exact")]
    let merged : Settings := { baseUrl := "https://b/", csrfToken := some "t", timeoutMs := 5 }
    flags.settings ⟨fun _ => .error .toml, good⟩ = .ok merged ∧
      Layered flags.overrides good {} merged ∧ merged.Valid ∧
      (∃ reason, Offence bad {} reason ∧
        reason = "invalid GRUA_PATTERN_MODE: exact (expected raw|literal)") := by
  intro flags lookup good bad merged
  have passed : flags.layered {} good = .ok merged := by decide +kernel
  have failed : flags.layered {} bad = .error ⟨["failed to load configuration"],
    some (.configuration "invalid GRUA_PATTERN_MODE: exact (expected raw|literal)")⟩ := by
    decide +kernel
  obtain ⟨-, made, -, runs⟩ := layers_decide flags {} good
  obtain ⟨-, -, told, -⟩ := layers_decide flags {} bad
  refine ⟨(runs _ rfl rfl).trans passed, (made merged passed).1, (made merged passed).2, ?_⟩
  rcases (told _).mp failed with ⟨reason, offence, same⟩ | ⟨e, s, reason, -, -, -, -, same⟩
  · have failure := congrArg Trace.failure same
    rw [Option.some_inj, Failure.configuration.injEq] at failure
    exact ⟨reason, offence, failure.symm⟩
  · have notes : ["failed to load configuration"] = ["invalid command-line flags"] :=
      congrArg Trace.notes same
    exact absurd notes (by decide)

end CommandLine.Flags

end NodeGroups
