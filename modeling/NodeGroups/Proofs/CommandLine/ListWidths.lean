import NodeGroups.Picker.Placement
import NodeGroups.Proofs.CommandLine.Layers
import NodeGroups.Proofs.Numeric.Rounding

set_option autoImplicit false

namespace NodeGroups

open Numeric (Binary Format binary32)
open Settings (Gives WidthText)

namespace Picker

/-- A measure by which lists can be wider than their inputs: it is finite and not below zero. -/
def FitPad (pad : Binary) : Prop := pad.isFinite = true ∧ pad.less .zero = false

/-- No list is narrower than its input. -/
def NeverNarrows (pad : Binary) : Prop :=
  ∀ box scroll, binary32.Has box.width →
    (Placement.below box scroll pad).width.less box.width = false

variable {pad : Binary}

/-- Lists are narrower than their inputs just where the measure is below zero. -/
theorem neverNarrows_iff (has : binary32.Has pad) : NeverNarrows pad ↔ pad.less .zero = false := by
  constructor
  · intro never
    by_contra negative
    obtain ⟨width, among, less⟩ :=
      Format.exists_add_less has (Bool.not_eq_false _ ▸ negative)
    have same := never ⟨.zero, .zero, width, .zero⟩ .zero among
    exact Bool.noConfusion (same.symm.trans less)
  · intro nonneg box scroll among
    exact Format.add_not_less (by decide) among nonneg

end Picker

namespace Settings

/-- The measure that a settings file gives. -/
def padInFile? (text : String) : Option Binary := do
  let members ← Toml.parse? text
  let value ← members.lookup "list_width_pad"
  value.single?

theorem pad_of_ofMembers? {members : List (String × Toml)} {s : Settings}
    (made : ofMembers? members = some s) :
    Toml.member members "list_width_pad" ({} : Settings).listWidthPad Toml.single? =
      some s.listWidthPad := by
  simp only [ofMembers?, Option.bind_eq_bind, Option.bind_eq_some_iff, Option.pure_def,
    Option.some_inj] at made
  obtain ⟨_, -, _, -, _, -, _, -, pad, read, _, -, _, -, rfl⟩ := made
  exact read

/-- A file gives settings if it has members of which all are read, and the result is valid. -/
theorem ofFile_eq_ok {text : String} {s : Settings} : ofFile text = .ok s ↔
    ∃ members, Toml.parse? text = some members ∧ ofMembers? members = some s ∧ s.Valid := by
  simp only [← and_assoc, exists_and_right, ← Option.bind_eq_some_iff, ← Option.bind_eq_bind]
  unfold ofFile
  cases Toml.parse? text >>= ofMembers? with
  | none => exact iff_of_false nofun nofun
  | some t =>
    rw [Option.some_inj, ← validate_eq_ok]
    dsimp only
    cases valid : t.validate with
    | error f =>
      refine iff_of_false nofun ?_
      rintro ⟨rfl, passed⟩
      rw [valid] at passed
      cases passed
    | ok _ =>
      constructor
      · rintro ⟨⟩
        exact ⟨rfl, valid⟩
      · rintro ⟨rfl, -⟩
        rfl

/-- The measure of settings that were read from a file is the one that the file gives, or 100. -/
theorem pad_of_ofFile {text : String} {s : Settings} (read : ofFile text = .ok s) :
    s.listWidthPad = (padInFile? text).getD (binary32.ofInt 100) := by
  obtain ⟨members, parsed, made, -⟩ := ofFile_eq_ok.mp read
  have pad := pad_of_ofMembers? made
  rw [padInFile?, parsed, Option.bind_eq_bind, Option.bind_some]
  unfold Toml.member at pad
  cases found : members.lookup "list_width_pad" with
  | none =>
    rw [found] at pad
    exact (Option.some.inj pad).symm
  | some v =>
    rw [found] at pad
    change v.single? = _ at pad
    rw [Option.bind_eq_bind, Option.bind_some, pad, Option.getD_some]

theorem has_padInFile? {text : String} {pad : Binary} (given : padInFile? text = some pad) :
    binary32.Has pad := by
  simp only [padInFile?, Option.bind_eq_bind, Option.bind_eq_some_iff] at given
  obtain ⟨_, -, v, -, read⟩ := given
  unfold Toml.single? at read
  split at read
  · cases read
    exact Format.has_ofInt (by decide) _
  · cases read
    exact Format.has_convert (by decide) _
  · cases read

/-- Settings that were read from a file have a measure of single precision. -/
theorem has_pad_of_ofFile {text : String} {s : Settings} (read : ofFile text = .ok s) :
    binary32.Has s.listWidthPad := by
  rw [pad_of_ofFile read]
  cases given : padInFile? text with
  | none => exact Format.has_ofInt (by decide) 100
  | some pad => exact has_padInFile? given

end Settings

namespace CommandLine

open Picker (FitPad NeverNarrows)

/-- What an environment variable gives is fit, and a measure of single precision. -/
theorem fitPad_of_widthText {pad : Binary} {text : String} (reads : WidthText pad text) :
    FitPad pad ∧ binary32.Has pad := by
  obtain ⟨d, -, rfl, finite, nonneg⟩ := reads
  exact ⟨⟨finite, Binary.not_less_zero nonneg⟩, Format.has_ofDecimal (by decide) _ _ _⟩

/-- The environment gives a fit measure, or none and leaves the measure. -/
theorem pad_of_withEnvironment {lookup : String → Option String} {s e : Settings}
    (merged : s.withEnvironment lookup = .ok e) :
    ((∃ t, Gives lookup .listWidthPad t) ∧ FitPad e.listWidthPad ∧ binary32.Has e.listWidthPad) ∨
      (¬ ∃ t, Gives lookup .listWidthPad t) ∧ e.listWidthPad = s.listWidthPad := by
  have chosen := (Settings.withEnvironment_eq_ok.mp merged).1.listWidthPad
  generalize e.listWidthPad = pad at chosen ⊢
  rcases chosen with ⟨⟨⟩⟩ | ⟨-, gives, reads⟩ | ⟨-, unset⟩
  · exact .inl ⟨⟨_, gives⟩, fitPad_of_widthText reads⟩
  · refine .inr ⟨?_, rfl⟩
    rintro ⟨t, raw, set, solid, -⟩
    rw [unset raw set] at solid
    cases solid

/-- The measure of settings that were read from a file is fit just if the file gives a fit one or
none. Over that, the measure with the environment is fit just if the environment gives one or that
of the file is fit, and flags leave it. In each of these cases no list is narrower than its input
just if the measure is not below zero. -/
theorem list_widths_fit_iff {text : String} {s : Settings} (read : Settings.ofFile text = .ok s) :
    (FitPad s.listWidthPad ↔ ∀ pad, Settings.padInFile? text = some pad → FitPad pad) ∧
    (NeverNarrows s.listWidthPad ↔ s.listWidthPad.less .zero = false) ∧
    ∀ lookup e, s.withEnvironment lookup = .ok e →
      (FitPad e.listWidthPad ↔ (∃ t, Gives lookup .listWidthPad t) ∨ FitPad s.listWidthPad) ∧
      (NeverNarrows e.listWidthPad ↔ e.listWidthPad.less .zero = false) ∧
      ∀ flags t, Flags.apply flags e = .ok t →
        (FitPad t.listWidthPad ↔ FitPad e.listWidthPad) ∧
        (NeverNarrows t.listWidthPad ↔ t.listWidthPad.less .zero = false) := by
  have has := Settings.has_pad_of_ofFile read
  refine ⟨?_, Picker.neverNarrows_iff has, fun lookup e merged => ?_⟩
  · rw [Settings.pad_of_ofFile read]
    cases given : Settings.padInFile? text with
    | none => exact iff_of_true ⟨rfl, by decide +kernel⟩ nofun
    | some pad => simp
  · have onward : (FitPad e.listWidthPad ↔
        (∃ t, Gives lookup .listWidthPad t) ∨ FitPad s.listWidthPad) ∧
          binary32.Has e.listWidthPad := by
      rcases pad_of_withEnvironment merged with ⟨gives, fit, among⟩ | ⟨unset, same⟩
      · exact ⟨iff_of_true fit (.inl gives), among⟩
      · rw [same, or_iff_right unset]
        exact ⟨Iff.rfl, has⟩
    refine ⟨onward.1, Picker.neverNarrows_iff onward.2, fun flags t applied => ?_⟩
    obtain ⟨-, rfl⟩ := Flags.apply_eq_ok.mp applied
    exact ⟨Iff.rfl, Picker.neverNarrows_iff onward.2⟩

/-- A file with a measure below zero, and an environment that gives a fit one. -/
theorem list_widths_fit_iff_overridden :
    let text := "list_width_pad = -50.0"
    let lookup := fun name => [("GRUA_LIST_WIDTH_PAD", " 8 ")].lookup name
    ∃ s e, Settings.ofFile text = .ok s ∧ s.withEnvironment lookup = .ok e ∧
      ¬ FitPad s.listWidthPad ∧ FitPad e.listWidthPad ∧ NeverNarrows e.listWidthPad := by
  intro text lookup
  have read : Settings.ofFile text = .ok { listWidthPad := binary32.ofInt (-50) } := by
    decide +kernel
  have merged : ({ listWidthPad := binary32.ofInt (-50) } : Settings).withEnvironment lookup =
      .ok { listWidthPad := binary32.ofInt 8 } := by decide +kernel
  obtain ⟨-, -, onward⟩ := list_widths_fit_iff read
  obtain ⟨fit, never, -⟩ := onward lookup _ merged
  refine ⟨_, _, read, merged, fun fit => ?_, fit.mpr (.inl ⟨"8", " 8 ", rfl, by decide, by decide⟩),
    never.mpr (by decide +kernel)⟩
  exact absurd fit.2 (by decide +kernel)

/-- A measure below zero in a file: it stays without variables and without flags, and a list is
narrower than its input. -/
theorem list_width_below_zero :
    ∃ s, Settings.ofFile "list_width_pad = -50.0" = .ok s ∧
      s.withEnvironment (fun _ => none) = .ok s ∧ Flags.apply ⟨none, none, none, false⟩ s = .ok s ∧
      ¬ FitPad s.listWidthPad ∧
      let width := binary32.ofInt 120
      let list := Picker.Placement.below ⟨.zero, .zero, width, .zero⟩ .zero s.listWidthPad
      list.width = binary32.ofInt 70 ∧ list.width.less width = true := by
  refine ⟨{ listWidthPad := binary32.ofInt (-50) }, by decide +kernel, by decide +kernel,
    by decide +kernel, fun fit => ?_, by decide +kernel, by decide +kernel⟩
  exact absurd fit.2 (by decide +kernel)

end CommandLine

end NodeGroups
