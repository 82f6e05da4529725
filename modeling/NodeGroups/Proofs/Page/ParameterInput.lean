import Mathlib.Data.List.Induction
import NodeGroups.Page.ParameterInput

set_option autoImplicit false

namespace NodeGroups.Page

open Document (ParameterInfo)

namespace InputKind

/-- The texts that an input accepts: a number is made of digits, a float of digits and one dot at
most, and all other inputs take any text. -/
def Accepts : InputKind → String → Prop
  | .number, s => ∀ c ∈ s.toList, Text.isDigit c = true
  | .floatText, s => (∀ c ∈ s.toList, Text.isDigit c = true ∨ c = '.') ∧ s.toList.count '.' ≤ 1
  | .textArea, _ | .select, _ | .text, _ => True

theorem mem_keepDecimal {dotSeen : Bool} {cs : List Char} {c : Char}
    (member : c ∈ keepDecimal dotSeen cs) : Text.isDigit c = true ∨ c = '.' := by
  induction cs generalizing dotSeen with
  | nil => cases member
  | cons d cs ih =>
    rw [keepDecimal] at member
    split at member
    · rename_i digit
      rcases List.mem_cons.mp member with rfl | later
      · exact .inl digit
      · exact ih later
    · split at member
      · rename_i dot
        rcases List.mem_cons.mp member with rfl | later
        · exact .inr dot.1
        · exact ih later
      · exact ih member

/-- No dot is kept after the first one. -/
theorem count_keepDecimal (dotSeen : Bool) (cs : List Char) :
    (keepDecimal dotSeen cs).count '.' ≤ if dotSeen then 0 else 1 := by
  induction cs generalizing dotSeen with
  | nil => exact Nat.zero_le _
  | cons c cs ih =>
    rw [keepDecimal]
    split
    · rename_i digit
      have other : c ≠ '.' := by
        rintro rfl
        revert digit
        decide
      rw [List.count_cons_of_ne other]
      exact ih dotSeen
    · split
      · rename_i dot
        obtain ⟨rfl, first⟩ := dot
        have rest := ih true
        rw [if_pos rfl] at rest
        rw [List.count_cons_self, if_neg (by simpa using first)]
        omega
      · exact ih dotSeen

/-- What is left of a text is accepted. -/
theorem accepts_sanitize (kind : InputKind) (raw : String) : kind.Accepts (kind.sanitize raw) := by
  cases kind with
  | number =>
    intro c member
    rw [sanitize, String.toList_ofList] at member
    exact (List.mem_filter.mp member).2
  | floatText =>
    rw [sanitize, Accepts, String.toList_ofList]
    exact ⟨fun c => mem_keepDecimal, count_keepDecimal false raw.toList⟩
  | textArea => trivial
  | select => trivial
  | text => trivial

end InputKind

namespace ParameterInput

inductive Action
  | choose (name : String)
  | enter (raw : String)
  | take
  | free (name : String)

/-- The form after an action, and as it was if the action is refused. -/
def act (form : ParameterInput) : Action → ParameterInput
  | .choose name => (form.choose name).toOption.getD form
  | .enter raw => form.enter raw
  | .take => (form.take.toOption.map Prod.snd).getD form
  | .free name => form.free name

def after (form : ParameterInput) (actions : List Action) : ParameterInput :=
  actions.foldl act form

def cleared (form : ParameterInput) : ParameterInput :=
  { form with selected := none, field := none, value := "" }

/-- The form with a parameter chosen that is defined so. -/
def chosen (form : ParameterInput) (name : String) (info : ParameterInfo) : ParameterInput :=
  { form with
    selected := some name, field := some (fieldFor info).1, value := (fieldFor info).2 }

variable {form next : ParameterInput}

/-- A choice that is not refused clears the form, or it chooses the first parameter of a name, which
is available. -/
theorem choose_eq_ok {name : String} : form.choose name = .ok next ↔
    (name = "" ∧ next = form.cleared) ∨
      (name ≠ "" ∧ ∃ option, form.options.find? (fun o => o.info.name == name) = some option ∧
        option.disabled = false ∧ next = form.chosen name option.info) := by
  unfold choose
  by_cases blank : name = ""
  · rw [if_pos blank, or_iff_left fun named => named.1 blank, and_iff_right blank]
    rw [Except.ok.injEq]
    exact eq_comm
  · rw [if_neg blank, or_iff_right fun cleared => blank cleared.1, and_iff_right blank]
    cases form.options.find? fun o => o.info.name == name with
    | none => exact iff_of_false nofun fun ⟨_, found, _⟩ => nomatch found
    | some option =>
      dsimp only
      cases used : option.disabled with
      | true =>
        refine iff_of_false nofun ?_
        rintro ⟨_, ⟨⟩, available, -⟩
        rw [used] at available
        cases available
      | false =>
        refine ⟨fun done => ?_, ?_⟩
        · cases done
          exact ⟨option, rfl, used, rfl⟩
        · rintro ⟨_, ⟨⟩, -, rfl⟩
          rfl

/-- What is taken out of a form is what was chosen and entered there, and the form is left without
an entry. -/
theorem take_eq_ok {name value : String} : form.take = .ok ((name, value), next) ↔
    form.selected = some name ∧ form.value = value ∧ value ≠ "" ∧
      next = form.cleared.setDisabled name true := by
  unfold take
  cases form.selected with
  | none => exact iff_of_false nofun fun taken => nomatch taken.1
  | some selected =>
    cases entered : form.value != "" with
    | false =>
      refine iff_of_false nofun ?_
      rintro ⟨-, rfl, some, -⟩
      exact some (by simpa using entered)
    | true =>
      have some : form.value ≠ "" := bne_iff_ne.mp entered
      refine ⟨fun done => ?_, ?_⟩
      · cases done
        exact ⟨rfl, rfl, some, rfl⟩
      · rintro ⟨same, rfl, -, rfl⟩
        cases same
        rfl

/-- The form offers the parameters with these definitions, it shows the input of the one that is
chosen as the first of its name, and what is entered is accepted there. Without a choice nothing is
shown or entered. -/
structure Sound (infos : List ParameterInfo) (form : ParameterInput) : Prop where
  offered : form.options.map (·.info) = infos
  shown : ∀ name, form.selected = some name → ∃ info,
    infos.find? (fun i => i.name == name) = some info ∧ form.field = some (fieldFor info).1
  idle : form.selected = none → form.field = none ∧ form.value = ""
  accepted : ∀ field, form.field = some field → field.kind.Accepts form.value

/-- A parameter starts with a text that its input accepts. -/
theorem accepts_fieldFor (info : ParameterInfo) :
    (fieldFor info).1.kind.Accepts (fieldFor info).2 := by
  change (InputKind.ofKind info.type).Accepts (fieldFor info).2
  by_cases isSelect : InputKind.ofKind info.type = .select
  · rw [isSelect]
    trivial
  · have start : (fieldFor info).2 = (InputKind.ofKind info.type).sanitize info.initialText :=
      if_neg fun both => isSelect both.1
    rw [start]
    exact InputKind.accepts_sanitize _ _

section Sound

variable {infos : List ParameterInfo}

theorem sound_ofParameters (infos : List ParameterInfo) (used : List String) :
    (ofParameters infos used).Sound infos where
  offered := by simp [ofParameters, Function.comp_def]
  shown := fun _ selected => nomatch selected
  idle := fun _ => ⟨rfl, rfl⟩
  accepted := fun _ shown => nomatch shown

theorem Sound.cleared (sound : form.Sound infos) : form.cleared.Sound infos where
  offered := sound.offered
  shown := fun _ selected => nomatch selected
  idle := fun _ => ⟨rfl, rfl⟩
  accepted := fun _ shown => nomatch shown

theorem Sound.chosen (sound : form.Sound infos) {name : String} {option : ParameterChoice}
    (found : form.options.find? (fun o => o.info.name == name) = some option) :
    (form.chosen name option.info).Sound infos where
  offered := sound.offered
  shown := by
    rintro _ ⟨⟩
    refine ⟨option.info, ?_, rfl⟩
    rw [← sound.offered, List.find?_map, Function.comp_def, found]
    rfl
  idle := fun none => nomatch none
  accepted := by
    rintro _ ⟨⟩
    exact accepts_fieldFor option.info

theorem Sound.choose (sound : form.Sound infos) {name : String}
    (done : form.choose name = .ok next) : next.Sound infos := by
  rcases choose_eq_ok.mp done with ⟨-, rfl⟩ | ⟨-, option, found, -, rfl⟩
  · exact sound.cleared
  · exact sound.chosen found

theorem Sound.enter (sound : form.Sound infos) (raw : String) : (form.enter raw).Sound infos where
  offered := sound.offered
  shown := sound.shown
  idle := by
    intro unselected
    obtain ⟨none, -⟩ := sound.idle unselected
    refine ⟨none, ?_⟩
    rw [ParameterInput.enter, none]
  accepted := by
    intro field shown
    have old : form.field = some field := shown
    rw [ParameterInput.enter, old]
    exact field.kind.accepts_sanitize raw

theorem Sound.setDisabled (sound : form.Sound infos) (name : String) (disabled : Bool) :
    (form.setDisabled name disabled).Sound infos where
  offered := by
    rw [← sound.offered, ParameterInput.setDisabled, List.map_map]
    refine List.map_congr_left fun o _ => ?_
    dsimp only [Function.comp_apply]
    split <;> rfl
  shown := sound.shown
  idle := sound.idle
  accepted := sound.accepted

theorem Sound.act (sound : form.Sound infos) (a : Action) : (form.act a).Sound infos := by
  cases a with
  | choose name =>
    rw [ParameterInput.act]
    cases done : form.choose name with
    | error failure => exact sound
    | ok next => exact sound.choose done
  | enter raw => exact sound.enter raw
  | take =>
    rw [ParameterInput.act]
    cases done : form.take with
    | error failure => exact sound
    | ok taken =>
      obtain ⟨⟨name, value⟩, next⟩ := taken
      obtain ⟨-, -, -, rfl⟩ := take_eq_ok.mp done
      exact sound.cleared.setDisabled name true
  | free name => exact sound.setDisabled name false

theorem sound_after (infos : List ParameterInfo) (used : List String) (actions : List Action) :
    ((ofParameters infos used).after actions).Sound infos := by
  induction actions using List.reverseRecOn with
  | nil => exact sound_ofParameters infos used
  | append_singleton actions a ih =>
    rw [after, List.foldl_append]
    exact ih.act a

end Sound

/-- Whatever is done to a new form, it shows an input just if a parameter is chosen, the one for the
type of the first parameter of that name; nothing is entered while none is chosen, and what is
entered is accepted by the input. An entry can be taken just if a parameter is chosen and its value
is not empty; it is this parameter with this value, and then none is chosen any more. -/
theorem entries_well_formed (infos : List ParameterInfo) (used : List String)
    (actions : List Action) :
    let form := (ofParameters infos used).after actions
    (form.field.isSome = true ↔ form.selected.isSome = true) ∧
      (∀ name, form.selected = some name → ∃ info field,
        infos.find? (fun i => i.name == name) = some info ∧ form.field = some field ∧
          field.kind = InputKind.ofKind info.type) ∧
      (form.selected = none → form.value = "") ∧
      (∀ field, form.field = some field → field.kind.Accepts form.value) ∧
      (∀ name value, (∃ next, form.take = .ok ((name, value), next)) ↔
        form.selected = some name ∧ form.value = value ∧ value ≠ "") ∧
      ∀ entry next, form.take = .ok (entry, next) →
        next.selected = none ∧ next.field = none ∧ next.value = "" := by
  intro form
  have sound : form.Sound infos := sound_after infos used actions
  refine ⟨?_, fun name selected => ?_, fun unselected => (sound.idle unselected).2, sound.accepted,
    fun name value => ?_, fun entry next taken => ?_⟩
  · cases selected : form.selected with
    | none =>
      rw [(sound.idle selected).1]
      exact .rfl
    | some name =>
      obtain ⟨info, -, shown⟩ := sound.shown name selected
      rw [shown]
      exact iff_of_true rfl rfl
  · obtain ⟨info, first, shown⟩ := sound.shown name selected
    exact ⟨info, _, first, shown, rfl⟩
  · simp only [take_eq_ok, exists_and_left, exists_eq, and_true]
  · obtain ⟨-, -, -, rfl⟩ := take_eq_ok.mp taken
    exact ⟨rfl, rfl, rfl⟩

/-- A default that is cut down to a decimal, after a number was typed and taken. -/
theorem entries_well_formed_typed :
    let port : ParameterInfo := ⟨none, "port", "INTEGER", some "-4 cores", .null⟩
    let ratio : ParameterInfo := ⟨none, "ratio", "Float", some "v1.2.3", .null⟩
    let form := (ofParameters [port, ratio] ["unknown"]).after
      [.choose "port", .enter "8a0", .take, .choose "port", .choose "ratio", .free "port"]
    form.selected = some "ratio" ∧
      (∃ info field, [port, ratio].find? (fun i => i.name == "ratio") = some info ∧
        form.field = some field ∧ field.kind = InputKind.ofKind info.type) ∧
      InputKind.floatText.Accepts form.value ∧
      ∃ next, form.take = .ok (("ratio", "1.23"), next) ∧ next.selected = none := by
  intro port ratio form
  obtain ⟨-, shown, -, accepted, takes, leaves⟩ := entries_well_formed [port, ratio] ["unknown"]
    [.choose "port", .enter "8a0", .take, .choose "port", .choose "ratio", .free "port"]
  have selected : form.selected = some "ratio" := by decide +kernel
  have field : form.field = some ⟨.floatText, "Float", []⟩ := by decide +kernel
  obtain ⟨next, taken⟩ := (takes "ratio" "1.23").mpr ⟨selected, by decide +kernel, by decide⟩
  exact ⟨selected, shown "ratio" selected, accepted _ field, next, taken, (leaves _ next taken).1⟩

/-- The text that a select should start with: the default if that is a choice, and else the first
choice, if there is one. -/
def presetOf (info : ParameterInfo) : String :=
  match info.default with
  | some default => if default ∈ info.choices then default else info.choices.headD ""
  | none => info.choices.headD ""

/-- A choice before which there is another one. -/
def Behind (choice : String) (choices : List String) : Prop :=
  choice ∈ choices ∧ choices.head? ≠ some choice

theorem start_of_select {info : ParameterInfo} (isSelect : InputKind.ofKind info.type = .select) :
    (fieldFor info).2 =
      if info.initialText ∈ info.choices then info.initialText else info.choices.headD "" := by
  by_cases listed : info.initialText ∈ info.choices <;>
    simp [fieldFor, isSelect, listed, InputKind.sanitize]

/-- A text that is preferred to the first choice where it is a choice. -/
theorem preferred_eq_head_iff (choice : String) (choices : List String) :
    (if choice ∈ choices then choice else choices.headD "") = choices.headD "" ↔
      ¬ Behind choice choices := by
  cases choices with
  | nil => simp [Behind]
  | cons first others =>
    rw [Behind, List.head?_cons, List.headD_cons]
    by_cases listed : choice ∈ first :: others
    · rw [if_pos listed, and_iff_right listed]
      simp [eq_comm]
    · rw [if_neg listed]
      simp [listed]

/-- Among choices with `0`, the empty text or else the first choice is `0` just if `0` comes first
and the empty text is no choice. -/
theorem preferred_empty_eq_zero_iff {choices : List String} (listed : "0" ∈ choices) :
    (if "" ∈ choices then "" else choices.headD "") = "0" ↔
      ¬ (Behind "0" choices ∨ Behind "" choices) := by
  cases choices with
  | nil => cases listed
  | cons first others =>
    by_cases blank : "" ∈ first :: others
    · -- One of the two texts has to stand behind the other.
      rw [if_pos blank]
      refine iff_of_false (by decide) fun ahead => ?_
      have zero : first = "0" := Decidable.byContradiction fun other =>
        ahead (.inl ⟨listed, fun same => other (Option.some.inj same)⟩)
      exact ahead (.inr ⟨blank, by simp [zero]⟩)
    · simp [Behind, listed, blank]

/-- A missing default and the default `0` are taken for the empty text. -/
theorem initialText_of_absent {info : ParameterInfo}
    (absent : info.default = none ∨ info.default = some "0") : info.initialText = "" := by
  rw [ParameterInfo.initialText]
  rcases absent with default | default <;> rw [default]
  rfl

theorem start_eq_presetOf_iff {info : ParameterInfo}
    (isSelect : InputKind.ofKind info.type = .select) :
    (fieldFor info).2 = presetOf info ↔
      ¬ (info.default = some "0" ∧ Behind "0" info.choices ∨
        (info.default = none ∨ info.default = some "0") ∧ Behind "" info.choices) := by
  rw [start_of_select isSelect]
  cases default : info.default with
  | none =>
    have text : info.initialText = "" := initialText_of_absent (.inl default)
    have preset : presetOf info = info.choices.headD "" := by rw [presetOf, default]
    simp only [text, preset, preferred_eq_head_iff]
    simp
  | some value =>
    have preset : presetOf info =
        if value ∈ info.choices then value else info.choices.headD "" := by
      rw [presetOf, default]
    by_cases zero : value = "0"
    · subst zero
      have text : info.initialText = "" := initialText_of_absent (.inr default)
      rw [preset]
      by_cases listed : "0" ∈ info.choices
      · simp only [text, if_pos listed, preferred_empty_eq_zero_iff listed]
        simp
      · simp only [text, if_neg listed, preferred_eq_head_iff]
        simp [Behind, listed]
    · have text : info.initialText = value := by
        rw [ParameterInfo.initialText, default]
        exact if_neg zero
      simp only [text, preset]
      simp [zero]

/-- A parameter that is a truth value or one of several values is chosen. Its select starts with the
default if that is a choice, and else with the first choice, unless the parameter has no default or
the default `0` and the empty text, or the default `0` itself, is a choice but not the first. It
then starts with the empty text if that is a choice, and else with the first choice. -/
theorem choose_starts_with_preset_iff {form next : ParameterInput} {name : String}
    {option : ParameterChoice} (named : name ≠ "")
    (first : form.options.find? (fun o => o.info.name == name) = some option)
    (isSelect : option.info.type = .boolean ∨ option.info.type = .enumeration)
    (done : form.choose name = .ok next) :
    let info := option.info
    (next.value = presetOf info ↔
      ¬ (info.default = some "0" ∧ Behind "0" info.choices ∨
        (info.default = none ∨ info.default = some "0") ∧ Behind "" info.choices)) ∧
      (next.value ≠ presetOf info →
        next.value = if "" ∈ info.choices then "" else info.choices.headD "") := by
  intro info
  have shows : next.value = (fieldFor info).2 := by
    rcases choose_eq_ok.mp done with ⟨blank, -⟩ | ⟨-, other, found, -, rfl⟩
    · exact absurd blank named
    · rw [first] at found
      cases found
      rfl
  have kind : InputKind.ofKind info.type = .select := by
    rcases isSelect with type | type <;> rw [type] <;> rfl
  rw [shows]
  refine ⟨start_eq_presetOf_iff kind, fun differs => ?_⟩
  have absent : info.default = none ∨ info.default = some "0" := by
    rcases not_not.mp (mt (start_eq_presetOf_iff kind).mpr differs) with ⟨zero, -⟩ | ⟨absent, -⟩
    · exact .inr zero
    · exact absent
  rw [start_of_select kind]
  simp only [initialText_of_absent absent]

/-- A default that is the second choice, and an empty text that is the second choice of a parameter
without a default. -/
theorem choose_starts_with_preset_iff_listed :
    let flag : ParameterInfo := ⟨none, "flag", " boolean", some "false", .string "true,false"⟩
    let mode : ParameterInfo := ⟨none, "mode", "Enum", none, .array [.string "a", .string ""]⟩
    let form := ofParameters [flag, mode] ["unknown"]
    (form.choose "flag" = .ok (form.chosen "flag" flag) ∧
        (form.chosen "flag" flag).value = presetOf flag ∧ presetOf flag = "false") ∧
      form.choose "mode" = .ok (form.chosen "mode" mode) ∧
        (form.chosen "mode" mode).value ≠ presetOf mode ∧ presetOf mode = "a" ∧
          (form.chosen "mode" mode).value = "" := by
  intro flag mode form
  have flagChosen : form.choose "flag" = .ok (form.chosen "flag" flag) :=
    choose_eq_ok.mpr (.inr ⟨by decide, ⟨flag, false⟩, by decide +kernel, rfl, rfl⟩)
  have modeChosen : form.choose "mode" = .ok (form.chosen "mode" mode) :=
    choose_eq_ok.mpr (.inr ⟨by decide, ⟨mode, false⟩, by decide +kernel, rfl, rfl⟩)
  obtain ⟨flagStart, -⟩ := choose_starts_with_preset_iff (by decide : "flag" ≠ "")
    (show form.options.find? (fun o => o.info.name == "flag") = some ⟨flag, false⟩ by
      decide +kernel) (.inl (by decide +kernel)) flagChosen
  obtain ⟨modeStart, modeEmpty⟩ := choose_starts_with_preset_iff (by decide : "mode" ≠ "")
    (show form.options.find? (fun o => o.info.name == "mode") = some ⟨mode, false⟩ by
      decide +kernel) (.inr (by decide +kernel)) modeChosen
  have passedOver : (form.chosen "mode" mode).value ≠ presetOf mode := fun starts =>
    modeStart.mp starts (.inr ⟨.inl rfl, by decide +kernel, by decide +kernel⟩)
  refine ⟨⟨flagChosen, flagStart.mpr ?_, by decide +kernel⟩, modeChosen, passedOver,
    by decide +kernel, ?_⟩
  · rintro (⟨zero, -⟩ | ⟨zero | zero, -⟩) <;> exact absurd zero (by decide)
  · rw [modeEmpty passedOver]
    decide +kernel

/-- A select does not start with its default `0`, which is the second choice, and without a default
it starts with the empty text, which is the second choice too. -/
theorem choose_passes_over_preset :
    let level : ParameterInfo :=
      ⟨none, "level", "Enum", some "0", .array [.string "1", .string "0"]⟩
    let mode : ParameterInfo := ⟨none, "mode", "Enum", none, .string "a,,b"⟩
    let form := ofParameters [level, mode] []
    level.choices = ["1", "0"] ∧ presetOf level = "0" ∧
      (form.choose "level").toOption.map (·.value) = some "1" ∧
      mode.choices = ["a", "", "b"] ∧ presetOf mode = "a" ∧
      (form.choose "mode").toOption.map (·.value) = some "" := by
  decide +kernel

end ParameterInput

end NodeGroups.Page
