import GherkinLint.Proofs.Outcome
import GherkinLint.Project
import Mathlib

namespace GherkinLint

variable {α β : Type}

def Unreported (x : Except ConfigurationFault α) : Prop :=
  ∃ fault, x = .error fault ∧ fault.message = none

namespace Unreported

@[simp] theorem not_ok (a : α) : ¬Unreported (.ok a) := by
  rintro ⟨fault, h, -⟩
  cases h

@[simp] theorem error_iff {fault : ConfigurationFault} :
    Unreported (.error fault : Except ConfigurationFault α) ↔ fault.message = none := by
  constructor
  · rintro ⟨other, h, hmessage⟩
    cases h
    exact hmessage
  · intro hmessage
    exact ⟨fault, rfl, hmessage⟩

theorem bind_iff {x : Except ConfigurationFault α} {f : α → Except ConfigurationFault β} :
    Unreported (x >>= f) ↔ Unreported x ∨ ∃ a, x = .ok a ∧ Unreported (f a) := by
  constructor
  · rintro ⟨fault, h, hmessage⟩
    rcases bind_eq_error_iff.1 h with h | ⟨a, ha, h⟩
    · exact .inl ⟨fault, h, hmessage⟩
    · exact .inr ⟨a, ha, fault, h, hmessage⟩
  · rintro (⟨fault, h, hmessage⟩ | ⟨a, ha, fault, h, hmessage⟩)
    · exact ⟨fault, bind_eq_error_iff.2 (.inl h), hmessage⟩
    · exact ⟨fault, bind_eq_error_iff.2 (.inr ⟨a, ha, h⟩), hmessage⟩

section MapM

variable {f : α → Except ConfigurationFault β} {xs : List α}

theorem exists_of_mapM (h : Unreported (xs.mapM f)) : ∃ x ∈ xs, Unreported (f x) := by
  obtain ⟨fault, h, hmessage⟩ := h
  obtain ⟨before, x, after, rfl, -, hx⟩ := mapM_eq_error_iff.1 h
  exact ⟨x, List.mem_append_right before List.mem_cons_self, fault, hx, hmessage⟩

/-- Where no fault has a report, any fault is enough. -/
theorem mapM_iff (hfaults : ∀ x ∈ xs, ∀ fault, f x = .error fault → fault.message = none) :
    Unreported (xs.mapM f) ↔ ∃ x ∈ xs, Unreported (f x) := by
  refine ⟨exists_of_mapM, ?_⟩
  rintro ⟨other, hother, fault, hfault, -⟩
  cases h : xs.mapM f with
  | ok ys =>
    obtain ⟨y, hy⟩ := exists_of_mem_of_mapM h hother
    cases hy.symm.trans hfault
  | error first =>
    obtain ⟨before, x, after, rfl, -, hx⟩ := mapM_eq_error_iff.1 h
    have hmem : x ∈ before ++ x :: after := List.mem_append_right before List.mem_cons_self
    exact error_iff.2 (hfaults x hmem first hx)

end MapM

end Unreported

namespace Configuration

variable {names : Pattern.CharacterNames}

inductive FilesMisfit (names : Pattern.CharacterNames) : Data → Prop
  | kind {setting : Data} : setting.text? = none → FilesMisfit names setting
  | unusable {text : String} {fault : Pattern.Fault} :
      Pattern.ofText names text = .error fault → fault.cause.isInvalid = false →
      FilesMisfit names (.text text)

theorem unreported_patternOf_iff {text : String} :
    Unreported (patternOf names text) ↔ FilesMisfit names (.text text) := by
  unfold patternOf
  cases h : Pattern.ofText names text with
  | ok pattern =>
    refine iff_of_false (Unreported.not_ok _) ?_
    rintro (hkind | ⟨herror, -⟩)
    · cases hkind
    · cases h.symm.trans herror
  | error fault =>
    rw [Except.mapError, Unreported.error_iff]
    constructor
    · intro hmessage
      refine .unusable h ?_
      by_contra hinvalid
      rw [if_pos (by simpa using hinvalid)] at hmessage
      cases hmessage
    · rintro (hkind | ⟨herror, hinvalid⟩)
      · cases hkind
      · cases h.symm.trans herror
        rw [hinvalid]
        rfl

theorem tokens_defaultInclude :
    Pattern.tokens defaultInclude.toList =
      [.escape '.', .char 'f', .char 'e', .char 'a', .char 't', .char 'u', .char 'r', .char 'e',
        .char '$'] := by
  decide +kernel

theorem exists_default (names : Pattern.CharacterNames) :
    ∃ files, Pattern.ofText names defaultInclude = .ok files := by
  have hsome : (Pattern.ofText names defaultInclude).toOption.isSome = true := by
    rw [Pattern.ofText, tokens_defaultInclude]
    cbv
  cases h : Pattern.ofText names defaultInclude with
  | ok files => exact ⟨files, rfl⟩
  | error fault =>
    rw [h] at hsome
    cases hsome

theorem not_unreported_default : ¬Unreported (patternOf names defaultInclude) := by
  obtain ⟨files, hfiles⟩ := exists_default names
  rw [patternOf, hfiles]
  exact Unreported.not_ok _

theorem unreported_filesOf_iff {settings : Settings} :
    Unreported (filesOf names settings) ↔
      ∃ setting, settings.lookup "include" = some setting ∧ FilesMisfit names setting := by
  unfold filesOf
  cases settings.lookup "include" with
  | none => simpa using not_unreported_default
  | some setting =>
    simp only [Option.some.injEq, exists_eq_left']
    cases setting with
    | text text => exact unreported_patternOf_iff
    | null | bool | int | fraction | moment | list | object =>
      exact iff_of_true (Unreported.error_iff.2 rfl) (.kind rfl)

/-- Values that neither give rules severities nor make for a report: a list that names rules, or a
text that spells them, has no severities to give. -/
inductive RulesMisfit (table : RuleTable) : Data → Prop
  | null : RulesMisfit table .null
  | bool (b : Bool) : RulesMisfit table (.bool b)
  | int (n : Int) : RulesMisfit table (.int n)
  | fraction (written : String) : RulesMisfit table (.fraction written)
  | moment (shown written : String) : RulesMisfit table (.moment shown written)
  | item {items : List Data} {item : Data} :
      item ∈ items → item.text? = none → RulesMisfit table (.list items)
  | listed {items : List Data} :
      items ≠ [] → (∀ item ∈ items, ∃ rule ∈ table, item = .text rule.name) →
      RulesMisfit table (.list items)
  | spelled {text : String} {rule : Rule} :
      (∀ c ∈ text.toList, ∃ other ∈ table, other.name = c.toString) → rule ∈ table →
      Text.holds rule.name.toList text.toList = true → RulesMisfit table (.text text)

section Rules

variable {table : RuleTable} {setting : Data}

def Known (table : RuleTable) (name : String) : Prop := ∃ rule ∈ table, rule.name = name

theorem unreported_rulesOf_iff_or : Unreported (rulesOf table setting) ↔
    Unreported (namesIn setting) ∨
      ∃ names, namesIn setting = .ok names ∧ (∀ name ∈ names, Known table name) ∧
        Unreported (table.mapM (configure setting)) := by
  rw [rulesOf, Unreported.bind_iff]
  refine or_congr_right (exists_congr fun names ↦ and_congr_right fun _ ↦ ?_)
  dsimp only
  split
  next hunknown =>
    refine iff_of_false ?_ ?_
    · simp [Unreported, throw, throwThe, MonadExceptOf.throw, ConfigurationFault.message, bind,
        Except.bind]
    · rintro ⟨hknown, -⟩
      simp [Known] at hunknown hknown
      obtain ⟨name, hname, hno⟩ := hunknown
      obtain ⟨rule, hrule, heq⟩ := hknown name hname
      exact hno rule hrule heq
  next hknown =>
    have hknown : ∀ name ∈ names, Known table name := by simpa [Known] using hknown
    exact ⟨fun h ↦ ⟨hknown, h⟩, And.right⟩

theorem message_of_configure_error {rule : Rule} {fault : ConfigurationFault}
    (hsetting : ∀ members, setting ≠ .object members) (h : configure setting rule = .error fault) :
    fault.message = none := by
  unfold configure severityIn at h
  cases setting with
  | object members => exact absurd rfl (hsetting members)
  | null | bool | int | fraction | moment =>
    cases h
    rfl
  | list | text =>
    dsimp only at h
    split at h <;> cases h
    rfl

theorem mapM_text?_eq_some_iff {items : List Data} {names : List String} :
    items.mapM Data.text? = some names ↔ items = names.map .text := by
  induction items generalizing names with
  | nil =>
    cases names with
    | nil => exact iff_of_true rfl rfl
    | cons => exact iff_of_false (by simp) (by simp)
  | cons item items ih =>
    rw [List.mapM_cons]
    cases item with
    | text s =>
      change (items.mapM Data.text? >>= fun rest ↦ some (s :: rest)) = some names ↔ _
      cases names with
      | nil => cases items.mapM Data.text? <;> simp
      | cons name names =>
        rw [List.map_cons, List.cons.injEq, ← ih]
        cases items.mapM Data.text? <;> simp
    | null | bool | int | fraction | moment | list | object =>
      refine iff_of_false (by simp [Data.text?]) ?_
      cases names <;> simp

theorem mapM_text?_eq_none_iff {items : List Data} :
    items.mapM Data.text? = none ↔ ∃ item ∈ items, item.text? = none := by
  induction items with
  | nil => simp
  | cons item items ih =>
    rw [List.mapM_cons, List.exists_mem_cons_iff, ← ih]
    cases item.text? with
    | none => simp
    | some s => cases items.mapM Data.text? <;> simp

theorem unreported_namesIn_list_iff {items : List Data} :
    Unreported (namesIn (.list items)) ↔ ∃ item ∈ items, item.text? = none := by
  rw [namesIn, ← mapM_text?_eq_none_iff]
  cases items.mapM Data.text? <;> simp [ConfigurationFault.message]

theorem eq_of_namesIn_list {items : List Data} {names : List String}
    (h : namesIn (.list items) = .ok names) : items = names.map .text := by
  rw [namesIn] at h
  split at h
  next found hfound =>
    cases h
    exact mapM_text?_eq_some_iff.1 hfound
  next => cases h

theorem namesIn_list (names : List String) : namesIn (.list (names.map .text)) = .ok names := by
  rw [namesIn, mapM_text?_eq_some_iff.2 rfl]

theorem unreported_configure_list_iff {items : List Data} {rule : Rule} :
    Unreported (configure (.list items) rule) ↔ .text rule.name ∈ items := by
  have hany : (items.any fun item ↦ item.text? == some rule.name) = true ↔
      .text rule.name ∈ items := by
    rw [List.any_eq_true]
    constructor
    · rintro ⟨item, hitem, htext⟩
      cases item with
      | text s =>
        obtain rfl : s = rule.name := Option.some.inj (eq_of_beq htext)
        exact hitem
      | null | bool | int | fraction | moment | list | object => cases htext
    · intro h
      exact ⟨_, h, beq_self_eq_true _⟩
  rw [← hany, configure, Unreported.bind_iff]
  unfold severityIn
  dsimp only
  split <;> simp [*, ConfigurationFault.message, pure, Except.pure]

theorem unreported_rulesOf_list_iff {items : List Data} :
    Unreported (rulesOf table (.list items)) ↔ RulesMisfit table (.list items) := by
  rw [unreported_rulesOf_iff_or, unreported_namesIn_list_iff, Unreported.mapM_iff fun rule _ fault ↦
    message_of_configure_error (by simp)]
  simp only [unreported_configure_list_iff]
  constructor
  · rintro (⟨item, hitem, htext⟩ | ⟨names, hnames, hknown, rule, hrule, hmem⟩)
    · exact .item hitem htext
    · refine .listed (List.ne_nil_of_mem hmem) ?_
      rw [eq_of_namesIn_list hnames, List.forall_mem_map]
      intro name hname
      obtain ⟨rule, hrule, rfl⟩ := hknown name hname
      exact ⟨rule, hrule, rfl⟩
  · rintro (_ | _ | _ | _ | _ | ⟨hitem, htext⟩ | ⟨hne, hall⟩)
    · exact .inl ⟨_, hitem, htext⟩
    obtain ⟨names, rfl⟩ : ∃ names : List String, items = names.map .text := by
      obtain hmisfit | ⟨names, hnames⟩ := (items.mapM Data.text?).eq_none_or_eq_some
      · obtain ⟨item, hitem, htext⟩ := mapM_text?_eq_none_iff.1 hmisfit
        obtain ⟨rule, -, rfl⟩ := hall item hitem
        cases htext
      · exact ⟨names, mapM_text?_eq_some_iff.1 hnames⟩
    rw [List.forall_mem_map] at hall
    refine .inr ⟨names, namesIn_list names, ?_, ?_⟩
    · intro name hname
      obtain ⟨rule, hrule, heq⟩ := hall name hname
      cases heq
      exact ⟨rule, hrule, rfl⟩
    · obtain ⟨name, hname⟩ := List.exists_mem_of_ne_nil names (by simpa using hne)
      obtain ⟨rule, hrule, heq⟩ := hall name hname
      exact ⟨rule, hrule, heq ▸ List.mem_map_of_mem hname⟩

theorem unreported_rulesOf_text_iff {text : String} :
    Unreported (rulesOf table (.text text)) ↔ RulesMisfit table (.text text) := by
  have hconfigure (rule : Rule) : Unreported (configure (.text text) rule) ↔
      Text.holds rule.name.toList text.toList = true := by
    rw [configure, Unreported.bind_iff]
    unfold severityIn
    dsimp only
    split <;> simp [*, ConfigurationFault.message, pure, Except.pure]
  rw [unreported_rulesOf_iff_or, Unreported.mapM_iff fun rule _ fault ↦
    message_of_configure_error (by simp)]
  simp only [hconfigure, namesIn, Unreported.not_ok, Except.ok.injEq, exists_eq_left', false_or,
    List.forall_mem_map]
  constructor
  · rintro ⟨hknown, rule, hrule, hholds⟩
    exact .spelled hknown hrule hholds
  · rintro (_ | _ | _ | _ | _ | _ | _ | ⟨hknown, hrule, hholds⟩)
    exact ⟨hknown, _, hrule, hholds⟩

theorem not_unreported_rulesOf_object {members : Members Data} :
    ¬Unreported (rulesOf table (.object members)) := by
  rw [unreported_rulesOf_iff_or]
  rintro (h | ⟨names, -, -, h⟩)
  · exact Unreported.not_ok _ h
  obtain ⟨rule, -, h⟩ := Unreported.exists_of_mapM h
  rcases Unreported.bind_iff.1 h with h | ⟨chosen, -, h⟩
  · exact Unreported.not_ok _ h
  cases chosen with
  | none => exact Unreported.not_ok _ h
  | some severity =>
    dsimp only at h
    cases hupdate : rule.update severity with
    | ok updated =>
      rw [hupdate] at h
      exact Unreported.not_ok _ h
    | error e =>
      rw [hupdate, Except.mapError, Unreported.error_iff] at h
      cases h

theorem unreported_rulesOf_iff :
    Unreported (rulesOf table setting) ↔ RulesMisfit table setting := by
  cases setting with
  | list items => exact unreported_rulesOf_list_iff
  | text text => exact unreported_rulesOf_text_iff
  | object members =>
    refine iff_of_false not_unreported_rulesOf_object ?_
    rintro ⟨⟩
  | null => exact iff_of_true (Unreported.error_iff.2 rfl) .null
  | bool b => exact iff_of_true (Unreported.error_iff.2 rfl) (.bool b)
  | int n => exact iff_of_true (Unreported.error_iff.2 rfl) (.int n)
  | fraction written => exact iff_of_true (Unreported.error_iff.2 rfl) (.fraction written)
  | moment shown written => exact iff_of_true (Unreported.error_iff.2 rfl) (.moment shown written)

end Rules

def tableAt (key : String) (members : Members Data) : Data :=
  (members.lookup key).getD (.object [])

/-- Settings that end in a fault without a report. The rules are looked at only where the pattern of
the files is one. -/
inductive Misfit (names : Pattern.CharacterNames) (table : RuleTable) (settings : Settings) : Prop
  | files {setting : Data} :
      settings.lookup "include" = some setting → FilesMisfit names setting →
      Misfit names table settings
  | rules {files : Pattern} :
      filesOf names settings = .ok files → RulesMisfit table (tableAt "rules" settings) →
      Misfit names table settings

theorem unreported_ofSettings_iff {table : RuleTable} (name : String) {settings : Settings} :
    Unreported (ofSettings names table name (.object settings)) ↔ Misfit names table settings := by
  rw [ofSettings, Unreported.bind_iff, unreported_filesOf_iff]
  constructor
  · rintro (⟨setting, hlookup, hmisfit⟩ | ⟨files, hfiles, h⟩)
    · exact .files hlookup hmisfit
    rcases Unreported.bind_iff.1 h with h | ⟨rules, -, h⟩
    · exact .rules hfiles (unreported_rulesOf_iff.1 h)
    · exact absurd h (Unreported.not_ok _)
  · rintro (⟨hlookup, hmisfit⟩ | ⟨hfiles, hmisfit⟩)
    · exact .inl ⟨_, hlookup, hmisfit⟩
    · exact .inr ⟨_, hfiles, Unreported.bind_iff.2 (.inl (unreported_rulesOf_iff.2 hmisfit))⟩

end Configuration

namespace ProjectFile

open GherkinLint.Configuration

/-- Tables whose configuration ends in a fault without a report. -/
inductive Misfit (names : Pattern.CharacterNames) (root : Members Data) : Prop
  | noTool : (∀ tool, tableAt "tool" root ≠ .object tool) → Misfit names root
  | noSettings {tool : Members Data} :
      tableAt "tool" root = .object tool →
      (∀ settings, tableAt "featurelint" tool ≠ .object settings) → Misfit names root
  | settings {tool settings : Members Data} :
      tableAt "tool" root = .object tool → tableAt "featurelint" tool = .object settings →
      Configuration.Misfit names .standard settings → Misfit names root

section Described

variable {toml : TomlReader} {names : Pattern.CharacterNames} {file : ProjectFile}
  {root tool : Members Data} (hroot : toml file.bytes = .ok root)
include hroot

theorem configuration_eq_bind : file.configuration toml names =
    (tableIn "featurelint" (tableAt "tool" root)) >>= fun settings ↦
      (ofSettings names .standard file.projectName settings).mapError .configuration := by
  rw [configuration, settings, hroot]
  rfl

theorem configuration_of_noTool (htool : ∀ tool, tableAt "tool" root ≠ .object tool) :
    file.configuration toml names = .error (.configuration (.notTable (tableAt "tool" root))) := by
  rw [configuration_eq_bind hroot]
  cases h : tableAt "tool" root with
  | object tool => exact absurd h (htool tool)
  | null | bool | int | fraction | moment | text | list => rfl

theorem configuration_of_noSettings (htool : tableAt "tool" root = .object tool)
    (hsettings : ∀ settings, tableAt "featurelint" tool ≠ .object settings) :
    file.configuration toml names =
      .error (.configuration (.notTable (tableAt "featurelint" tool))) := by
  rw [configuration_eq_bind hroot, htool]
  change (ofSettings names .standard file.projectName (tableAt "featurelint" tool)).mapError _ = _
  cases h : tableAt "featurelint" tool with
  | object settings => exact absurd h (hsettings settings)
  | null | bool | int | fraction | moment | text | list => rfl

theorem configuration_of_settings {settings : Members Data}
    (htool : tableAt "tool" root = .object tool)
    (hsettings : tableAt "featurelint" tool = .object settings) :
    file.configuration toml names =
      (ofSettings names .standard file.projectName (.object settings)).mapError .configuration := by
  rw [configuration_eq_bind hroot, htool, ← hsettings]
  rfl

/-- The configuration of a file that is valid TOML is read, is reported, or is a misfit. -/
theorem configuration_cases :
    (Misfit names root → ∃ fault, file.configuration toml names = .error (.configuration fault) ∧
      fault.message = none) ∧
    (¬Misfit names root → (∃ configuration, file.configuration toml names = .ok configuration) ∨
      ∃ fault message, file.configuration toml names = .error (.configuration fault) ∧
        fault.message = some message) := by
  constructor
  · rintro (htool | ⟨htool, hsection⟩ | ⟨htool, hsection, hmisfit⟩)
    · exact ⟨_, configuration_of_noTool hroot htool, rfl⟩
    · exact ⟨_, configuration_of_noSettings hroot htool hsection, rfl⟩
    · obtain ⟨fault, hfault, hmessage⟩ := (unreported_ofSettings_iff file.projectName).2 hmisfit
      exact ⟨fault, by rw [configuration_of_settings hroot htool hsection, hfault]; rfl, hmessage⟩
  · intro hfit
    cases htool : tableAt "tool" root with
    | null | bool | int | fraction | moment | text | list =>
      exact absurd (.noTool (by simp [htool])) hfit
    | object tool =>
      cases hsection : tableAt "featurelint" tool with
      | null | bool | int | fraction | moment | text | list =>
        exact absurd (.noSettings htool (by simp [hsection])) hfit
      | object settings =>
        have hreported :
            ¬Unreported (ofSettings names .standard file.projectName (.object settings)) :=
          fun h ↦ hfit (.settings htool hsection ((unreported_ofSettings_iff _).1 h))
        rw [configuration_of_settings hroot htool hsection]
        cases h : ofSettings names .standard file.projectName (.object settings) with
        | ok configuration => exact .inl ⟨configuration, rfl⟩
        | error fault =>
          rw [h, Unreported.error_iff] at hreported
          obtain ⟨message, hmessage⟩ := Option.ne_none_iff_exists'.1 hreported
          exact .inr ⟨fault, message, rfl, hmessage⟩

end Described

end ProjectFile

end GherkinLint
