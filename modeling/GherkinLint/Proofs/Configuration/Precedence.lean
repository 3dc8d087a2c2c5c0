import GherkinLint.Proofs.Configuration.Report
import GherkinLint.Proofs.Configuration.Rules
import GherkinLint.Proofs.Members

namespace GherkinLint

def IsSeverity (value : Data) : Prop := ∃ s ∈ Rule.severities, value = .text s

namespace Rule

theorem update_of_isSeverity {rule : Rule} {s : String} (h : s ∈ severities) :
    rule.update (.text s) = .ok (rule.withSeverity s) := by
  rw [update, if_pos h]
  rfl

theorem update_eq_error_iff {rule : Rule} {value : Data} {e : InvalidSeverity} :
    rule.update value = .error e ↔ ¬IsSeverity value ∧ e = ⟨rule.name, value⟩ := by
  have hone (h : ¬IsSeverity value) : rule.update value = .error ⟨rule.name, value⟩ := by
    cases value with
    | text s => exact if_neg fun hs ↦ h ⟨s, hs, rfl⟩
    | null | bool | int | fraction | moment | list | object => rfl
  by_cases h : IsSeverity value
  · obtain ⟨s, hs, rfl⟩ := h
    rw [update_of_isSeverity hs]
    exact iff_of_false (by simp) fun hno ↦ hno.1 ⟨s, hs, rfl⟩
  · rw [hone h, Except.error.injEq, eq_comm]
    exact (and_iff_right h).symm

end Rule

def ConfigurationFault.concernsInclude : ConfigurationFault → Bool
  | invalidInclude .. | unusableInclude _ => true
  | unknownRules _ | invalidSeverity _ | notTable _ | wrongKind .. => false

namespace Configuration

section Pattern

variable {names : Pattern.CharacterNames} {settings : Settings} {text : String}

theorem filesOf_eq (h : (settings.lookup "include").getD (.text defaultInclude) = .text text) :
    filesOf names settings = patternOf names text := by
  unfold filesOf
  cases hlookup : settings.lookup "include" with
  | none =>
    rw [hlookup] at h
    cases h
    rfl
  | some setting =>
    rw [hlookup] at h
    cases h
    rfl

theorem patternOf_eq_ok_iff {files : Pattern} :
    patternOf names text = .ok files ↔ Pattern.ofText names text = .ok files := by
  unfold patternOf
  cases Pattern.ofText names text <;> simp [Except.mapError]

theorem patternOf_eq_invalidInclude_iff {pattern : String} {fault : Pattern.Fault} :
    patternOf names text = .error (.invalidInclude pattern fault) ↔
      pattern = text ∧ Pattern.ofText names text = .error fault ∧ fault.cause.isInvalid = true := by
  unfold patternOf
  cases h : Pattern.ofText names text with
  | ok files => simp [Except.mapError]
  | error found =>
    rw [Except.mapError, Except.error.injEq, Except.error.injEq]
    constructor
    · intro heq
      split at heq
      next hinvalid =>
        cases heq
        exact ⟨rfl, rfl, hinvalid⟩
      next => cases heq
    · rintro ⟨rfl, rfl, hinvalid⟩
      exact if_pos hinvalid

theorem patternOf_eq_unusableInclude_iff {cause : Pattern.Cause} :
    patternOf names text = .error (.unusableInclude cause) ↔
      cause.isInvalid = false ∧
        ∃ position, Pattern.ofText names text = .error ⟨cause, position⟩ := by
  unfold patternOf
  cases h : Pattern.ofText names text with
  | ok files => simp [Except.mapError]
  | error found =>
    rw [Except.mapError, Except.error.injEq]
    constructor
    · intro heq
      split at heq
      next => cases heq
      next hvalid =>
        cases heq
        exact ⟨by simpa using hvalid, found.position, rfl⟩
    · rintro ⟨hvalid, position, heq⟩
      cases heq
      rw [if_neg (by simp [hvalid])]

end Pattern

section Rules

variable {table : RuleTable} {chosen : Members Data} {rule : Rule}

/-- The names in the settings that no rule of the table has, in the order of the settings. -/
def unknownNames (table : RuleTable) (chosen : Members Data) : List String :=
  chosen.names.filter (· ∉ table.map Rule.name)

def Accepts (chosen : Members Data) (rule : Rule) : Prop :=
  ∀ value, chosen.lookup rule.name = some value → IsSeverity value

/-- The first rule of the table that the settings give something else than a severity. -/
def FirstRefused (table : RuleTable) (chosen : Members Data) (e : InvalidSeverity) : Prop :=
  ∃ before rule after, table = before ++ rule :: after ∧
    (∀ earlier ∈ before, Accepts chosen earlier) ∧
    chosen.lookup rule.name = some e.severity ∧ ¬IsSeverity e.severity ∧ e.rule = rule.name

def configured (chosen : Members Data) (rule : Rule) : Rule :=
  rule.withSeverity (((chosen.lookup rule.name).bind Data.text?).getD rule.severity)

theorem configure_object : configure (.object chosen) rule =
    match chosen.lookup rule.name with
    | some value => (rule.update value).mapError ConfigurationFault.invalidSeverity
    | none => .ok rule := by
  rfl

theorem configure_of_accepts (h : Accepts chosen rule) :
    configure (.object chosen) rule = .ok (configured chosen rule) := by
  rw [configure_object, configured]
  cases hlookup : chosen.lookup rule.name with
  | none => rfl
  | some value =>
    obtain ⟨s, hs, rfl⟩ := h value hlookup
    dsimp only
    rw [Rule.update_of_isSeverity hs]
    rfl

theorem configure_eq_error_iff {fault : ConfigurationFault} :
    configure (.object chosen) rule = .error fault ↔
      ∃ value, chosen.lookup rule.name = some value ∧ ¬IsSeverity value ∧
        fault = .invalidSeverity ⟨rule.name, value⟩ := by
  rw [configure_object]
  cases hlookup : chosen.lookup rule.name with
  | none => simp
  | some value =>
    simp only [Option.some.injEq, exists_eq_left']
    cases hupdate : rule.update value with
    | ok updated =>
      refine iff_of_false (by simp [Except.mapError]) fun h ↦ ?_
      rw [Rule.update_eq_error_iff.2 ⟨h.1, rfl⟩] at hupdate
      cases hupdate
    | error e =>
      obtain ⟨hno, rfl⟩ := Rule.update_eq_error_iff.1 hupdate
      rw [Except.mapError, Except.error.injEq, eq_comm]
      exact (and_iff_right hno).symm

theorem accepts_of_configure {configuredRule : Rule}
    (h : configure (.object chosen) rule = .ok configuredRule) : Accepts chosen rule := by
  intro value hvalue
  by_contra hno
  rw [configure_eq_error_iff.2 ⟨value, hvalue, hno, rfl⟩] at h
  cases h

theorem mapM_configure_eq_error_iff {fault : ConfigurationFault} :
    table.mapM (configure (.object chosen)) = .error fault ↔
      ∃ e, fault = .invalidSeverity e ∧ FirstRefused table chosen e := by
  rw [mapM_eq_error_iff]
  constructor
  · rintro ⟨before, rule, after, htable, hbefore, hfault⟩
    obtain ⟨value, hvalue, hno, rfl⟩ := configure_eq_error_iff.1 hfault
    refine ⟨_, rfl, before, rule, after, htable, fun earlier hearlier ↦ ?_, hvalue, hno, rfl⟩
    obtain ⟨_, hok⟩ := hbefore earlier hearlier
    exact accepts_of_configure hok
  · rintro ⟨e, rfl, before, rule, after, htable, hbefore, hvalue, hno, hname⟩
    refine ⟨before, rule, after, htable, fun earlier hearlier ↦ ?_, ?_⟩
    · exact ⟨_, configure_of_accepts (hbefore earlier hearlier)⟩
    · exact configure_eq_error_iff.2 ⟨e.severity, hvalue, hno, by rw [← hname]⟩

theorem mapM_configure_eq_ok_iff {rules : RuleTable} :
    table.mapM (configure (.object chosen)) = .ok rules ↔
      (∀ rule ∈ table, Accepts chosen rule) ∧ rules = table.map (configured chosen) := by
  constructor
  · intro h
    have haccepts : ∀ rule ∈ table, Accepts chosen rule := by
      intro rule hrule
      obtain ⟨_, hok⟩ := exists_of_mem_of_mapM h hrule
      exact accepts_of_configure hok
    refine ⟨haccepts, ?_⟩
    rw [mapM_eq_ok fun rule hrule ↦ configure_of_accepts (haccepts rule hrule)] at h
    exact (Except.ok.inj h).symm
  · rintro ⟨haccepts, rfl⟩
    exact mapM_eq_ok fun rule hrule ↦ configure_of_accepts (haccepts rule hrule)

theorem rulesOf_object : rulesOf table (.object chosen) =
    if unknownNames table chosen = [] then table.mapM (configure (.object chosen))
    else .error (.unknownRules (unknownNames table chosen)) := by
  have hunknown : (chosen.map (·.1)).filter (fun name ↦ !table.any (·.name == name)) =
      unknownNames table chosen := by
    refine List.filter_congr fun name _ ↦ ?_
    rw [Bool.eq_iff_iff]
    simp
  rw [rulesOf]
  change (if (!((chosen.map (·.1)).filter fun name ↦ !table.any (·.name == name)).isEmpty) = true
    then _ else _) = _
  rw [hunknown]
  by_cases h : unknownNames table chosen = []
  · rw [if_pos h, h]
    rfl
  · rw [if_neg h, if_pos (by simpa using h)]
    rfl

theorem rulesOf_eq_unknownRules_iff {names : List String} :
    rulesOf table (.object chosen) = .error (.unknownRules names) ↔
      names ≠ [] ∧ names = unknownNames table chosen := by
  rw [rulesOf_object]
  split
  next hknown =>
    refine iff_of_false (fun h ↦ ?_) fun h ↦ h.1 (h.2.trans hknown)
    obtain ⟨_, h, -⟩ := mapM_configure_eq_error_iff.1 h
    cases h
  next hunknown =>
    rw [Except.error.injEq, ConfigurationFault.unknownRules.injEq, eq_comm]
    exact (and_iff_right_of_imp fun h ↦ h ▸ hunknown).symm

theorem rulesOf_eq_invalidSeverity_iff {e : InvalidSeverity} :
    rulesOf table (.object chosen) = .error (.invalidSeverity e) ↔
      unknownNames table chosen = [] ∧ FirstRefused table chosen e := by
  rw [rulesOf_object]
  split
  next hknown => simp [mapM_configure_eq_error_iff, hknown]
  next hunknown => simp [hunknown]

theorem rulesOf_eq_ok_iff {rules : RuleTable} :
    rulesOf table (.object chosen) = .ok rules ↔
      unknownNames table chosen = [] ∧ (∀ rule ∈ table, Accepts chosen rule) ∧
        rules = table.map (configured chosen) := by
  rw [rulesOf_object]
  split
  next hknown => simp [mapM_configure_eq_ok_iff, hknown]
  next hunknown => simp [hunknown]

/-- Where a rule is refused, there is a first one. -/
theorem exists_firstRefused_iff :
    (∃ e, FirstRefused table chosen e) ↔ ∃ rule ∈ table, ¬Accepts chosen rule := by
  constructor
  · rintro ⟨e, before, rule, after, rfl, -, hvalue, hno, -⟩
    exact ⟨rule, by simp, fun h ↦ hno (h _ hvalue)⟩
  · rintro ⟨rule, hrule, hno⟩
    cases hmapM : table.mapM (configure (.object chosen)) with
    | ok rules => exact absurd ((mapM_configure_eq_ok_iff.1 hmapM).1 rule hrule) hno
    | error fault =>
      obtain ⟨e, -, he⟩ := mapM_configure_eq_error_iff.1 hmapM
      exact ⟨e, he⟩

/-- Where all names are known, the refused rules are those with a member that is no severity. -/
theorem exists_not_accepts_iff (hnames : chosen.names.Nodup)
    (hknown : unknownNames table chosen = []) :
    (∃ rule ∈ table, ¬Accepts chosen rule) ↔ ∃ member ∈ chosen, ¬IsSeverity member.2 := by
  constructor
  · rintro ⟨rule, -, hno⟩
    obtain ⟨value, hvalue, hno⟩ : ∃ value, chosen.lookup rule.name = some value ∧
        ¬IsSeverity value := by simpa [Accepts] using hno
    exact ⟨_, Members.mem_of_lookup hvalue, hno⟩
  · rintro ⟨⟨key, value⟩, hmember, hno⟩
    have hkey : key ∈ table.map Rule.name := by
      have hall := List.filter_eq_nil_iff.1 hknown key (List.mem_map.2 ⟨_, hmember, rfl⟩)
      simpa using hall
    obtain ⟨rule, hrule, rfl⟩ := List.mem_map.1 hkey
    exact ⟨rule, hrule, fun h ↦ hno (h value ((Members.lookup_eq_some_iff hnames).2 hmember))⟩

theorem eq_wrongKind_of_namesIn {setting : Data} {fault : ConfigurationFault}
    (h : namesIn setting = .error fault) : fault = .wrongKind "rules" setting := by
  cases setting with
  | list items =>
    rw [namesIn] at h
    split at h <;> cases h
    rfl
  | object | text => cases h
  | null | bool | int | fraction | moment =>
    cases h
    rfl

theorem concernsInclude_of_configure {setting : Data} {rule : Rule} {fault : ConfigurationFault}
    (h : configure setting rule = .error fault) : fault.concernsInclude = false := by
  rcases bind_eq_error_iff.1 h with h | ⟨chosen, -, h⟩
  · unfold severityIn at h
    cases setting with
    | object => cases h
    | null | bool | int | fraction | moment =>
      cases h
      rfl
    | list | text =>
      dsimp only at h
      split at h <;> cases h
      rfl
  · cases chosen with
    | none => cases h
    | some value =>
      dsimp only at h
      cases hupdate : rule.update value with
      | ok updated =>
        rw [hupdate] at h
        cases h
      | error e =>
        rw [hupdate] at h
        cases h
        rfl

theorem concernsInclude_of_rulesOf {setting : Data} {fault : ConfigurationFault}
    (h : rulesOf table setting = .error fault) : fault.concernsInclude = false := by
  rcases bind_eq_error_iff.1 h with h | ⟨names, -, h⟩
  · rw [eq_wrongKind_of_namesIn h]
    rfl
  dsimp only at h
  split at h
  · cases h
    rfl
  · obtain ⟨before, rule, after, -, -, hrule⟩ := mapM_eq_error_iff.1 h
    exact concernsInclude_of_configure hrule

end Rules

section Settings

variable {names : Pattern.CharacterNames} {table : RuleTable} {name : String}
  {settings : Settings}

theorem ofSettings_eq_error_iff {fault : ConfigurationFault} :
    ofSettings names table name (.object settings) = .error fault ↔
      filesOf names settings = .error fault ∨ ∃ files, filesOf names settings = .ok files ∧
        rulesOf table (tableAt "rules" settings) = .error fault := by
  rw [ofSettings, bind_eq_error_iff]
  refine or_congr_right (exists_congr fun files ↦ and_congr_right fun _ ↦ ?_)
  rw [bind_eq_error_iff]
  refine or_iff_left ?_
  rintro ⟨rules, -, h⟩
  cases h

theorem ofSettings_eq_error_iff_of_concernsInclude {fault : ConfigurationFault}
    (h : fault.concernsInclude = true) :
    ofSettings names table name (.object settings) = .error fault ↔
      filesOf names settings = .error fault := by
  rw [ofSettings_eq_error_iff]
  refine or_iff_left ?_
  rintro ⟨files, -, hrules⟩
  rw [concernsInclude_of_rulesOf hrules] at h
  cases h

/-- With a pattern for the files, it is the rules that decide. -/
theorem ofSettings_of_filesOf {files : Pattern} (h : filesOf names settings = .ok files) :
    ofSettings names table name (.object settings) =
      (rulesOf table (tableAt "rules" settings)).map fun rules ↦ ⟨name, rules, files⟩ := by
  rw [ofSettings, h]
  rfl

end Settings

/-- What becomes of the rules that settings choose, where there is a pattern for the files. -/
structure Decides (table : RuleTable) (name : String) (files : Pattern) (chosen : Members Data)
    (result : Except ConfigurationFault Configuration) : Prop where
  unknown names : result = .error (.unknownRules names) ↔
    names ≠ [] ∧ names = unknownNames table chosen
  someRefused : chosen.names.Nodup → ((∃ e, result = .error (.invalidSeverity e)) ↔
    unknownNames table chosen = [] ∧ ∃ member ∈ chosen, ¬IsSeverity member.2)
  refused e : result = .error (.invalidSeverity e) ↔
    unknownNames table chosen = [] ∧ FirstRefused table chosen e
  accepted configuration : result = .ok configuration ↔
    unknownNames table chosen = [] ∧ (∀ rule ∈ table, Accepts chosen rule) ∧
      configuration = ⟨name, table.map (configured chosen), files⟩
  enabled configuration : result = .ok configuration →
    configuration.enabledRules = (table.map (configured chosen)).filter (·.severity ≠ "off")

theorem decides_rulesOf (table : RuleTable) (name : String) (files : Pattern)
    (chosen : Members Data) :
    Decides table name files chosen
      ((rulesOf table (.object chosen)).map fun rules ↦ ⟨name, rules, files⟩) := by
  have herror {fault : ConfigurationFault} :
      (rulesOf table (.object chosen)).map (fun rules ↦ Configuration.mk name rules files) =
        .error fault ↔ rulesOf table (.object chosen) = .error fault := by
    cases rulesOf table (.object chosen) <;> simp [Except.map]
  have hok {configuration : Configuration} :
      (rulesOf table (.object chosen)).map (fun rules ↦ ⟨name, rules, files⟩) =
        .ok configuration ↔ unknownNames table chosen = [] ∧
          (∀ rule ∈ table, Accepts chosen rule) ∧
            configuration = ⟨name, table.map (configured chosen), files⟩ := by
    cases hrules : rulesOf table (.object chosen) with
    | error fault =>
      refine iff_of_false (by simp [Except.map]) fun h ↦ ?_
      rw [rulesOf_eq_ok_iff.2 ⟨h.1, h.2.1, rfl⟩] at hrules
      cases hrules
    | ok rules =>
      obtain ⟨hknown, haccepts, rfl⟩ := rulesOf_eq_ok_iff.1 hrules
      rw [Except.map, Except.ok.injEq, eq_comm]
      exact ⟨fun h ↦ ⟨hknown, haccepts, h⟩, fun h ↦ h.2.2⟩
  refine ⟨fun names ↦ ?_, fun hnames ↦ ?_, fun e ↦ ?_, fun configuration ↦ hok,
    fun configuration h ↦ ?_⟩
  · rw [herror, rulesOf_eq_unknownRules_iff]
  · simp only [herror, rulesOf_eq_invalidSeverity_iff, exists_and_left, exists_firstRefused_iff]
    exact and_congr_right fun hknown ↦ exists_not_accepts_iff hnames hknown
  · rw [herror, rulesOf_eq_invalidSeverity_iff]
  · obtain ⟨-, -, rfl⟩ := hok.1 h
    rfl

/-- Settings end in the first fault there is, where a fault of the pattern comes before unknown
names, and those before the severities. -/
theorem ofSettings_precedence (names : Pattern.CharacterNames) (table : RuleTable) (name : String)
    {settings : Settings} {text : String}
    (hinclude : (settings.lookup "include").getD (.text defaultInclude) = .text text) :
    (∀ pattern fault,
      ofSettings names table name (.object settings) = .error (.invalidInclude pattern fault) ↔
        pattern = text ∧ Pattern.ofText names text = .error fault ∧ fault.cause.isInvalid = true) ∧
    (∀ cause, ofSettings names table name (.object settings) = .error (.unusableInclude cause) ↔
      cause.isInvalid = false ∧ ∃ position, Pattern.ofText names text = .error ⟨cause, position⟩) ∧
    ∀ files chosen, Pattern.ofText names text = .ok files →
      tableAt "rules" settings = .object chosen →
      Decides table name files chosen (ofSettings names table name (.object settings)) := by
  have hfilesOf : filesOf names settings = patternOf names text := filesOf_eq hinclude
  refine ⟨fun pattern fault ↦ ?_, fun cause ↦ ?_, fun files chosen hfiles hrules ↦ ?_⟩
  · rw [ofSettings_eq_error_iff_of_concernsInclude rfl, hfilesOf, patternOf_eq_invalidInclude_iff]
  · rw [ofSettings_eq_error_iff_of_concernsInclude rfl, hfilesOf, patternOf_eq_unusableInclude_iff]
  · have hpattern : filesOf names settings = .ok files :=
      hfilesOf.trans (patternOf_eq_ok_iff.2 hfiles)
    rw [ofSettings_of_filesOf hpattern, hrules]
    exact decides_rulesOf table name files chosen

def idleRule (name : String) : Rule := ⟨name, fun _ ↦ [], ⟨"", []⟩, "error"⟩

def tableOfTwo : RuleTable := [idleRule "no-tabs", idleRule "no-dots"]

/-- Several faults at once, and each time the first of them is found. -/
theorem ofSettings_precedence_two :
    ofSettings Pattern.noNames tableOfTwo "shop" (.object [("include", .text "("),
        ("rules", .object [("no-names", .int 1)])]) =
          .error (.invalidInclude "(" ⟨.openGroup, some 0⟩) ∧
      ofSettings Pattern.noNames tableOfTwo "shop" (.object [("rules", .object
        [("no-names", .text "off"), ("no-dots", .bool true), ("no-ends", .null)])]) =
          .error (.unknownRules ["no-names", "no-ends"]) ∧
      ofSettings Pattern.noNames tableOfTwo "shop" (.object [("rules", .object
        [("no-dots", .int 1), ("no-tabs", .bool true)])]) =
          .error (.invalidSeverity ⟨"no-tabs", .bool true⟩) ∧
      ∃ configuration, ofSettings Pattern.noNames tableOfTwo "shop" (.object [("rules", .object
        [("no-tabs", .text "off")])]) = .ok configuration ∧
          configuration.enabledRules.map Rule.name = ["no-dots"] := by
  have hinvalid : Pattern.ofText Pattern.noNames "(" = .error ⟨.openGroup, some 0⟩ := by
    decide +kernel
  have hinclude (chosen : Members Data) : (List.lookup "include"
      [("rules", Data.object chosen)]).getD (.text defaultInclude) = .text defaultInclude := rfl
  obtain ⟨files, hfiles⟩ := exists_default Pattern.noNames
  have hdecides (chosen : Members Data) : Decides tableOfTwo "shop" files chosen
      (ofSettings Pattern.noNames tableOfTwo "shop" (.object [("rules", .object chosen)])) :=
    (ofSettings_precedence _ tableOfTwo "shop" (hinclude chosen)).2.2 files chosen hfiles rfl
  refine ⟨?_, ?_, ?_, ?_⟩
  · exact ((ofSettings_precedence _ tableOfTwo "shop" rfl).1 "(" _).2 ⟨rfl, hinvalid, rfl⟩
  · exact ((hdecides _).unknown _).2 ⟨by simp, rfl⟩
  · refine ((hdecides _).refused _).2
      ⟨rfl, [], idleRule "no-tabs", _, rfl, List.forall_mem_nil _, rfl, ?_, rfl⟩
    rintro ⟨s, -, hs⟩
    cases hs
  · have haccepts : ∀ rule ∈ tableOfTwo, Accepts [("no-tabs", .text "off")] rule := by
      intro rule _ value hvalue
      have hmember := List.mem_singleton.1 (Members.mem_of_lookup hvalue)
      exact ⟨"off", by decide, (Prod.mk.inj hmember).2⟩
    have hok := ((hdecides _).accepted _).2 ⟨rfl, haccepts, rfl⟩
    exact ⟨_, hok, congrArg (List.map Rule.name) ((hdecides _).enabled _ hok)⟩

/-- A pattern that does not compile need not be reported as an invalid one: the number of
repetitions may be too large. -/
theorem exists_include_not_reported :
    ¬∀ names table name (settings : Settings) text,
      (settings.lookup "include").getD (.text defaultInclude) = .text text →
        ((∃ fault, ofSettings names table name (.object settings) =
            .error (.invalidInclude text fault)) ↔
          ∀ files, Pattern.ofText names text ≠ .ok files) := by
  intro h
  have htext : Pattern.ofText Pattern.noNames "a\x7b4294967295\x7d" =
      .error ⟨.repeatTooLarge, none⟩ := by
    decide +kernel
  have hunread : ∀ files, Pattern.ofText Pattern.noNames "a\x7b4294967295\x7d" ≠ .ok files := by
    intro files hfiles
    cases htext.symm.trans hfiles
  obtain ⟨fault, hfault⟩ :=
    (h Pattern.noNames [] "" [("include", .text "a\x7b4294967295\x7d")] _ rfl).2 hunread
  change (patternOf Pattern.noNames "a\x7b4294967295\x7d" >>= _) = _ at hfault
  rw [patternOf, htext] at hfault
  cases hfault

end Configuration

end GherkinLint
