import GherkinLint.Pattern.Reader
import GherkinLint.Pattern.Search
import GherkinLint.Rule
import GherkinLint.Text.Blank

namespace GherkinLint

structure Configuration where
  name : String
  rules : RuleTable
  /-- What the path of a file must hold for the file to be linted. -/
  files : Pattern

inductive ConfigurationFault where
  | invalidInclude (pattern : String) (fault : Pattern.Fault)
  /-- A pattern that is not invalid, and cannot be used all the same. -/
  | unusableInclude (cause : Pattern.Cause)
  | unknownRules (names : List String)
  | invalidSeverity (e : InvalidSeverity)
  /-- There is something else where a table of settings is looked for. -/
  | notTable (found : Data)
  | wrongKind (key : String) (setting : Data)
  deriving Repr

namespace Configuration

abbrev Settings := Members Data

def enabledRules (configuration : Configuration) : List Rule :=
  configuration.rules.filter (·.isEnabled)

def defaultInclude : String := "\\.feature$"

def patternOf (names : Pattern.CharacterNames) (text : String) :
    Except ConfigurationFault Pattern :=
  (Pattern.ofText names text).mapError fun fault ↦
    if fault.cause.isInvalid then .invalidInclude text fault else .unusableInclude fault.cause

def filesOf (names : Pattern.CharacterNames) (settings : Settings) :
    Except ConfigurationFault Pattern :=
  match settings.lookup "include" with
  | none => patternOf names defaultInclude
  | some (.text text) => patternOf names text
  | some setting => .error (.wrongKind "include" setting)

/-- The rules that a setting names: the keys of a table, the items of a list, or the characters of
a text. -/
def namesIn (setting : Data) : Except ConfigurationFault (List String) :=
  match setting with
  | .object members => .ok (members.map (·.1))
  | .list items =>
    match items.mapM Data.text? with
    | some names => .ok names
    | none => .error (.wrongKind "rules" setting)
  | .text s => .ok (s.toList.map (·.toString))
  | _ => .error (.wrongKind "rules" setting)

/-- The severity that a setting gives a rule. Only a table can give one; a list or a text must not
so much as mention the rule. -/
def severityIn (rule : Rule) (setting : Data) : Except ConfigurationFault (Option Data) :=
  match setting with
  | .object members => .ok (members.lookup rule.name)
  | .list items =>
    if items.any fun item ↦ item.text? == some rule.name then .error (.wrongKind "rules" setting)
    else .ok none
  | .text s =>
    if Text.holds rule.name.toList s.toList then .error (.wrongKind "rules" setting) else .ok none
  | _ => .error (.wrongKind "rules" setting)

def configure (setting : Data) (rule : Rule) : Except ConfigurationFault Rule := do
  match ← severityIn rule setting with
  | some severity => (rule.update severity).mapError .invalidSeverity
  | none => pure rule

def rulesOf (table : RuleTable) (setting : Data) : Except ConfigurationFault RuleTable := do
  let names ← namesIn setting
  let unknown := names.filter fun name ↦ !table.any (·.name == name)
  if !unknown.isEmpty then throw (.unknownRules unknown)
  table.mapM (configure setting)

def ofSettings (names : Pattern.CharacterNames) (table : RuleTable) (name : String) :
    Data → Except ConfigurationFault Configuration
  | .object settings => do
    let files ← filesOf names settings
    let rules ← rulesOf table ((settings.lookup "rules").getD (.object []))
    pure ⟨name, rules, files⟩
  | found => throw (.notTable found)

end Configuration

/-- Faults that a project cannot correct have no message: they are not reported. -/
def ConfigurationFault.message : ConfigurationFault → Option String
  | invalidInclude pattern fault =>
    some ("include pattern \"" ++ pattern ++ "\" is invalid: " ++ fault.message pattern.toList)
  | unknownRules names => some ("Unknown rules: " ++ ", ".intercalate names)
  | invalidSeverity e => some e.message
  | unusableInclude _ => none
  | notTable _ => none
  | wrongKind .. => none

end GherkinLint
