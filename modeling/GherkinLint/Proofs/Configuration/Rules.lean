import GherkinLint.Proofs.Outcome
import GherkinLint.Project

namespace GherkinLint

namespace Rule

def withSeverity (rule : Rule) (severity : String) : Rule := { rule with severity }

theorem exists_of_update {rule updated : Rule} {severity : Data}
    (h : rule.update severity = .ok updated) :
    ∃ s ∈ severities, severity = .text s ∧ updated = rule.withSeverity s := by
  cases severity with
  | text s =>
    rw [update] at h
    split at h
    next hs => exact ⟨s, hs, rfl, (Except.ok.inj h).symm⟩
    next => cases h
  | null | bool | int | fraction | moment | list | object => cases h

end Rule

namespace Configuration

variable {setting : Data} {names : Pattern.CharacterNames}

theorem exists_of_configure {rule configured : Rule} (hrule : rule.severity ∈ Rule.severities)
    (h : configure setting rule = .ok configured) :
    ∃ s ∈ Rule.severities, configured = rule.withSeverity s := by
  obtain ⟨chosen, -, h⟩ := exists_of_bind h
  cases chosen with
  | none => exact ⟨rule.severity, hrule, (Except.ok.inj h).symm⟩
  | some severity =>
    obtain ⟨s, hs, -, hconfigured⟩ := Rule.exists_of_update (eq_ok_of_mapError h)
    exact ⟨s, hs, hconfigured⟩

theorem mapM_of_rulesOf {table rules : RuleTable} (h : rulesOf table setting = .ok rules) :
    table.mapM (configure setting) = .ok rules := by
  obtain ⟨names, -, h⟩ := exists_of_bind h
  dsimp only at h
  split at h
  · cases h
  · exact h

/-- A configuration has the rules of the table, in that order, each at one of the severities. -/
theorem forall₂_of_ofSettings {table : RuleTable} {name : String} {configuration : Configuration}
    (htable : ∀ rule ∈ table, rule.severity ∈ Rule.severities)
    (h : ofSettings names table name setting = .ok configuration) :
    List.Forall₂ (fun rule configured ↦ ∃ s ∈ Rule.severities, configured = rule.withSeverity s)
      table configuration.rules := by
  cases setting with
  | null | bool | int | fraction | moment | text | list => cases h
  | object settings =>
    obtain ⟨files, -, h⟩ := exists_of_bind h
    obtain ⟨rules, hrules, h⟩ := exists_of_bind h
    cases h
    have hconfigured := forall₂_of_mapM (mapM_of_rulesOf hrules)
    refine (List.forall₂_iff_zip.2 ⟨hconfigured.length_eq, fun {rule configured} hzip ↦ ?_⟩)
    have hrule : rule.severity ∈ Rule.severities := htable rule (List.of_mem_zip hzip).1
    exact exists_of_configure hrule ((List.forall₂_iff_zip.1 hconfigured).2 hzip)

end Configuration

/-- The rule of a project may have another severity, and is otherwise always the same. -/
theorem ProjectFile.exists_of_configuration {toml : TomlReader} {names : Pattern.CharacterNames}
    {file : ProjectFile} {configuration : Configuration}
    (h : file.configuration toml names = .ok configuration) :
    ∃ s ∈ Rule.severities, configuration.rules = [UnusedVariables.rule.withSeverity s] := by
  obtain ⟨settings, -, h⟩ := exists_of_bind h
  have hstandard : ∀ rule ∈ RuleTable.standard, rule.severity ∈ Rule.severities := by
    intro rule hrule
    obtain rfl := List.mem_singleton.1 hrule
    decide
  have hrules := Configuration.forall₂_of_ofSettings hstandard (eq_ok_of_mapError h)
  generalize configuration.rules = rules at hrules
  obtain _ | ⟨⟨s, hs, rfl⟩, ⟨⟩⟩ := hrules
  exact ⟨s, hs, rfl⟩

end GherkinLint
