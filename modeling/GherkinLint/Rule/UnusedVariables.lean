import GherkinLint.Placeholder
import GherkinLint.Rule

namespace GherkinLint.UnusedVariables

abbrev Sighting := String × Location

/-- Every variable once: ordered by first sightings, at the location of the last one. -/
def latest (sightings : List Sighting) : Members Location :=
  sightings.foldl (fun seen (variableName, location) ↦ seen.put variableName location) []

def cellText (cell : TableCell) : Option String := cell.value.filter (· ≠ "")

def declarations (scenario : Scenario) : List Sighting :=
  scenario.examples.flatMap fun examples ↦
    match examples.header with
    | some header =>
      header.cells.filterMap fun cell ↦ (cellText cell).map fun name ↦ (name, cell.location)
    | none => []

def columnOrZero (location : Location) : Int := location.column.getD 0

def usesAt (line column : Int) (text : String) : List Sighting :=
  (placeholders text).map fun p ↦ (p.name, ⟨line, some (column + p.offset)⟩)

/-- The name is taken to stand after the keyword, a colon and a single space. -/
def usesInName (scenario : Scenario) : List Sighting :=
  usesAt scenario.location.line
    (columnOrZero scenario.location + scenario.keyword.length + 2) scenario.name

def usesInText (step : Step) : List Sighting :=
  usesAt step.location.line (columnOrZero step.location + step.keyword.length) step.text

def usesInCell (cell : TableCell) : List Sighting :=
  match cellText cell with
  | some text => usesAt cell.location.line (columnOrZero cell.location) text
  | none => []

/-- Columns inside a doc string are not kept: its placeholders stand at column 0 of its first
line. -/
def usesInDocString (docString : DocString) : List Sighting :=
  (placeholders docString.content).map fun p ↦ (p.name, ⟨docString.location.line, some 0⟩)

def usesInArgument : Argument → List Sighting
  | .table table => table.rows.flatMap fun row ↦ row.cells.flatMap usesInCell
  | .docString docString => usesInDocString docString

def usesInStep (step : Step) : List Sighting :=
  usesInText step ++ (step.argument.map usesInArgument).getD []

def uses (scenario : Scenario) : List Sighting :=
  usesInName scenario ++ scenario.steps.flatMap usesInStep

def name : String := "no-unused-variables"

def unusedMessage (variableName : String) : String :=
  "Examples table variable \"" ++ variableName ++ "\" is not used in any step"

def undeclaredMessage (variableName : String) : String :=
  "Step variable \"" ++ variableName ++ "\" does not exist in the examples table"

def missingFrom (others seen : Members Location) (message : String → String) : List Diagnostic :=
  (seen.filter fun s ↦ !others.any (·.1 == s.1)).map fun s ↦
    ⟨message s.1, name, s.2.line, columnOrZero s.2⟩

def checkScenario (scenario : Scenario) : List Diagnostic :=
  let declared := latest (declarations scenario)
  let used := latest (uses scenario)
  missingFrom used declared unusedMessage ++ missingFrom declared used undeclaredMessage

/-- Outlines are checked one by one, and nothing else is. -/
def checkChild (child : Child) : List Diagnostic :=
  match child.scenario with
  | some scenario => if scenario.isOutline then checkScenario scenario else []
  | none => []

def check (document : Document) : List Diagnostic :=
  match document.feature with
  | some feature => feature.spread.flatMap checkChild
  | none => []

def documentation : Documentation where
  description := "Disallows unused variables in scenario outlines."
  examples := [⟨"Example", "Enable rule", .object [(name, .text "error")]⟩]

def rule : Rule := ⟨name, check, documentation, "error"⟩

end GherkinLint.UnusedVariables

namespace GherkinLint

def RuleTable.standard : RuleTable := [UnusedVariables.rule]

end GherkinLint
