import GherkinLint.Acceptance.Environment
import GherkinLint.Text.Letter

namespace GherkinLint.Acceptance

def exampleFeatures : Members String :=
  [("broken", "\n".intercalate [
      "Feature: Cucumbers",
      "  Scenario: Counting",
      "    Given the basket has",
      "      | kind     |",
      "      | cucumber | 12 |",
      ""]),
    ("clean", "\n".intercalate [
      "Feature: Cucumbers",
      "  Scenario Outline: Eating <start> cucumbers",
      "    Given there are <start> cucumbers",
      "    When I eat <eat> cucumbers",
      "    Then the basket has",
      "      | kind     | count  |",
      "      | cucumber | <left> |",
      "",
      "    Examples:",
      "      | start | eat | left |",
      "      | 12    | 5   | 7    |",
      ""]),
    ("missing_column", "\n".intercalate [
      "Feature: Cucumbers",
      "  Rule: Baskets are never empty",
      "    Scenario Outline: Eating",
      "      Given there are <start> cucumbers",
      "      Then the report reads",
      "        \"\"\"",
      "        <left> cucumbers left",
      "        \"\"\"",
      "",
      "      Examples:",
      "        | start |",
      "        | 12    |",
      ""]),
    ("unused_column", "\n".intercalate [
      "Feature: Cucumbers",
      "  Scenario Outline: Eating",
      "    Given there are <start> cucumbers",
      "",
      "    Examples:",
      "      | start | eat |",
      "      | 12    | 5   |",
      ""])]

inductive Task where
  | newProject
  | noProjectFile
  | exampleFeature (name : String)
  | ruleSeverity (rule severity : String)
  | run (arguments : String)
  | runPlain
  | exitCode (written : String)
  | outputHoldsText (docString : Option String)
  | outputHolds (message : String)
  | outputLacks (message : String)
  deriving DecidableEq, Repr

inductive Failure where
  /-- The check fails, or nothing has been run that could be checked. -/
  | assertion
  | noProjectFile
  | noSuchExample
  | notNumber
  | noDocString
  deriving DecidableEq, Repr

structure State where
  environment : Environment
  result : Option Run

def State.enter (disk : FileSystem) (home : List String) : State := ⟨.enter disk home, none⟩

def projectFileName : String := ProjectFile.fileName

def severitySettings (rule severity : String) : String :=
  "\n[tool.featurelint.rules]\n" ++ rule ++ " = \"" ++ severity ++ "\"\n"

def wordsOf (s : String) : List String := (Text.words s.toList).map String.ofList

namespace State

def setFile (state : State) (path text : String) : State :=
  { state with environment := state.environment.setFile path text }

def run (platform : Platform) (state : State) (arguments : List String) : State :=
  let (run, environment) := state.environment.run platform arguments
  ⟨environment, some run⟩

/-- Passes when the last run is as the check says. -/
def check (state : State) (holds : Run → Except Failure Bool) : Except Failure State :=
  match state.result with
  | none => .error .assertion
  | some run => do if ← holds run then pure state else throw .assertion

end State

def outputHolds (run : Run) (part : List Char) : Bool := Text.holds part run.output.toList

def State.perform (platform : Platform) (state : State) : Task → Except Failure State
  | .newProject => pure (state.setFile projectFileName "[tool.featurelint]\n")
  | .noProjectFile => pure state
  | .exampleFeature name =>
    match exampleFeatures.lookup name with
    | some text => pure (state.setFile ("features/" ++ name ++ ".feature") text)
    | none => throw .noSuchExample
  | .ruleSeverity rule severity =>
    match state.environment.files.lookup projectFileName with
    | some text => pure (state.setFile projectFileName (text ++ severitySettings rule severity))
    | none => throw .noProjectFile
  | .run arguments => pure (state.run platform (wordsOf arguments))
  | .runPlain => pure (state.run platform [])
  | .exitCode written =>
    state.check fun run ↦
      match Text.integer? written.toList with
      | some code => pure (code = run.exitCode)
      | none => throw .notNumber
  | .outputHoldsText docString =>
    state.check fun run ↦
      match docString with
      | some text => pure (outputHolds run (Text.strip text.toList))
      | none => throw .noDocString
  | .outputHolds message => state.check fun run ↦ pure (outputHolds run message.toList)
  | .outputLacks message => state.check fun run ↦ pure !(outputHolds run message.toList)

/-- A scenario as its runner plays it: the step function that is called next depends on how the
calls before it have ended. -/
inductive Play where
  | done
  | call (task : Task) (next : Option Failure → Play)

structure Result where
  failure : Option Failure
  state : State

def State.call (platform : Platform) (state : State) (task : Task) : Result :=
  match state.perform platform task with
  | .ok next => ⟨none, next⟩
  | .error failure => ⟨some failure, state⟩

def Play.results (platform : Platform) (state : State) : Play → List Result
  | done => []
  | call task next =>
    let result := state.call platform task
    result :: (next result.failure).results platform result.state

def lastState (state : State) (results : List Result) : State :=
  (results.getLast?.map Result.state).getD state

/-- Scenarios one after the other on one disk. Each has a directory for its home, which is made when
it begins and taken away when it ends. -/
def suite (platform : Platform) (disk : FileSystem) :
    List (List String × Play) → List (List Result)
  | [] => []
  | (home, play) :: scenarios =>
    let results := play.results platform (.enter disk home)
    results ::
      suite platform (lastState (.enter disk home) results).environment.leave scenarios

end GherkinLint.Acceptance
