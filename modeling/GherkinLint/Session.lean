import GherkinLint.Configuration
import GherkinLint.Placeholder
import GherkinLint.Rule.UnusedVariables
import GherkinLint.Source

namespace GherkinLint

structure Session where
  document : Document
  rule : Rule
  scans : List (String × Placeholder.Cursor)

namespace Session

inductive Step where
  /-- Begins a scan, in place of an earlier one of that name. -/
  | openScan (id text : String)
  | next (id : String)
  | load (source : Source)
  | setRule (rule : Rule)
  | update (severity : Data)
  | configure (settings : Data)
  | showRule
  | run
  /-- Runs the rule even when it is off. -/
  | check

inductive Answer where
  | opened (id : String)
  | placeholder (found : Option Placeholder)
  | loaded (uri : String) (hasFeature : Bool)
  | rule (rule : Rule)
  | diagnostics (found : List Diagnostic)

inductive Fault where
  | source (fault : SourceFault)
  | severity (e : InvalidSeverity)
  | configuration (fault : ConfigurationFault)

def start : Session := ⟨⟨"", none, []⟩, UnusedVariables.rule, []⟩

def setScan (session : Session) (id : String) (cursor : Placeholder.Cursor) : Session :=
  { session with scans := (id, cursor) :: session.scans.filter (·.1 ≠ id) }

def advance (session : Session) (id : String) : Option Placeholder × Session :=
  match session.scans.lookup id with
  | none => (none, session)
  | some cursor =>
    match cursor.next? with
    | some (placeholder, cursor) => (some placeholder, session.setScan id cursor)
    | none => (none, session.setScan id cursor.finish)

def withRule (session : Session) (rule : Rule) : Answer × Session :=
  (.rule rule, { session with rule })

variable (parse : Parser) (names : Pattern.CharacterNames)

def perform (session : Session) : Step → Except Fault (Answer × Session)
  | .openScan id text => pure (.opened id, session.setScan id (.start text))
  | .next id =>
    let (found, session) := session.advance id
    pure (.placeholder found, session)
  | .load source => do
    let document ← (source.document parse).mapError .source
    pure (.loaded document.uri document.feature.isSome, { session with document })
  | .setRule rule => pure (session.withRule rule)
  | .update severity => do
    let rule ← (session.rule.update severity).mapError .severity
    pure (session.withRule rule)
  | .configure settings => do
    let configuration ←
      (Configuration.ofSettings names .standard "" settings).mapError .configuration
    pure (session.withRule (configuration.rules.head?.getD session.rule))
  | .showRule => pure (.rule session.rule, session)
  | .run => pure (.diagnostics (session.rule.run session.document), session)
  | .check => pure (.diagnostics (session.rule.check session.document), session)

def answers (session : Session) : List Step → List (Except Fault Answer)
  | [] => []
  | step :: steps =>
    match session.perform parse names step with
    | .ok (answer, session) => .ok answer :: session.answers steps
    | .error fault => .error fault :: session.answers steps

end Session

end GherkinLint
