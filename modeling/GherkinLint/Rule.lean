import GherkinLint.Data
import GherkinLint.Document

namespace GherkinLint

structure Diagnostic where
  message : String
  rule : String
  line : Int
  /-- Zero stands for a column that is not known. -/
  column : Int
  deriving DecidableEq, Repr

def Diagnostic.render (path : String) (d : Diagnostic) : String :=
  path ++ ":" ++ toString d.line ++ ":" ++ toString d.column ++ ": " ++ d.message ++
    " [" ++ d.rule ++ "]"

structure Documentation.Example where
  title : String
  description : String
  config : Data
  deriving Repr

structure Documentation where
  description : String
  examples : List Documentation.Example
  deriving Repr

structure Rule where
  name : String
  check : Document → List Diagnostic
  documentation : Documentation
  severity : String

structure InvalidSeverity where
  rule : String
  severity : Data
  deriving Repr

def InvalidSeverity.message (e : InvalidSeverity) : String :=
  "\"" ++ e.severity.render ++ "\" is not a valid severity for " ++ e.rule

namespace Rule

def severities : List String := ["off", "warn", "error"]

def isEnabled (rule : Rule) : Bool := rule.severity ≠ "off"

/-- The diagnostics of the rule; none when it is off. -/
def run (rule : Rule) (document : Document) : List Diagnostic :=
  if rule.isEnabled then rule.check document else []

def update (rule : Rule) (severity : Data) : Except InvalidSeverity Rule :=
  match severity with
  | .text s =>
    if s ∈ severities then .ok { rule with severity := s } else .error ⟨rule.name, severity⟩
  | _ => .error ⟨rule.name, severity⟩

end Rule

abbrev RuleTable := List Rule

end GherkinLint
