import GherkinLint.CommandLine
import GherkinLint.Packages.Gherkin.Message
import GherkinLint.Packages.Toml

namespace GherkinLint.Click

open CommandLine

inductive Flag where
  | listRules
  | verbose
  | version
  | help
  deriving DecidableEq, Repr

def flag? (name : String) : Option Flag :=
  [("--list-rules", .listRules), ("--verbose", .verbose), ("--version", .version),
    ("--help", .help)].lookup name

def usage : String := "Usage: main [OPTIONS] [FILES]..."

def helpText : String :=
  "\n".intercalate
    [usage,
      "",
      "Options:",
      "  --list-rules  List the rules and exit",
      "  --verbose",
      "  --version     Show the version and exit.",
      "  --help        Show this message and exit."]

def versionText : String := "main, version 0.1.0"

inductive UsageFault where
  | noSuchOption (name : String)
  | takesNoValue (name : String)
  deriving DecidableEq, Repr

def UsageFault.message : UsageFault → String
  | noSuchOption name =>
    "\n".intercalate
      [usage, "Try 'main --help' for help.", "", "Error: No such option " ++ Text.quote name ++ "."]
  | takesNoValue name => "Error: Option " ++ Text.quote name ++ " does not take a value."

structure Arguments where
  flags : List Flag
  files : List String
  deriving DecidableEq, Repr

def splitValue (argument : String) : String × Option String :=
  let name := argument.toList.takeWhile (· ≠ '=')
  if name.length = argument.length then (argument, none)
  else (String.ofList name, some (String.ofList (argument.toList.drop (name.length + 1))))

def unknownName (argument name : String) : String :=
  if argument.toList.take 2 = ['-', '-'] then name else String.ofList (argument.toList.take 2)

def flagOf (argument : String) : Except UsageFault Flag :=
  let (name, value) := splitValue argument
  match flag? name with
  | none => .error (.noSuchOption (unknownName argument name))
  | some flag => if value.isSome then .error (.takesNoValue name) else .ok flag

/-- Options may stand anywhere before a double dash; a single dash is the name of a file. -/
def arguments : List String → Except UsageFault Arguments
  | [] => .ok ⟨[], []⟩
  | argument :: rest =>
    if argument = "--" then .ok ⟨[], rest⟩
    else if argument.toList.head? = some '-' ∧ argument ≠ "-" then do
      let flag ← flagOf argument
      let more ← arguments rest
      pure { more with flags := flag :: more.flags }
    else do
      let more ← arguments rest
      pure { more with files := argument :: more.files }

def invocation (given : List String) : Invocation :=
  match arguments given with
  | .error fault => .refuse fault.message
  | .ok arguments =>
    match arguments.flags.find? fun flag ↦ flag = .version ∨ flag = .help with
    | some .version => .answer versionText
    | some _ => .answer helpText
    | none =>
      .call ⟨arguments.flags.contains .verbose, arguments.flags.contains .listRules,
        arguments.files.map Path.ofText⟩

end GherkinLint.Click

namespace GherkinLint

/-- The packages as far as they are imitated here. -/
def Platform.standard : Platform where
  parser := Gherkin.parse
  toml := Toml.read
  options := Click.invocation
  names := Pattern.noNames

end GherkinLint
