import GherkinLint.LintRun

namespace GherkinLint

namespace CommandLine

structure Options where
  verbose : Bool
  listRules : Bool
  files : List Path
  deriving DecidableEq, Repr

/-- What a reader of the command line does with the arguments: it calls the program, it answers them
with a text such as the help, or it refuses them. -/
inductive Invocation where
  | call (options : Options)
  | answer (text : String)
  | refuse (text : String)
  deriving DecidableEq, Repr

end CommandLine

/-- What the program is built on, none of which is its own: the parser of feature files, the reader
of TOML, the reader of the command line, and the names of characters. -/
structure Platform where
  parser : Parser
  toml : TomlReader
  options : List String → CommandLine.Invocation
  names : Pattern.CharacterNames

namespace CommandLine

def shown (verbose : Bool) (events : List Event) : List Event :=
  if verbose then events else events.filter fun event ↦ !(event matches .logged ..)

end CommandLine

namespace Run

def ofProject (platform : Platform) (fs : FileSystem) (listRules : Bool) (files : List Path) :
    Run :=
  match ProjectFile.findIn fs with
  | .error fault => ofFault fault
  | .ok file =>
    let run := match file.configuration platform.toml platform.names with
      | .error fault => ofFault fault
      | .ok configuration => ofConfiguration platform.parser fs listRules files configuration
    run.after [configurationLog file]

def main (platform : Platform) (fs : FileSystem) (options : CommandLine.Options) : Run :=
  let run := ofProject platform fs options.listRules options.files
  { run with events := CommandLine.shown options.verbose run.events }

end Run

def CommandLine.run (platform : Platform) (fs : FileSystem) (given : List String) : Run :=
  match platform.options given with
  | .call options => .main platform fs options
  | .answer text => .print text 0
  | .refuse text => ⟨[.warned text], .exit 2⟩

namespace Event

def text : Event → String
  | printed text => text ++ "\n"
  | warned text => text ++ "\n"
  | logged logger message => "DEBUG:" ++ logger ++ ":" ++ message ++ "\n"

def isPrinted : Event → Bool
  | printed _ => true
  | _ => false

end Event

namespace Run

def output (run : Run) : String := String.join (run.events.map Event.text)

def printed (run : Run) : String :=
  String.join ((run.events.filter Event.isPrinted).map Event.text)

def besides (run : Run) : String :=
  String.join ((run.events.filter fun event ↦ !event.isPrinted).map Event.text)

def exitCode (run : Run) : Nat :=
  match run.ending with
  | .exit code => code
  | .escaped _ => 1

end Run

/-- The class of the exception that ends the run. -/
def Escape.kind : Escape → String
  | raised e => e.kind
  | message .notList => "TypeError"
  | message .notObject => "AttributeError"
  | message .twoArguments => "AssertionError"
  | configuration fault =>
    match fault with
    | .notTable _ => "AttributeError"
    | .wrongKind .. => "TypeError"
    | .unusableInclude .repeatTooLarge => "OverflowError"
    | .unusableInclude _ => "ValueError"
    | .invalidInclude .. => "InvalidInclude"
    | .unknownRules _ => "UnknownRule"
    | .invalidSeverity _ => "InvalidSeverity"

end GherkinLint
