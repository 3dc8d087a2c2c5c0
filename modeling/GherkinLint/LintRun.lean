import GherkinLint.Project

namespace GherkinLint

inductive Event where
  | printed (text : String)
  | warned (text : String)
  | logged (logger message : String)
  deriving DecidableEq, Repr

/-- A fault that a run does not handle. -/
inductive Escape where
  | raised (e : Raised)
  | message (fault : MessageFault)
  | configuration (fault : ConfigurationFault)
  deriving Repr

inductive Ending where
  | exit (code : Nat)
  | escaped (fault : Escape)
  deriving Repr

structure Run where
  events : List Event
  ending : Ending
  deriving Repr

def Run.after (events : List Event) (run : Run) : Run := { run with events := events ++ run.events }

def Run.print (text : String) (code : Nat) : Run := ⟨[.printed text], .exit code⟩

structure FileReport where
  events : List Event
  result : Except Escape Bool

namespace FileReport

def parserLog (message : String) : Event := .logged "featurelint.parser" message

def ruleLog (message : String) : Event := .logged "featurelint.rule" message

def diagnostics (configuration : Configuration) (document : Document) :
    List (String × Diagnostic) :=
  configuration.enabledRules.flatMap fun rule ↦
    (rule.run document).map fun d ↦ (rule.severity, d)

def counts (configuration : Configuration) (document : Document) : List Event :=
  configuration.enabledRules.map fun rule ↦
    ruleLog (rule.name ++ " reported " ++ toString (rule.run document).length ++ " error(s) in " ++
      document.uri)

def ofDocument (configuration : Configuration) (path : Path) (document : Document) : FileReport :=
  let found := diagnostics configuration document
  let absent := if document.feature.isNone then [parserLog (path.text ++ " has no feature")] else []
  ⟨absent ++ counts configuration document ++
      found.map fun (severity, d) ↦ .printed (severity ++ ": " ++ d.render path.text),
    .ok (found.all fun (severity, _) ↦ severity ≠ "error")⟩

def ofFile (parse : Parser) (configuration : Configuration) (fs : FileSystem) (path : Path) :
    FileReport :=
  let report : FileReport :=
    match Document.ofFile parse fs path with
    | .ok document => ofDocument configuration path document
    | .error (.unreadable e) =>
      ⟨[.printed (path.text ++ " could not be parsed:"), .printed e.reason], .ok false⟩
    | .error (.message fault) => ⟨[], .error (.message fault)⟩
    | .error (.raised e) => ⟨[], .error (.raised e)⟩
  { report with events := parserLog ("Parsing " ++ path.text) :: report.events }

end FileReport

namespace Run

/-- The reports of files one after the other. `passed` tells whether all files before them have
passed. -/
def ofReports (passed : Bool) : List FileReport → Run
  | [] =>
    if passed then print "Linting ran successfully" 0 else print "Linting failed." 1
  | report :: rest =>
    match report.result with
    | .error fault => ⟨report.events, .escaped fault⟩
    | .ok passes => (ofReports (passed && passes) rest).after report.events

def ofFiles (parse : Parser) (configuration : Configuration) (fs : FileSystem)
    (paths : List Path) : Run :=
  if paths.isEmpty then print "No files to lint." 0
  else
    (ofReports true (paths.map (FileReport.ofFile parse configuration fs))).after
      (.printed "Linting the following files:" ::
        paths.map fun path ↦ .printed ("- " ++ path.text))

def describeRule (rule : Rule) : String :=
  rule.name ++ " (" ++ rule.severity ++ "): " ++ rule.documentation.description

def ofFault : ProjectFault → Run
  | .noFile searched =>
    print ("\"" ++ ProjectFile.fileName ++ "\" could not be located in the search paths: " ++
      (Data.list (searched.map .text)).render) 1
  | .raised e => ⟨[], .escaped (.raised e)⟩
  | .configuration fault =>
    match fault.message with
    | some message => print ("Invalid configuration: " ++ message) 1
    | none => ⟨[], .escaped (.configuration fault)⟩

def ofConfiguration (parse : Parser) (fs : FileSystem) (listRules : Bool) (files : List Path)
    (configuration : Configuration) : Run :=
  if listRules then
    ⟨configuration.rules.map fun rule ↦ .printed (describeRule rule), .exit 0⟩
  else
    ofFiles parse configuration fs (fs.filesFor (configuration.files.search ·.text) files)

def configurationLog (file : ProjectFile) : Event :=
  .logged "featurelint.config" ("Reading configuration from " ++ file.path.text)

end Run

end GherkinLint
