import GherkinLint.Proofs.LintRun.Log
import GherkinLint.Proofs.LintRun.Severity

namespace GherkinLint

namespace CommandLine

/-- The option for verbose runs may be added anywhere before a double dash. It turns the log on, and
changes nothing else. -/
def TakesVerbose (options : List String → Invocation) : Prop :=
  ∀ before after o, "--" ∉ before → options (before ++ after) = .call o →
    options (before ++ "--verbose" :: after) = .call { o with verbose := true }

def asked (platform : Platform) (fs : FileSystem) (o : Options) : Run :=
  Run.ofProject platform fs o.listRules o.files

theorem run_eq_asked {platform : Platform} {given : List String} {o : Options}
    (hgiven : platform.options given = .call o) (fs : FileSystem) :
    run platform fs given =
      ⟨shown o.verbose (asked platform fs o).events, (asked platform fs o).ending⟩ := by
  rw [run, hgiven]
  rfl

end CommandLine

def Event.IsTold (event : Event) : Prop := ∀ text, event ≠ .warned text

namespace Run

theorem isTold_ofFile (parse : Parser) (configuration : Configuration) (fs : FileSystem)
    (path : Path) : ∀ event ∈ (FileReport.ofFile parse configuration fs path).events,
      event.IsTold := by
  intro event hevent text htext
  rw [htext, FileReport.ofFile] at hevent
  cases hread : Document.ofFile parse fs path with
  | ok document =>
    rw [hread] at hevent
    simp [FileReport.ofDocument, FileReport.counts, FileReport.parserLog, FileReport.ruleLog]
      at hevent
  | error fault =>
    rw [hread] at hevent
    cases fault <;> simp [FileReport.parserLog] at hevent

theorem isTold_ofReports {reports : List FileReport} (passed : Bool)
    (h : ∀ report ∈ reports, ∀ event ∈ report.events, event.IsTold) :
    ∀ event ∈ (ofReports passed reports).events, event.IsTold := by
  induction reports generalizing passed with
  | nil => cases passed <;> simp [ofReports, print, Event.IsTold]
  | cons report rest ih =>
    obtain ⟨hreport, hrest⟩ := List.forall_mem_cons.1 h
    rw [ofReports]
    cases report.result with
    | error => exact hreport
    | ok passes => exact List.forall_mem_append.2 ⟨hreport, ih (passed && passes) hrest⟩

theorem isTold_ofFault (fault : ProjectFault) : ∀ event ∈ (ofFault fault).events, event.IsTold := by
  unfold ofFault
  split
  · simp [print, Event.IsTold]
  · simp
  · split <;> simp [print, Event.IsTold]

theorem isTold_ofFiles (parse : Parser) (configuration : Configuration) (fs : FileSystem)
    (paths : List Path) :
    ∀ event ∈ (ofFiles parse configuration fs paths).events, event.IsTold := by
  unfold ofFiles
  split
  · simp [print, Event.IsTold]
  · refine List.forall_mem_append.2 ⟨by simp [Event.IsTold], isTold_ofReports true ?_⟩
    exact List.forall_mem_map.2 fun path _ ↦ isTold_ofFile parse configuration fs path

/-- Only of its arguments does a run complain, and these are understood. -/
theorem isTold_asked (platform : Platform) (fs : FileSystem) (o : CommandLine.Options) :
    ∀ event ∈ (CommandLine.asked platform fs o).events, event.IsTold := by
  unfold CommandLine.asked ofProject
  cases ProjectFile.findIn fs with
  | error fault => exact isTold_ofFault fault
  | ok file =>
    refine List.forall_mem_cons.2 ⟨by simp [configurationLog, Event.IsTold], ?_⟩
    cases file.configuration platform.toml platform.names with
    | error fault => exact isTold_ofFault fault
    | ok configuration =>
      dsimp only
      unfold ofConfiguration
      split
      · simp [Event.IsTold]
      · exact isTold_ofFiles platform.parser configuration fs _

theorem besides_of_isTold {run : Run} (h : ∀ event ∈ run.events, event.IsTold) :
    run.besides = String.join (run.records.map LogRecord.text) := by
  have htexts : (run.events.filter fun event ↦ !event.isPrinted).map Event.text =
      run.records.map LogRecord.text := by
    rw [records]
    generalize run.events = events at h
    induction events with
    | nil => rfl
    | cons event events ih =>
      obtain ⟨hevent, hevents⟩ := List.forall_mem_cons.1 h
      cases event with
      | printed => exact ih hevents
      | warned text => exact absurd rfl (hevent text)
      | logged logger message => exact congrArg (List.cons _) (ih hevents)
  rw [besides, htexts]

theorem records_hidden (events : List Event) (ending : Ending) :
    records ⟨CommandLine.shown false events, ending⟩ = [] := by
  refine List.filterMap_eq_nil_iff.2 fun event hevent ↦ ?_
  obtain ⟨-, hshown⟩ := List.mem_filter.1 hevent
  cases event with
  | printed | warned => rfl
  | logged => cases hshown

/-- The log of a run agrees with its lines. It tells that the settings are read, if there is a file
that holds them; and if they are valid and there are files to lint, it goes on with those. -/
structure Logs (run : Run) (platform : Platform) (fs : FileSystem) (o : CommandLine.Options) :
    Prop where
  unread : ∀ fault, ProjectFile.findIn fs = .error fault → run.records = []
  refused : ∀ file fault, ProjectFile.findIn fs = .ok file →
    file.configuration platform.toml platform.names = .error fault → run.records = [.reading file]
  listed : ∀ file configuration, ProjectFile.findIn fs = .ok file →
    file.configuration platform.toml platform.names = .ok configuration → o.listRules = true →
    run.records = [.reading file]
  idle : ∀ file configuration, ProjectFile.findIn fs = .ok file →
    file.configuration platform.toml platform.names = .ok configuration →
    found configuration fs o.files = [] → run.records = [.reading file]
  linted : ∀ file configuration, ProjectFile.findIn fs = .ok file →
    file.configuration platform.toml platform.names = .ok configuration → o.listRules = false →
    found configuration fs o.files ≠ [] →
    ∃ lines records,
      run.lines = "Linting the following files:" ::
        (found configuration fs o.files).map (fun path ↦ "- " ++ path.text) ++ lines ∧
      run.records = .reading file :: records ∧
      Course platform.parser configuration fs (found configuration fs o.files) lines records
        run.ending

theorem records_ofFault (fault : ProjectFault) : (ofFault fault).records = [] := by
  unfold ofFault
  split
  · rfl
  · rfl
  · split <;> rfl

section Asked

variable {platform : Platform} {fs : FileSystem} {o : CommandLine.Options} {file : ProjectFile}

theorem asked_of_fault {fault : ProjectFault} (hfile : ProjectFile.findIn fs = .ok file)
    (h : file.configuration platform.toml platform.names = .error fault) :
    CommandLine.asked platform fs o = (ofFault fault).after [configurationLog file] := by
  rw [CommandLine.asked, ofProject, hfile]
  dsimp only
  rw [h]

theorem asked_of_configuration {configuration : Configuration}
    (hfile : ProjectFile.findIn fs = .ok file)
    (h : file.configuration platform.toml platform.names = .ok configuration) :
    CommandLine.asked platform fs o = (ofConfiguration platform.parser fs o.listRules o.files
      configuration).after [configurationLog file] := by
  rw [CommandLine.asked, ofProject, hfile]
  dsimp only
  rw [h]

theorem records_reading (file : ProjectFile) (run : Run) :
    (run.after [configurationLog file]).records = .reading file :: run.records := rfl

theorem logs_asked (platform : Platform) (fs : FileSystem) (o : CommandLine.Options) :
    (CommandLine.asked platform fs o).Logs platform fs o where
  unread fault hfault := by
    rw [CommandLine.asked, ofProject, hfault]
    exact records_ofFault fault
  refused file fault hfile h := by
    rw [asked_of_fault hfile h, records_reading, records_ofFault]
  listed file configuration hfile h hlist := by
    rw [asked_of_configuration hfile h, records_reading, hlist, ofConfiguration, if_pos rfl,
      records, Event.filterMap_record?_printed]
  idle file configuration hfile h hnone := by
    have hnone : fs.filesFor (configuration.files.search ·.text) o.files = [] := hnone
    rw [asked_of_configuration hfile h, records_reading, ofConfiguration, hnone]
    split
    · rw [records, Event.filterMap_record?_printed]
    · rfl
  linted file configuration hfile h hlist hne := by
    have hsigned := ProjectFile.signed_of_configuration h
    obtain ⟨lines, hlines, hcourse⟩ :=
      @course_ofFiles platform.parser configuration fs _ hsigned hne
    have hasked : CommandLine.asked platform fs o = (ofFiles platform.parser configuration fs
        (found configuration fs o.files)).after [configurationLog file] := by
      rw [asked_of_configuration hfile h, hlist]
      rfl
    rw [hasked]
    exact ⟨lines, _, hlines, records_reading file _, hcourse⟩

end Asked

structure AddsLog (quiet verbose : Run) : Prop where
  printed : verbose.printed = quiet.printed
  ending : verbose.ending = quiet.ending
  exitCode : verbose.exitCode = quiet.exitCode
  besides : verbose.besides = String.join (verbose.records.map LogRecord.text)

end Run

namespace CommandLine

/-- The option for verbose runs adds a log to what a run does, and changes nothing else; and the log
agrees with what is printed. A run without the option writes nothing besides its output. -/
theorem verbose_adds_log {platform : Platform} (htakes : TakesVerbose platform.options)
    (fs : FileSystem) {before after : List String} {o : Options} (hbefore : "--" ∉ before)
    (hgiven : platform.options (before ++ after) = .call o) :
    (run platform fs (before ++ after)).AddsLog
      (run platform fs (before ++ "--verbose" :: after)) ∧
    (o.verbose = false → (run platform fs (before ++ after)).besides = "") ∧
    (run platform fs (before ++ "--verbose" :: after)).Logs platform fs o := by
  have hquiet := run_eq_asked hgiven fs
  have hverbose : run platform fs (before ++ "--verbose" :: after) = asked platform fs o :=
    run_eq_asked (htakes before after o hbefore hgiven) fs
  rw [hverbose]
  refine ⟨⟨?_, ?_, ?_, Run.besides_of_isTold (Run.isTold_asked platform fs o)⟩, fun hoff ↦ ?_,
    Run.logs_asked platform fs o⟩
  · rw [hquiet, Run.printed_eq_lines, Run.printed_eq_lines, Run.lines_shown]
    rfl
  · rw [hquiet]
  · rw [hquiet]
    rfl
  · have htold : ∀ event ∈ (run platform fs (before ++ after)).events, event.IsTold := by
      rw [hquiet, hoff]
      exact fun event hevent ↦
        Run.isTold_asked platform fs o event (List.mem_of_mem_filter hevent)
    rw [Run.besides_of_isTold htold, hquiet, hoff, Run.records_hidden]
    rfl

theorem takesVerbose_knowing (features : List (String × Data))
    (projects : List (String × Members Data)) :
    TakesVerbose (Platform.knowing features projects).options := by
  intro before after o _ h
  have hflag : (!Text.startsWith "--verbose".toList ['-', '-']) = false := by decide
  have hfiles : (before ++ "--verbose" :: after).filter
      (fun a ↦ !Text.startsWith a.toList ['-', '-']) =
        (before ++ after).filter fun a ↦ !Text.startsWith a.toList ['-', '-'] := by
    rw [List.filter_append, List.filter_append, List.filter_cons, hflag]
    rfl
  cases h
  simp only [Platform.knowing, hfiles]
  simp

def soupText : String := "Feature:\nScenario: eat\nGiven a <dish>\nExamples:\n|dish|drink|spoon|\n"

def emptyText : String := "# nothing\n"

def pantryPlatform : Platform :=
  .knowing [(soupText, featureMessage "" [dishOutline "eat" 2 [("dish", 2), ("drink", 7),
      ("spoon", 13)]]),
    (emptyText, .object [("comments", .list [.object [located 1 1, ("text", .text "# nothing")]])]),
    (Run.bothText, featureMessage "x" [.object [("scenario", Run.bothScenario)]])] [plainProject]

/-- A project with a file that has two unused columns, one that has no feature, one that is not in
UTF-8, and one that ends a run. -/
def pantry : FileSystem where
  root := .directory [("project", .directory
    [(ProjectFile.fileName, .file (Text.Utf8.encode plainProject.1.toList)),
      ("soup.feature", .file (Text.Utf8.encode soupText.toList)),
      ("empty.feature", .file (Text.Utf8.encode emptyText.toList)),
      ("latin.feature", .file [0xff]),
      ("both.feature", .file (Text.Utf8.encode Run.bothText.toList))])]
  workingDirectory := ["project"]
  top := []

def pantryFiles : List String := ["latin.feature", "soup.feature", "both.feature", "soup.feature"]

def pantryOptions : Options := ⟨false, false, ("empty.feature" :: pantryFiles).map Path.ofText⟩

def pantryQuiet : Run := run pantryPlatform pantry (["empty.feature"] ++ pantryFiles)

def pantryVerbose : Run :=
  run pantryPlatform pantry (["empty.feature"] ++ "--verbose" :: pantryFiles)

/-- The option stands between the files, and the last of them is not come to. -/
theorem verbose_adds_log_pantry :
    TakesVerbose pantryPlatform.options ∧ "--" ∉ ["empty.feature"] ∧
    pantryPlatform.options (["empty.feature"] ++ pantryFiles) = .call pantryOptions ∧
    pantryQuiet.AddsLog pantryVerbose ∧ pantryQuiet.besides = "" ∧
    pantryVerbose.Logs pantryPlatform pantry pantryOptions ∧
    pantryVerbose.records.map (·.message) =
      ["Reading configuration from /project/pyproject.toml", "Parsing empty.feature",
        "empty.feature has no feature", "no-unused-variables reported 0 error(s) in empty.feature",
        "Parsing latin.feature", "Parsing soup.feature",
        "no-unused-variables reported 2 error(s) in soup.feature", "Parsing both.feature"] := by
  have htakes : TakesVerbose pantryPlatform.options := takesVerbose_knowing _ _
  have hbefore : "--" ∉ ["empty.feature"] := by decide
  have hgiven :
      pantryPlatform.options (["empty.feature"] ++ pantryFiles) = .call pantryOptions := by
    decide +kernel
  obtain ⟨hadds, hquiet, hlogs⟩ := verbose_adds_log htakes pantry hbefore hgiven
  exact ⟨htakes, hbefore, hgiven, hadds, hquiet rfl, hlogs, by decide +kernel⟩

end CommandLine

end GherkinLint
