import GherkinLint.Proofs.Document.Shape
import GherkinLint.Proofs.LintRun.Ending

namespace GherkinLint

/-- The parser gives messages of the cucumber shape, and raises nothing but parser errors. -/
structure Parser.GivesMessages (parse : Parser) : Prop where
  raises : ∀ text e, parse text ≠ .error (.raised e)
  shaped : ∀ text d, parse text = .ok d →
    ∃ members, d = .object members ∧ Message.Shaped .document members

/-- The message of the text has a step with a data table and a doc string. -/
def Parser.Overloads (parse : Parser) (text : String) : Prop :=
  ∃ members, parse text = .ok (.object members) ∧ Message.Overloaded .document members

def FileSystem.Overloaded (parse : Parser) (fs : FileSystem) (path : Path) : Prop :=
  ∃ text, fs.readText path = .ok text ∧ parse.Overloads text

/-- The source is answered, but for an overloaded one, whose fault has no report. -/
def AnsweredUnless (overloaded : Prop) (uri : String) (result : Except SourceFault Document) :
    Prop :=
  (overloaded → result = .error (.message .twoArguments)) ∧ (¬overloaded → Answered uri result)

section Sources

variable {parse : Parser} (hparse : parse.GivesMessages) {fs : FileSystem} {path : Path}
include hparse

theorem Document.ofText_answered (uri text : String) :
    AnsweredUnless (parse.Overloads text) uri (ofText parse uri text) := by
  unfold ofText Parser.Overloads
  cases hraw : parse text with
  | error fault =>
    cases fault with
    | parserError message => exact ⟨by simp, fun _ ↦ .inr ⟨message, rfl⟩⟩
    | raised e => exact absurd hraw (hparse.raises text e)
  | ok d =>
    obtain ⟨members, rfl, hshaped⟩ := hparse.shaped text d hraw
    obtain ⟨hover, hread⟩ := hshaped.ofMessage_cases uri
    constructor
    · rintro ⟨others, heq, hothers⟩
      cases heq
      exact congrArg (Except.mapError SourceFault.message) (hover hothers)
    · intro hno
      obtain ⟨document, hdocument⟩ := hread fun h ↦ hno ⟨members, rfl, h⟩
      exact .inl ⟨document, congrArg (Except.mapError SourceFault.message) hdocument⟩

theorem Document.ofFile_answered :
    AnsweredUnless (fs.Overloaded parse path) path.text (ofFile parse fs path) := by
  unfold ofFile FileSystem.Overloaded
  cases fs.readText path with
  | error reason => exact ⟨by simp, fun _ ↦ .inr ⟨reason, rfl⟩⟩
  | ok text =>
    obtain ⟨hover, hanswered⟩ := ofText_answered hparse path.text text
    constructor
    · rintro ⟨other, heq, hother⟩
      cases heq
      exact hover hother
    · exact fun hno ↦ hanswered fun h ↦ hno ⟨text, rfl, h⟩

theorem FileSystem.breaks_iff {fault : Escape} :
    fs.Breaks parse path fault ↔ fs.Overloaded parse path ∧ fault = .message .twoArguments := by
  obtain ⟨hover, hanswered⟩ := @Document.ofFile_answered _ hparse fs path
  by_cases h : fs.Overloaded parse path
  · unfold Breaks
    rw [hover h]
    simp [h, SourceFault.escape?, eq_comm]
  · refine iff_of_false ?_ fun hno ↦ h hno.1
    exact FileSystem.answered_iff.1 (hanswered h) fault

end Sources

namespace Run

/-- A file is linted, with all its diagnostics told, or is reported with the reason why it cannot
be parsed. -/
def Tells (run : Run) (parse : Parser) (configuration : Configuration) (fs : FileSystem)
    (path : Path) : Prop :=
  (∃ document, Document.ofFile parse fs path = .ok document ∧
    ∀ found ∈ FileReport.diagnostics configuration document,
      .printed (found.1 ++ ": " ++ found.2.render path.text) ∈ run.events) ∨
  ∃ reason, Document.ofFile parse fs path = .error (.unreadable ⟨path.text, reason⟩) ∧
    .printed (path.text ++ " could not be parsed:") ∈ run.events ∧ .printed reason ∈ run.events

theorem tells_of_events {run : Run} {parse : Parser} {configuration : Configuration}
    {fs : FileSystem} {path : Path} (h : Answered path.text (Document.ofFile parse fs path))
    (hevents : ∀ event ∈ (FileReport.ofFile parse configuration fs path).events,
      event ∈ run.events) :
    run.Tells parse configuration fs path := by
  unfold FileReport.ofFile at hevents
  rcases h with ⟨document, hok⟩ | ⟨reason, herror⟩
  · refine .inl ⟨document, hok, fun found hfound ↦ hevents _ ?_⟩
    rw [hok]
    refine List.mem_cons_of_mem _ (List.mem_append_right _ ?_)
    exact List.mem_map_of_mem hfound
  · refine .inr ⟨reason, herror, hevents _ ?_, hevents _ ?_⟩ <;> simp [herror]

theorem printed_mem_shown {text : String} {events : List Event} (verbose : Bool)
    (h : .printed text ∈ events) : .printed text ∈ CommandLine.shown verbose events := by
  cases verbose
  · exact List.mem_filter.2 ⟨h, rfl⟩
  · exact h

theorem getLast?_shown {text : String} {events : List Event} (verbose : Bool)
    (h : events.getLast? = some (.printed text)) :
    (CommandLine.shown verbose events).getLast? = some (.printed text) := by
  cases verbose
  · obtain ⟨before, rfl⟩ := List.getLast?_eq_some_iff.1 h
    simp [CommandLine.shown]
  · exact h

theorem Concluded.of_shown {run : Run} (h : run.Concluded) (verbose : Bool) :
    Concluded ⟨CommandLine.shown verbose run.events, run.ending⟩ := by
  rcases h with ⟨hending, hlast⟩ | ⟨hending, hlast⟩
  · exact .inl ⟨hending, getLast?_shown verbose hlast⟩
  · exact .inr ⟨hending, getLast?_shown verbose hlast⟩

theorem Tells.of_shown {run : Run} {parse : Parser} {configuration : Configuration}
    {fs : FileSystem} {path : Path} (h : run.Tells parse configuration fs path) (verbose : Bool) :
    Tells ⟨CommandLine.shown verbose run.events, run.ending⟩ parse configuration fs path := by
  rcases h with ⟨document, hok, htold⟩ | ⟨reason, herror, hhead, hreason⟩
  · exact .inl ⟨document, hok, fun found hfound ↦ printed_mem_shown verbose (htold found hfound)⟩
  · exact .inr ⟨reason, herror, printed_mem_shown verbose hhead, printed_mem_shown verbose hreason⟩

/-- The options ask for a lint run of a project with this configuration, and stand for these
files. -/
structure Lints (platform : Platform) (fs : FileSystem) (options : CommandLine.Options)
    (configuration : Configuration) (found : List Path) : Prop where
  listRules : options.listRules = false
  project : ∃ file, ProjectFile.findIn fs = .ok file ∧
    file.configuration platform.toml platform.names = .ok configuration
  files : found = fs.filesFor (configuration.files.search ·.text) options.files
  found : found ≠ []

theorem main_of_lints {platform : Platform} {fs : FileSystem} {options : CommandLine.Options}
    {configuration : Configuration} {found : List Path}
    (h : Lints platform fs options configuration found) :
    ∃ file, main platform fs options =
      let run := (ofFiles platform.parser configuration fs found).after [configurationLog file]
      ⟨CommandLine.shown options.verbose run.events, run.ending⟩ := by
  obtain ⟨hlist, ⟨file, hfile, hconfiguration⟩, rfl, -⟩ := h
  exact ⟨file, main_of_configuration hlist hfile hconfiguration⟩

variable {platform : Platform} (hparser : platform.parser.GivesMessages)
include hparser

theorem ending_of_overloaded {fs : FileSystem} {options : CommandLine.Options}
    {configuration : Configuration} {found : List Path}
    (h : Lints platform fs options configuration found)
    (hover : ∃ path ∈ found, fs.Overloaded platform.parser path) :
    (main platform fs options).ending = .escaped (.message .twoArguments) := by
  obtain ⟨file, hrun⟩ := main_of_lints h
  obtain ⟨path, hpath, hover⟩ := hover
  have hbreaks : fs.Breaks platform.parser path (.message .twoArguments) :=
    (FileSystem.breaks_iff hparser).2 ⟨hover, rfl⟩
  obtain ⟨other, -, fault, hfault, hending⟩ :=
    @ofFiles_of_breaks _ configuration _ _ ⟨path, hpath, _, hbreaks⟩
  obtain ⟨-, rfl⟩ := (FileSystem.breaks_iff hparser).1 hfault
  rw [hrun]
  exact hending

/-- Every source is read as a document or is reported, and a lint run over files comes to its
verdict and tells of each of them, whatever they hold. The one exception is a step with both a data
table and a doc string: its file is neither read nor reported, and it ends the run. -/
theorem lint_run_answers (uri text : String) (fs : FileSystem) (path : Path)
    (options : CommandLine.Options) (configuration : Configuration) (found : List Path) :
    AnsweredUnless (platform.parser.Overloads text) uri
      (Document.ofText platform.parser uri text) ∧
    AnsweredUnless (fs.Overloaded platform.parser path) path.text
      (Document.ofFile platform.parser fs path) ∧
    (Lints platform fs options configuration found →
      ((∃ path ∈ found, fs.Overloaded platform.parser path) →
        (main platform fs options).ending = .escaped (.message .twoArguments)) ∧
      ((∀ path ∈ found, ¬fs.Overloaded platform.parser path) →
        (main platform fs options).Concluded ∧ ∀ path ∈ found,
          (main platform fs options).Tells platform.parser configuration fs path)) := by
  refine ⟨Document.ofText_answered hparser uri text, Document.ofFile_answered hparser,
    fun h ↦ ⟨ending_of_overloaded hparser h, fun hno ↦ ?_⟩⟩
  obtain ⟨file, hrun⟩ := main_of_lints h
  have hanswered : ∀ path ∈ found,
      Answered path.text (Document.ofFile platform.parser fs path) :=
    fun path hpath ↦ (Document.ofFile_answered hparser).2 (hno path hpath)
  obtain ⟨hconcluded, hevents⟩ := @ofFiles_of_answered _ configuration _ _ h.found hanswered
  rw [hrun]
  refine ⟨(hconcluded.after _).of_shown options.verbose, fun path hpath ↦ ?_⟩
  have htells : ((ofFiles platform.parser configuration fs found).after
      [configurationLog file]).Tells platform.parser configuration fs path :=
    tells_of_events (hanswered path hpath) fun event hevent ↦
      List.mem_append_right _ (hevents path hpath event hevent)
  exact htells.of_shown options.verbose

end Run

/-- Some feature files and some project files are known by their texts, and all others are refused.
What begins with two dashes is a flag, and everything else names a file. -/
def Platform.knowing (features : List (String × Data)) (projects : List (String × Members Data)) :
    Platform where
  parser text :=
    match features.lookup text with
    | some d => .ok d
    | none => .error (.parserError "")
  toml bytes :=
    match projects.find? (Text.Utf8.encode ·.1.toList = bytes) with
    | some project => .ok project.2
    | none => .error ⟨"TomlDecodeError", ""⟩
  options given :=
    .call ⟨given.contains "--verbose", given.contains "--list-rules",
      (given.filter fun a ↦ !Text.startsWith a.toList ['-', '-']).map Path.ofText⟩
  names := Pattern.noNames

def isShapedMessage : Data → Bool
  | .object members => Message.shapedWithin 12 .document members
  | _ => false

theorem Platform.givesMessages_knowing {features : List (String × Data)}
    (h : ∀ feature ∈ features, isShapedMessage feature.2 = true)
    (projects : List (String × Members Data)) :
    (knowing features projects).parser.GivesMessages := by
  constructor
  · intro text e
    unfold knowing
    dsimp only
    split <;> simp
  · intro text d hread
    unfold knowing at hread
    dsimp only at hread
    split at hread
    next found hfound =>
      cases hread
      obtain ⟨before, after, rfl, -⟩ := List.lookup_eq_some_iff.1 hfound
      have hshaped := h (text, d) (by simp)
      cases d with
      | object members => exact ⟨members, rfl, Message.shaped_of_within hshaped⟩
      | null | bool | int | fraction | moment | text | list => cases hshaped
    next => cases hread

def located (line column : Int) : String × Data :=
  ("location", .object [("line", .int line), ("column", .int column)])

def featureMessage (name : String) (children : List Data) : Data :=
  .object [("feature", .object [("tags", .list []), located 1 1, ("language", .text "en"),
    ("keyword", .text "Feature"), ("name", .text name), ("description", .text ""),
    ("children", .list children)]), ("comments", .list [])]

def dishOutline (name : String) (line : Int) (columns : List (String × Int)) : Data :=
  .object [("scenario", .object [("id", .text "3"), ("tags", .list []), located line 1,
    ("keyword", .text "Scenario"), ("name", .text name), ("description", .text ""),
    ("steps", .list [.object [("id", .text "0"), located (line + 1) 1, ("keyword", .text "Given "),
      ("keywordType", .text "Context"), ("text", .text "a <dish>")]]),
    ("examples", .list [.object [("id", .text "2"), ("tags", .list []), located (line + 2) 1,
      ("keyword", .text "Examples"), ("name", .text ""), ("description", .text ""),
      ("tableHeader", .object [("id", .text "1"), located (line + 3) 1,
        ("cells", .list (columns.map fun (value, column) ↦
          .object [located (line + 3) column, ("value", .text value)]))]),
      ("tableBody", .list [])]])])]

def plainProject : String × Members Data :=
  ("[tool.featurelint]\n", [("tool", .object [("featurelint", .object [])])])

namespace Run

def plainText : String := "Feature: x\n"

def bothText : String :=
  "Feature: x\n  Scenario: s\n    Given g\n      | d |\n      \"\"\"\n      e\n      \"\"\"\n"

def bothStep : Data :=
  .object [("id", .text "1"), located 3 5, ("keyword", .text "Given "),
    ("keywordType", .text "Context"), ("text", .text "g"),
    ("dataTable", .object [located 4 7, ("rows", .list [.object [("id", .text "0"), located 4 7,
      ("cells", .list [.object [located 4 9, ("value", .text "d")]])]])]),
    ("docString", .object [located 5 7, ("content", .text "e"), ("delimiter", .text "\"\"\"")])]

def bothScenario : Data :=
  .object [("id", .text "2"), ("tags", .list []), located 2 3, ("keyword", .text "Scenario"),
    ("name", .text "s"), ("description", .text ""), ("steps", .list [bothStep]),
    ("examples", .list [])]

def diskPlatform : Platform :=
  .knowing [(plainText, featureMessage "x" []),
    (bothText, featureMessage "x" [.object [("scenario", bothScenario)]])] [plainProject]

theorem givesMessages_diskPlatform : diskPlatform.parser.GivesMessages :=
  Platform.givesMessages_knowing (by decide +kernel) _

def disk : FileSystem where
  root := .directory [("project", .directory
    [(ProjectFile.fileName, .file (Text.Utf8.encode plainProject.1.toList)),
      ("plain.feature", .file (Text.Utf8.encode plainText.toList)),
      ("latin.feature", .file [0xff]),
      ("both.feature", .file (Text.Utf8.encode bothText.toList))])]
  workingDirectory := ["project"]
  top := []

def overloads (parse : Parser) (fs : FileSystem) (path : Path) : Bool :=
  Document.ofFile parse fs path matches .error (.message _)

theorem overloaded_iff {parse : Parser} (hparse : parse.GivesMessages) {fs : FileSystem}
    {path : Path} : fs.Overloaded parse path ↔ overloads parse fs path = true := by
  obtain ⟨hover, hanswered⟩ := @Document.ofFile_answered _ hparse fs path
  constructor
  · intro h
    rw [overloads, hover h]
  · intro h
    by_contra hno
    unfold overloads at h
    rcases hanswered hno with ⟨document, hread⟩ | ⟨reason, hread⟩ <;> rw [hread] at h <;> cases h

theorem exists_lints_disk {names : List String} (hne : names ≠ [])
    (hfound : (((ProjectFile.find? disk).bind fun file ↦
      (file.configuration diskPlatform.toml diskPlatform.names).toOption).map fun configuration ↦
        disk.filesFor (configuration.files.search ·.text) (names.map Path.ofText)) =
          some (names.map Path.ofText)) :
    ∃ configuration, Lints diskPlatform disk ⟨false, false, names.map Path.ofText⟩ configuration
      (names.map Path.ofText) := by
  obtain ⟨configuration, hread, hpaths⟩ := Option.map_eq_some_iff.1 hfound
  obtain ⟨file, hfile, hread⟩ := Option.bind_eq_some_iff.1 hread
  have hconfiguration : file.configuration diskPlatform.toml diskPlatform.names =
      .ok configuration := eq_ok_of_toOption hread
  refine ⟨configuration, rfl, ⟨file, ?_, hconfiguration⟩, hpaths.symm, by simpa using hne⟩
  rw [ProjectFile.findIn, hfile]

theorem lints_both : ∃ configuration,
    Lints diskPlatform disk ⟨false, false, ["both.feature"].map Path.ofText⟩ configuration
      (["both.feature"].map Path.ofText) :=
  exists_lints_disk (by simp) (by decide +kernel)

theorem overloaded_both : disk.Overloaded diskPlatform.parser (.ofText "both.feature") := by
  rw [overloaded_iff givesMessages_diskPlatform]
  decide +kernel

theorem lint_run_answers_disk :
    diskPlatform.parser.GivesMessages ∧
    (∃ configuration,
      Lints diskPlatform disk ⟨false, false, ["plain.feature", "latin.feature"].map Path.ofText⟩
        configuration (["plain.feature", "latin.feature"].map Path.ofText) ∧
      (main diskPlatform disk
        ⟨false, false, ["plain.feature", "latin.feature"].map Path.ofText⟩).Concluded ∧
      (main diskPlatform disk
        ⟨false, false, ["plain.feature", "latin.feature"].map Path.ofText⟩).Tells
          diskPlatform.parser configuration disk (.ofText "latin.feature")) ∧
    ∃ configuration,
      Lints diskPlatform disk ⟨false, false, ["both.feature"].map Path.ofText⟩ configuration
        (["both.feature"].map Path.ofText) ∧
      (main diskPlatform disk ⟨false, false, ["both.feature"].map Path.ofText⟩).ending =
        .escaped (.message .twoArguments) := by
  refine ⟨givesMessages_diskPlatform, ?_, ?_⟩
  · have hlints : ∃ configuration,
        Lints diskPlatform disk ⟨false, false, ["plain.feature", "latin.feature"].map Path.ofText⟩
          configuration (["plain.feature", "latin.feature"].map Path.ofText) :=
      exists_lints_disk (by simp) (by decide +kernel)
    obtain ⟨configuration, h⟩ := hlints
    have hno : ∀ path ∈ ["plain.feature", "latin.feature"].map Path.ofText,
        ¬disk.Overloaded diskPlatform.parser path := by
      simp only [overloaded_iff givesMessages_diskPlatform]
      decide +kernel
    obtain ⟨-, -, hlints⟩ :=
      lint_run_answers givesMessages_diskPlatform "" "" disk (.ofText "latin.feature") _ _ _
    obtain ⟨hconcluded, htells⟩ := (hlints h).2 hno
    exact ⟨configuration, h, hconcluded, htells _ (by simp)⟩
  · obtain ⟨configuration, h⟩ := lints_both
    obtain ⟨-, -, hlints⟩ :=
      lint_run_answers givesMessages_diskPlatform "" "" disk (.ofText "both.feature") _ _ _
    exact ⟨configuration, h, (hlints h).1 ⟨_, List.mem_singleton_self _, overloaded_both⟩⟩

/-- A run over files need not come to a verdict, for a step may have two arguments. -/
theorem exists_lints_not_concluded :
    ¬∀ (platform : Platform) fs options configuration found, platform.parser.GivesMessages →
      Lints platform fs options configuration found → (main platform fs options).Concluded := by
  intro h
  obtain ⟨configuration, hlints⟩ := lints_both
  have hending := ending_of_overloaded givesMessages_diskPlatform hlints
    ⟨_, List.mem_singleton_self _, overloaded_both⟩
  exact (h _ _ _ _ _ givesMessages_diskPlatform hlints).ending_ne _ hending

end Run

end GherkinLint
