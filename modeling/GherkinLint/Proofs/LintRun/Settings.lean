import GherkinLint.Proofs.Configuration.Report
import GherkinLint.Proofs.LintRun.Completion

namespace GherkinLint.Run

def shownWith (options : CommandLine.Options) (file : ProjectFile) (run : Run) : Run :=
  { run with events := CommandLine.shown options.verbose (configurationLog file :: run.events) }

def GoesOn (run : Run) (platform : Platform) (fs : FileSystem) (options : CommandLine.Options)
    (file : ProjectFile) : Prop :=
  ∃ configuration, file.configuration platform.toml platform.names = .ok configuration ∧
    run = shownWith options file
      (ofConfiguration platform.parser fs options.listRules options.files configuration)

def settingsReport (message : String) : Run := print ("Invalid configuration: " ++ message) 1

def settingsEscape (fault : ConfigurationFault) : Run :=
  ⟨[], .escaped (.configuration fault)⟩

theorem ofFault_configuration (fault : ConfigurationFault) :
    ofFault (.configuration fault) =
      match fault.message with
      | some message => settingsReport message
      | none => settingsEscape fault := by
  rfl

section Given

variable {platform : Platform} {options : CommandLine.Options} {file : ProjectFile}

theorem goesOn_of_configuration {fs : FileSystem} {configuration : Configuration}
    (hfile : ProjectFile.findIn fs = .ok file)
    (h : file.configuration platform.toml platform.names = .ok configuration) :
    (main platform fs options).GoesOn platform fs options file := by
  refine ⟨configuration, h, ?_⟩
  simp only [main, ofProject, hfile, h]
  rfl

theorem main_of_fault {fs : FileSystem} {fault : ProjectFault}
    (hfile : ProjectFile.findIn fs = .ok file)
    (h : file.configuration platform.toml platform.names = .error fault) :
    main platform fs options = shownWith options file (ofFault fault) := by
  simp only [main, ofProject, hfile, h]
  rfl

/-- A project file that is valid TOML lets the run go on, or makes it end with one report, whatever
else lies in the file system. The exception is a misfit: it ends the run without a word. -/
theorem run_of_describes (platform : Platform) (options : CommandLine.Options) (file : ProjectFile)
    {root : Members Data} (hroot : platform.toml file.bytes = .ok root) :
    (ProjectFile.Misfit platform.names root → ∃ fault,
      file.configuration platform.toml platform.names = .error (.configuration fault) ∧
      fault.message = none ∧ ∀ fs, ProjectFile.findIn fs = .ok file →
        main platform fs options = shownWith options file (settingsEscape fault)) ∧
    (¬ProjectFile.Misfit platform.names root →
      (∀ fs, ProjectFile.findIn fs = .ok file →
        (main platform fs options).GoesOn platform fs options file) ∨
      ∃ fault message,
        file.configuration platform.toml platform.names = .error (.configuration fault) ∧
        fault.message = some message ∧ ∀ fs, ProjectFile.findIn fs = .ok file →
          main platform fs options = shownWith options file (settingsReport message)) := by
  obtain ⟨hmisfit, hfit⟩ :=
    @ProjectFile.configuration_cases platform.toml platform.names file root hroot
  constructor
  · intro h
    obtain ⟨fault, hfault, hmessage⟩ := hmisfit h
    refine ⟨fault, hfault, hmessage, fun fs hfile ↦ ?_⟩
    rw [main_of_fault hfile hfault, ofFault_configuration, hmessage]
  · intro h
    rcases hfit h with ⟨configuration, hconfiguration⟩ | ⟨fault, message, hfault, hmessage⟩
    · exact .inl fun fs hfile ↦ goesOn_of_configuration hfile hconfiguration
    · refine .inr ⟨fault, message, hfault, hmessage, fun fs hfile ↦ ?_⟩
      rw [main_of_fault hfile hfault, ofFault_configuration, hmessage]

end Given

/-- A project file with the setting as it is written, and the table that it describes. -/
def includeProject (written : String) (setting : Data) : String × Members Data :=
  ("[tool.featurelint]\ninclude = " ++ written ++ "\n",
    [("tool", .object [("featurelint", .object [("include", setting)])])])

def openGroup : String × Members Data := includeProject "\"(\"" (.text "(")

def numberForPattern : String × Members Data := includeProject "1" (.int 1)

def settingsPlatform : Platform := .knowing [] [openGroup, numberForPattern]

def settingsFile (settings : String) : ProjectFile :=
  ⟨["project"], Text.Utf8.encode settings.toList⟩

def settingsDisk (settings : String) : FileSystem where
  root := .directory [("project", .directory
    [(ProjectFile.fileName, .file (settingsFile settings).bytes)])]
  workingDirectory := ["project"]
  top := []

theorem findIn_settingsDisk (settings : String) :
    ProjectFile.findIn (settingsDisk settings) = .ok (settingsFile settings) := by
  rfl

theorem toml_openGroup :
    settingsPlatform.toml (settingsFile openGroup.1).bytes = .ok openGroup.2 := by
  rfl

theorem toml_numberForPattern :
    settingsPlatform.toml (settingsFile numberForPattern.1).bytes = .ok numberForPattern.2 := by
  rfl

def openGroupMessage : String :=
  "include pattern \"(\" is invalid: missing ), unterminated subpattern at position 0"

theorem configuration_openGroup :
    (settingsFile openGroup.1).configuration settingsPlatform.toml settingsPlatform.names =
      .error (.configuration (.invalidInclude "(" ⟨.openGroup, some 0⟩)) := by
  have hinvalid : Pattern.ofText Pattern.noNames "(" = .error ⟨.openGroup, some 0⟩ := by
    decide +kernel
  rw [ProjectFile.configuration_of_settings toml_openGroup rfl rfl]
  change (Except.mapError _ (Configuration.patternOf Pattern.noNames "(" >>= _)) = _
  rw [Configuration.patternOf, hinvalid]
  rfl

/-- An open parenthesis is reported. -/
theorem run_openGroup :
    settingsPlatform.toml (settingsFile openGroup.1).bytes = .ok openGroup.2 ∧
    ¬ProjectFile.Misfit settingsPlatform.names openGroup.2 ∧
    main settingsPlatform (settingsDisk openGroup.1) ⟨false, false, [.ofText "features"]⟩ =
      ⟨[.printed ("Invalid configuration: " ++ openGroupMessage)], .exit 1⟩ := by
  have hfault := configuration_openGroup
  obtain ⟨hmisfit, hread⟩ := run_of_describes settingsPlatform ⟨false, false, [.ofText "features"]⟩
    (settingsFile openGroup.1) toml_openGroup
  have hfit : ¬ProjectFile.Misfit settingsPlatform.names openGroup.2 := by
    intro h
    obtain ⟨other, hother, hmessage, -⟩ := hmisfit h
    cases hother.symm.trans hfault
    cases hmessage
  refine ⟨toml_openGroup, hfit, ?_⟩
  rcases hread hfit with hgoes | ⟨other, message, hother, hmessage, hrun⟩
  · obtain ⟨configuration, hok, -⟩ := hgoes _ (findIn_settingsDisk openGroup.1)
    cases hok.symm.trans hfault
  · cases hother.symm.trans hfault
    have htext : message = openGroupMessage := by
      rw [← Option.some.inj hmessage]
      decide
    rw [hrun _ (findIn_settingsDisk openGroup.1), htext]
    rfl

/-- Valid settings do not always lead on or to a report: the pattern may be a number. -/
theorem exists_settings_not_reported :
    ¬∀ (platform : Platform) options (file : ProjectFile) root fs,
      platform.toml file.bytes = .ok root → ProjectFile.findIn fs = .ok file →
      (main platform fs options).GoesOn platform fs options file ∨
        ∃ message, main platform fs options = shownWith options file (settingsReport message) := by
  intro h
  have hending : (main settingsPlatform (settingsDisk numberForPattern.1)
      ⟨false, false, [.ofText "features"]⟩).ending =
        .escaped (.configuration (.wrongKind "include" (.int 1))) := by
    rfl
  have hconfiguration : (settingsFile numberForPattern.1).configuration settingsPlatform.toml
      settingsPlatform.names = .error (.configuration (.wrongKind "include" (.int 1))) := by
    rfl
  rcases h settingsPlatform ⟨false, false, [.ofText "features"]⟩ _ _ _ toml_numberForPattern
    (findIn_settingsDisk numberForPattern.1) with ⟨configuration, hok, -⟩ | ⟨message, hrun⟩
  · cases hok.symm.trans hconfiguration
  · rw [hrun] at hending
    cases hending

end GherkinLint.Run
