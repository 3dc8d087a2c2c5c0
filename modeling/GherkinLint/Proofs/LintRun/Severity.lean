import GherkinLint.Proofs.Configuration.Rules
import GherkinLint.Proofs.LintRun.Block

namespace GherkinLint

inductive Remark where
  | unparsed (path : Path) (reason : String)
  | finding (path : Path) (d : Diagnostic)
  deriving DecidableEq, Repr

namespace Remark

def ofFile (parse : Parser) (fs : FileSystem) (path : Path) : List Remark :=
  match Document.ofFile parse fs path with
  | .ok document => (UnusedVariables.check document).map (finding path)
  | .error (.unreadable e) => [unparsed path e.reason]
  | .error (.message _) => []
  | .error (.raised _) => []

def ofFiles (parse : Parser) (fs : FileSystem) (paths : List Path) : List Remark :=
  paths.flatMap (ofFile parse fs)

/-- The lines of a remark. Findings are not told when the rule is off. -/
def lines (severity : String) : Remark → List String
  | unparsed path reason => [path.text ++ " could not be parsed:", reason]
  | finding path d => if severity = "off" then [] else [severity ++ ": " ++ d.render path.text]

def Counts (severity : String) : Remark → Prop
  | unparsed .. => True
  | finding .. => severity = "error"

theorem exists_counts_iff {parse : Parser} {severity : String} {fs : FileSystem}
    {paths : List Path} :
    (∃ remark ∈ ofFiles parse fs paths, remark.Counts severity) ↔
      (∃ path ∈ paths, ∃ e, Document.ofFile parse fs path = .error (.unreadable e)) ∨
        severity = "error" ∧ ∃ path d, finding path d ∈ ofFiles parse fs paths := by
  constructor
  · rintro ⟨remark, hremark, hcounts⟩
    cases remark with
    | finding path d => exact .inr ⟨hcounts, path, d, hremark⟩
    | unparsed path reason =>
      obtain ⟨path, hpath, hremark⟩ := List.mem_flatMap.1 hremark
      refine .inl ⟨path, hpath, ?_⟩
      unfold ofFile at hremark
      cases hread : Document.ofFile parse fs path with
      | ok document => simp [hread] at hremark
      | error fault =>
        cases fault with
        | unreadable e => exact ⟨e, rfl⟩
        | message | raised => simp [hread] at hremark
  · rintro (⟨path, hpath, e, hread⟩ | ⟨hseverity, path, d, hremark⟩)
    · refine ⟨unparsed path e.reason, List.mem_flatMap.2 ⟨path, hpath, ?_⟩, trivial⟩
      unfold ofFile
      rw [hread]
      exact List.mem_singleton_self _
    · exact ⟨finding path d, hremark, hseverity⟩

end Remark

namespace Block

theorem entries_withSeverity (rule : Rule) (severity : String) (document : Document) :
    entries [rule.withSeverity severity] document =
      if severity = "off" then [] else (rule.check document).map (severity, ·) := by
  unfold entries
  by_cases h : severity = "off" <;> simp [Rule.withSeverity, h]

variable {parse : Parser} {configuration : Configuration} {fs : FileSystem} {severity : String}
variable (hrules : configuration.rules = [UnusedVariables.rule.withSeverity severity])
include hrules

/-- A block is the remarks on its file, as they are told at the severity of the rule. -/
theorem eq_remarks {path : Path} {block : Block}
    (h : ofContent? parse configuration path (fs.read path) = some block) :
    block.lines = (Remark.ofFile parse fs path).flatMap (Remark.lines severity) ∧
      (block.Fails ↔ ∃ remark ∈ Remark.ofFile parse fs path, remark.Counts severity) := by
  unfold ofContent? at h
  rw [← Document.ofFile_eq_ofContent] at h
  unfold Remark.ofFile
  cases hread : Document.ofFile parse fs path with
  | ok document =>
    rw [hread] at h
    obtain rfl := Option.some.inj h
    rw [hrules, entries_withSeverity]
    change _ = ((UnusedVariables.rule.check document).map _).flatMap _ ∧
      (_ ↔ ∃ remark ∈ (UnusedVariables.rule.check document).map _, _)
    -- What is found has no part in the argument; a severity that is off takes it out of both sides.
    generalize UnusedVariables.rule.check document = found
    by_cases hoff : severity = "off"
    · subst hoff
      simp [lines, Fails, Remark.lines, Remark.Counts]
    · refine ⟨?_, ?_⟩
      · rw [if_neg hoff, lines, List.map_map, List.map_eq_flatMap, List.flatMap_map]
        simp only [Remark.lines, if_neg hoff, Function.comp_apply]
      · rw [if_neg hoff]
        simp [Fails, Remark.Counts]
  | error fault =>
    rw [hread] at h
    cases fault with
    | unreadable e =>
      obtain rfl := Option.some.inj h
      exact ⟨rfl, iff_of_true trivial ⟨_, List.mem_singleton_self _, trivial⟩⟩
    | message | raised => cases h

theorem flatMap_eq_remarks {paths : List Path} {blocks : List Block}
    (h : List.Forall₂ (fun path block ↦
      ofContent? parse configuration path (fs.read path) = some block) paths blocks) :
    blocks.flatMap lines = (Remark.ofFiles parse fs paths).flatMap (Remark.lines severity) ∧
      ((∃ block ∈ blocks, block.Fails) ↔
        ∃ remark ∈ Remark.ofFiles parse fs paths, remark.Counts severity) := by
  unfold Remark.ofFiles
  induction h with
  | nil => simp
  | cons hblock _ ih =>
    obtain ⟨hlines, hfails⟩ := eq_remarks hrules hblock
    rw [List.flatMap_cons, List.flatMap_cons, List.flatMap_append, hlines, ih.1]
    refine ⟨rfl, ?_⟩
    rw [List.exists_mem_cons_iff, hfails, ih.2]
    simp only [List.mem_append, or_and_right, exists_or]

end Block

/-- The project has this pattern for its files, and its rules have this severity. -/
def ConfiguredAt (platform : Platform) (fs : FileSystem) (includes : Pattern) (severity : String) :
    Prop :=
  ∃ file configuration, ProjectFile.findIn fs = .ok file ∧
    file.configuration platform.toml platform.names = .ok configuration ∧
    configuration.files = includes ∧ ∀ rule ∈ configuration.rules, rule.severity = severity

theorem ProjectFile.rules_eq {platform : Platform} {file : ProjectFile}
    {configuration : Configuration} {severity : String}
    (h : file.configuration platform.toml platform.names = .ok configuration)
    (hseverity : ∀ rule ∈ configuration.rules, rule.severity = severity) :
    configuration.rules = [UnusedVariables.rule.withSeverity severity] := by
  obtain ⟨s, -, hrules⟩ := exists_of_configuration h
  rw [hrules, ← hseverity (UnusedVariables.rule.withSeverity s)]
  · rfl
  · rw [hrules]
    exact List.mem_singleton_self _

/-- For these arguments, the same files are found in both trees, and they hold the same. The trees
may differ in other files, such as the one with the settings. -/
structure FileSystem.AgreesOn (tree fs : FileSystem) (includes : Path → Bool)
    (arguments : List Path) : Prop where
  filesAt : ∀ path ∈ arguments, fs.filesAt path = tree.filesAt path
  read : ∀ path ∈ tree.filesFor includes arguments, fs.read path = tree.read path

section Agreement

variable {tree fs : FileSystem} {includes : Path → Bool} {arguments : List Path}
variable (h : tree.AgreesOn fs includes arguments)
include h

theorem FileSystem.AgreesOn.filesFor_eq :
    fs.filesFor includes arguments = tree.filesFor includes arguments := by
  have hall : arguments.map fs.filesAt = arguments.map tree.filesAt :=
    List.map_congr_left h.filesAt
  rw [FileSystem.filesFor, FileSystem.filesFor, List.flatMap_def, List.flatMap_def, hall]

theorem FileSystem.AgreesOn.remarks_eq (parse : Parser) :
    Remark.ofFiles parse fs (tree.filesFor includes arguments) =
      Remark.ofFiles parse tree (tree.filesFor includes arguments) := by
  rw [Remark.ofFiles, Remark.ofFiles, List.flatMap_def, List.flatMap_def]
  congr 1
  refine List.map_congr_left fun path hpath ↦ ?_
  rw [Remark.ofFile, Remark.ofFile, Document.ofFile_eq_ofContent, Document.ofFile_eq_ofContent,
    h.read path hpath]

end Agreement

namespace Run

theorem lines_shown (verbose : Bool) (events : List Event) (ending : Ending) :
    lines ⟨CommandLine.shown verbose events, ending⟩ = events.filterMap Event.line? := by
  cases verbose with
  | true => rfl
  | false =>
    rw [lines, CommandLine.shown, if_neg Bool.false_ne_true, List.filterMap_filter]
    congr 1
    funext event
    cases event <;> rfl

def Reports (run : Run) (found : List Path) (told : List String) (failed : Bool) : Prop :=
  run.lines = "Linting the following files:" :: found.map (fun path ↦ "- " ++ path.text) ++ told ++
    [(closing failed).1] ∧ run.ending = .exit (closing failed).2

section OneRun

variable {platform : Platform} {fs : FileSystem} {includes : Pattern} {severity : String}
  (verbose : Bool) {arguments : List Path}
variable (hconfigured : ConfiguredAt platform fs includes severity)
include hconfigured

/-- The run is a lint run under a configuration with the one rule at this severity. -/
theorem exists_main_eq_ofFiles : ∃ configuration,
    configuration.rules = [UnusedVariables.rule.withSeverity severity] ∧
      (main platform fs ⟨verbose, false, arguments⟩).lines = (ofFiles platform.parser configuration
        fs (fs.filesFor (includes.search ·.text) arguments)).lines ∧
      (main platform fs ⟨verbose, false, arguments⟩).ending = (ofFiles platform.parser configuration
        fs (fs.filesFor (includes.search ·.text) arguments)).ending := by
  obtain ⟨file, configuration, hfile, hconfiguration, rfl, hseverity⟩ := hconfigured
  have hrun := @main_of_configuration configuration fs platform ⟨verbose, false, arguments⟩ file rfl
    hfile hconfiguration
  refine ⟨configuration, ProjectFile.rules_eq hconfiguration hseverity, ?_, by rw [hrun]⟩
  rw [hrun, lines_shown]
  rfl

/-- A lint run is the remarks on the files that are found, told at the severity of the rule. -/
theorem main_eq_remarks (hends : ∀ fault,
      (main platform fs ⟨verbose, false, arguments⟩).ending ≠ .escaped fault) :
    (fs.filesFor (includes.search ·.text) arguments = [] →
      (main platform fs ⟨verbose, false, arguments⟩).lines = ["No files to lint."] ∧
        (main platform fs ⟨verbose, false, arguments⟩).ending = .exit 0) ∧
    (fs.filesFor (includes.search ·.text) arguments ≠ [] →
      ∃ failed, (main platform fs ⟨verbose, false, arguments⟩).Reports
          (fs.filesFor (includes.search ·.text) arguments)
          ((Remark.ofFiles platform.parser fs
            (fs.filesFor (includes.search ·.text) arguments)).flatMap (Remark.lines severity))
          failed ∧
        (failed = true ↔ ∃ remark ∈ Remark.ofFiles platform.parser fs
          (fs.filesFor (includes.search ·.text) arguments), remark.Counts severity)) := by
  obtain ⟨configuration, hrules, hlines, hending⟩ :=
    @exists_main_eq_ofFiles _ _ _ _ verbose arguments hconfigured
  generalize fs.filesFor (includes.search ·.text) arguments = found at *
  constructor
  · rintro rfl
    rw [hlines, hending]
    exact ⟨rfl, rfl⟩
  · intro hne
    have hanswered : ∀ path ∈ found,
        Answered path.text (Document.ofFile platform.parser fs path) := by
      intro path hpath
      refine FileSystem.answered_iff.2 fun fault hbreaks ↦ ?_
      obtain ⟨other, hother⟩ := (@ofFiles_escapes_iff platform.parser configuration fs found).2
        ⟨path, hpath, fault, hbreaks⟩
      exact hends other (hending.trans hother)
    obtain ⟨blocks, hblocks⟩ := exists_blocks configuration hanswered
    obtain ⟨htold, hfails⟩ := Block.flatMap_eq_remarks hrules hblocks
    refine ⟨blocks.any (decide ·.Fails), ?_, ?_⟩
    · rw [Reports, hlines, hending, ← htold]
      exact lines_ofFiles hne hblocks
    · rw [← hfails]
      simp

end OneRun

/-- Runs on the same files at all severities. The files that are found and the remarks on them are
the same in each. The severity stands before the findings, or leaves them out when it is off, and
only as errors do findings make the run fail. -/
theorem run_at_severities {platform : Platform} (verbose : Bool) {arguments found : List Path}
    {includes : Pattern} {tree : FileSystem} {fs : String → FileSystem}
    (hconfigured : ∀ s ∈ Rule.severities, ConfiguredAt platform (fs s) includes s)
    (hagrees : ∀ s ∈ Rule.severities, tree.AgreesOn (fs s) (includes.search ·.text) arguments)
    (hfound : tree.filesFor (includes.search ·.text) arguments = found)
    (hends : ∀ s ∈ Rule.severities, ∀ fault,
      (main platform (fs s) ⟨verbose, false, arguments⟩).ending ≠ .escaped fault) :
    ∀ s ∈ Rule.severities,
      (main platform (fs s) ⟨verbose, false, arguments⟩).printed = String.join
        ((main platform (fs s) ⟨verbose, false, arguments⟩).lines.map fun line ↦ line ++ "\n") ∧
      (found = [] →
        (main platform (fs s) ⟨verbose, false, arguments⟩).lines = ["No files to lint."] ∧
        (main platform (fs s) ⟨verbose, false, arguments⟩).ending = .exit 0) ∧
      (found ≠ [] → ∃ failed, (main platform (fs s) ⟨verbose, false, arguments⟩).Reports found
          ((Remark.ofFiles platform.parser tree found).flatMap (Remark.lines s)) failed ∧
        (failed = true ↔
          (∃ path ∈ found, ∃ e,
            Document.ofFile platform.parser tree path = .error (.unreadable e)) ∨
            s = "error" ∧
              ∃ path d, Remark.finding path d ∈ Remark.ofFiles platform.parser tree found)) := by
  intro s hs
  -- Each run is told of its own tree first, and then moved to the tree that all of them share.
  have hrun := main_eq_remarks verbose (hconfigured s hs) (hends s hs)
  rw [(hagrees s hs).filesFor_eq, (hagrees s hs).remarks_eq, hfound,
    Remark.exists_counts_iff] at hrun
  exact ⟨printed_eq_lines _, hrun⟩

def kitchenText : String := "Feature:\nScenario: eat\nGiven a <dish>\nExamples:\n|dish|drink|\n"

def kitchenSettings (severity : String) : String :=
  "[tool.featurelint.rules]\nno-unused-variables = \"" ++ severity ++ "\"\n"

def kitchenPlatform : Platform :=
  .knowing [(kitchenText, featureMessage "" [dishOutline "eat" 2 [("dish", 2), ("drink", 7)]])]
    (Rule.severities.map fun severity ↦ (kitchenSettings severity,
      [("tool", .object [("featurelint", .object [("rules", .object
        [("no-unused-variables", .text severity)])])])]))

/-- A project whose feature file has an outline with a column that no step uses. -/
def kitchen (severity : String) : FileSystem where
  root := .directory [("project", .directory
    [(ProjectFile.fileName, .file (Text.Utf8.encode (kitchenSettings severity).toList)),
      ("meal.feature", .file (Text.Utf8.encode kitchenText.toList))])]
  workingDirectory := ["project"]
  top := []

def features : Pattern :=
  (Pattern.ofText Pattern.noNames Configuration.defaultInclude).toOption.getD ⟨"", .empty⟩

theorem configuredAt_kitchen :
    ∀ s ∈ Rule.severities, ConfiguredAt kitchenPlatform (kitchen s) features s := by
  intro s hs
  have hread : ((ProjectFile.find? (kitchen s)).bind fun file ↦
      (file.configuration kitchenPlatform.toml kitchenPlatform.names).toOption.map
        fun configuration ↦ (configuration.files, configuration.rules.map (·.severity))) =
          some (features, [s]) := by
    revert s
    decide +kernel
  obtain ⟨file, hfile, hread⟩ := Option.bind_eq_some_iff.1 hread
  obtain ⟨configuration, hconfiguration, hread⟩ := Option.map_eq_some_iff.1 hread
  obtain ⟨hfiles, hrules⟩ := Prod.mk.inj hread
  refine ⟨file, configuration, by rw [ProjectFile.findIn, hfile], ?_, hfiles, ?_⟩
  · exact eq_ok_of_toOption hconfiguration
  · intro rule hrule
    have hseverity : rule.severity ∈ configuration.rules.map (·.severity) :=
      List.mem_map_of_mem hrule
    rw [hrules] at hseverity
    exact List.mem_singleton.1 hseverity

theorem agreesOn_kitchen : ∀ s ∈ Rule.severities,
    (kitchen "warn").AgreesOn (kitchen s) (features.search ·.text) [.ofText "meal.feature"] := by
  intro s hs
  have hread : ∀ path ∈ (kitchen "warn").filesFor (features.search ·.text)
      [.ofText "meal.feature"], path = .ofText "meal.feature" := by
    decide +kernel
  constructor
  · revert s
    decide +kernel
  · intro path hpath
    rw [hread path hpath]
    revert s
    decide +kernel

def drink : Diagnostic := ⟨UnusedVariables.unusedMessage "drink", UnusedVariables.name, 5, 7⟩

def kitchenRun (severity : String) : Run :=
  main kitchenPlatform (kitchen severity) ⟨false, false, [.ofText "meal.feature"]⟩

/-- The column fails the run as an error only, and a warning says as much of it. -/
theorem run_at_severities_kitchen :
    (kitchenRun "off").Reports [.ofText "meal.feature"] [] false ∧
    (kitchenRun "warn").Reports [.ofText "meal.feature"]
      ["warn: " ++ drink.render "meal.feature"] false ∧
    (kitchenRun "error").Reports [.ofText "meal.feature"]
      ["error: " ++ drink.render "meal.feature"] true := by
  have hfound : (kitchen "warn").filesFor (features.search ·.text) [.ofText "meal.feature"] =
      [.ofText "meal.feature"] := by
    decide +kernel
  have hremarks : Remark.ofFiles kitchenPlatform.parser (kitchen "warn")
      [.ofText "meal.feature"] = [.finding (.ofText "meal.feature") drink] := by
    decide +kernel
  have hends : ∀ s ∈ Rule.severities, ∀ fault, (kitchenRun s).ending ≠ .escaped fault := by
    have hexits : ∀ s ∈ Rule.severities, ((kitchenRun s).ending matches .exit _) = true := by
      decide +kernel
    intro s hs fault hfault
    have hexit := hexits s hs
    rw [hfault] at hexit
    cases hexit
  have hreports : ∀ s ∈ Rule.severities, (kitchenRun s).Reports [.ofText "meal.feature"]
      (Remark.lines s (.finding (.ofText "meal.feature") drink)) (decide (s = "error")) := by
    intro s hs
    obtain ⟨-, -, hreport⟩ :=
      run_at_severities false configuredAt_kitchen agreesOn_kitchen hfound hends s hs
    obtain ⟨failed, hreport, hfailed⟩ := hreport (List.cons_ne_nil _ _)
    rw [hremarks, List.flatMap_singleton] at hreport
    have hread : ¬∃ path ∈ [Path.ofText "meal.feature"], ∃ e,
        Document.ofFile kitchenPlatform.parser (kitchen "warn") path =
          .error (.unreadable e) := by
      rintro ⟨path, hpath, e, hread⟩
      obtain rfl := List.mem_singleton.1 hpath
      rw [Remark.ofFiles, List.flatMap_singleton, Remark.ofFile, hread] at hremarks
      cases hremarks
    have hfinding : ∃ path d, Remark.finding path d ∈
        Remark.ofFiles kitchenPlatform.parser (kitchen "warn") [.ofText "meal.feature"] :=
      ⟨_, _, by rw [hremarks]; exact List.mem_singleton_self _⟩
    rw [or_iff_right hread, and_iff_left hfinding] at hfailed
    have herror : decide (s = "error") = failed :=
      Bool.eq_iff_iff.2 (decide_eq_true_iff.trans hfailed.symm)
    rwa [herror]
  exact ⟨hreports "off" (by decide), hreports "warn" (by decide), hreports "error" (by decide)⟩

end Run

end GherkinLint
