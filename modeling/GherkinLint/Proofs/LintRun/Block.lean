import GherkinLint.Proofs.LintRun.Completion
import Mathlib.Data.List.Forall2

namespace GherkinLint

abbrev Content := Except PathFault (List UInt8)

def Document.ofContent (parse : Parser) (path : Path) : Content → Except SourceFault Document
  | .error fault => .error (.unreadable ⟨path.text, fault.message path⟩)
  | .ok bytes =>
    match Text.Utf8.decode bytes with
    | .error fault => .error (.unreadable ⟨path.text, fault.message⟩)
    | .ok s => ofText parse path.text (String.ofList (Text.uniformLineEnds s))

theorem Document.ofFile_eq_ofContent (parse : Parser) (fs : FileSystem) (path : Path) :
    ofFile parse fs path = ofContent parse path (fs.read path) := by
  unfold ofFile ofContent FileSystem.readText
  cases fs.read path with
  | error fault => rfl
  | ok bytes => cases hdecode : Text.Utf8.decode bytes <;> simp only [hdecode]

inductive Block where
  | unparsed (path : Path) (reason : String)
  | linted (path : Path) (entries : List (String × Diagnostic))
  deriving DecidableEq, Repr

namespace Block

/-- What the rules find that are not off: rule by rule, each finding with the severity of its
rule. -/
def entries (rules : RuleTable) (document : Document) : List (String × Diagnostic) :=
  (rules.filter fun rule ↦ rule.severity ≠ "off").flatMap fun rule ↦
    (rule.check document).map fun d ↦ (rule.severity, d)

def ofContent? (parse : Parser) (configuration : Configuration) (path : Path) (content : Content) :
    Option Block :=
  match Document.ofContent parse path content with
  | .ok document => some (.linted path (entries configuration.rules document))
  | .error (.unreadable e) => some (.unparsed path e.reason)
  | .error (.message _) => none
  | .error (.raised _) => none

def lines : Block → List String
  | unparsed path reason => [path.text ++ " could not be parsed:", reason]
  | linted path entries =>
    entries.map fun (severity, d) ↦ severity ++ ": " ++ d.render path.text

def Fails : Block → Prop
  | unparsed .. => True
  | linted _ entries => ∃ entry ∈ entries, entry.1 = "error"

instance (block : Block) : Decidable block.Fails :=
  match block with
  | unparsed .. => inferInstanceAs (Decidable True)
  | linted _ entries => inferInstanceAs (Decidable (∃ entry ∈ entries, entry.1 = "error"))

theorem diagnostics_eq_entries (configuration : Configuration) (document : Document) :
    FileReport.diagnostics configuration document = entries configuration.rules document := by
  unfold FileReport.diagnostics entries Configuration.enabledRules
  rw [List.flatMap_def, List.flatMap_def]
  congr 1
  refine List.map_congr_left fun rule hrule ↦ ?_
  rw [Rule.run, if_pos (List.mem_filter.1 hrule).2]

theorem exists_ofContent? {parse : Parser} {configuration : Configuration} {fs : FileSystem}
    {path : Path} (h : Answered path.text (Document.ofFile parse fs path)) :
    ∃ block, ofContent? parse configuration path (fs.read path) = some block := by
  rw [Document.ofFile_eq_ofContent] at h
  unfold ofContent?
  rcases h with ⟨document, h⟩ | ⟨reason, h⟩ <;> exact ⟨_, by rw [h]⟩

end Block

namespace Event

def line? : Event → Option String
  | printed text => some text
  | warned _ | logged .. => none

theorem filterMap_line?_printed {α : Type} (f : α → String) (xs : List α) :
    (xs.map fun x ↦ printed (f x)).filterMap line? = xs.map f := by
  rw [List.filterMap_map]
  exact congrFun List.filterMap_eq_map xs

end Event

namespace Run

def lines (run : Run) : List String := run.events.filterMap Event.line?

theorem lines_after (events : List Event) (run : Run) :
    (run.after events).lines = events.filterMap Event.line? ++ run.lines :=
  List.filterMap_append

theorem printed_eq_lines (run : Run) :
    run.printed = String.join (run.lines.map fun line ↦ line ++ "\n") := by
  have htexts (events : List Event) : (events.filter Event.isPrinted).map Event.text =
      (events.filterMap Event.line?).map fun line ↦ line ++ "\n" := by
    induction events with
    | nil => rfl
    | cons event events ih =>
      cases event with
      | printed text => exact congrArg (List.cons (text ++ "\n")) ih
      | warned | logged => exact ih
  rw [printed, lines, htexts]

end Run

namespace FileReport

theorem lines_ofDocument (configuration : Configuration) (path : Path) (document : Document) :
    (ofDocument configuration path document).events.filterMap Event.line? =
      (Block.linted path (Block.entries configuration.rules document)).lines := by
  have habsent : (if document.feature.isNone then [parserLog (path.text ++ " has no feature")]
      else []).filterMap Event.line? = [] := by split <;> rfl
  have hcounts : (counts configuration document).filterMap Event.line? = [] := by
    refine List.filterMap_eq_nil_iff.2 fun event hevent ↦ ?_
    obtain ⟨rule, -, rfl⟩ := List.mem_map.1 hevent
    rfl
  have hfound (entries : List (String × Diagnostic)) :
      (entries.map fun (severity, d) ↦
        Event.printed (severity ++ ": " ++ d.render path.text)).filterMap Event.line? =
          (Block.linted path entries).lines :=
    Event.filterMap_line?_printed
      (fun entry : String × Diagnostic ↦ entry.1 ++ ": " ++ entry.2.render path.text) entries
  rw [ofDocument, List.filterMap_append, List.filterMap_append, habsent, hcounts, hfound,
    Block.diagnostics_eq_entries]
  rfl

theorem result_ofDocument (configuration : Configuration) (path : Path) (document : Document) :
    (ofDocument configuration path document).result =
      .ok (decide ¬(Block.linted path (Block.entries configuration.rules document)).Fails) := by
  have hpasses (entries : List (String × Diagnostic)) :
      (entries.all fun (severity, _) ↦ severity ≠ "error") =
        decide ¬(Block.linted path entries).Fails := by
    rw [List.all_eq, decide_eq_decide]
    simp only [decide_eq_true_eq, Block.Fails, not_exists, not_and]
  rw [ofDocument, Block.diagnostics_eq_entries, hpasses]

variable {parse : Parser} {configuration : Configuration} {fs : FileSystem} {path : Path}
  {block : Block}

/-- What a file adds to a run: the lines of its block, and whether the block fails. -/
theorem ofFile_eq_block
    (h : Block.ofContent? parse configuration path (fs.read path) = some block) :
    (ofFile parse configuration fs path).events.filterMap Event.line? = block.lines ∧
      (ofFile parse configuration fs path).result = .ok (decide ¬block.Fails) := by
  unfold Block.ofContent? at h
  rw [ofFile, Document.ofFile_eq_ofContent]
  cases hread : Document.ofContent parse path (fs.read path) with
  | ok document =>
    rw [hread] at h
    obtain rfl := Option.some.inj h
    exact ⟨lines_ofDocument configuration path document,
      result_ofDocument configuration path document⟩
  | error fault =>
    rw [hread] at h
    cases fault with
    | unreadable e =>
      obtain rfl := Option.some.inj h
      exact ⟨rfl, rfl⟩
    | message | raised => cases h

end FileReport

namespace Run

/-- The last line of a run, and its exit code. -/
def closing (failed : Bool) : String × Nat :=
  if failed then ("Linting failed.", 1) else ("Linting ran successfully", 0)

variable {parse : Parser} {configuration : Configuration} {fs : FileSystem} {paths : List Path}
  {blocks : List Block}

theorem lines_ofReports (passed : Bool)
    (h : List.Forall₂ (fun path block ↦
      Block.ofContent? parse configuration path (fs.read path) = some block) paths blocks) :
    (ofReports passed (paths.map (FileReport.ofFile parse configuration fs))).lines =
        blocks.flatMap Block.lines ++ [(closing (!passed || blocks.any (decide ·.Fails))).1] ∧
      (ofReports passed (paths.map (FileReport.ofFile parse configuration fs))).ending =
        .exit (closing (!passed || blocks.any (decide ·.Fails))).2 := by
  induction h generalizing passed with
  | nil => cases passed <;> exact ⟨rfl, rfl⟩
  | @cons path block paths blocks hblock hblocks ih =>
    obtain ⟨hlines, hresult⟩ := FileReport.ofFile_eq_block hblock
    obtain ⟨ihlines, ihending⟩ := ih (passed && decide ¬block.Fails)
    have hfailed : (!passed || (block :: blocks).any (decide ·.Fails)) =
        (!(passed && decide ¬block.Fails) || blocks.any (decide ·.Fails)) := by
      rw [List.any_cons, decide_not, Bool.not_and, Bool.not_not, Bool.or_assoc]
    rw [List.map_cons, ofReports, hresult, hfailed, List.flatMap_cons, List.append_assoc]
    exact ⟨by rw [lines_after, hlines, ihlines], ihending⟩

theorem exists_blocks (configuration : Configuration)
    (h : ∀ path ∈ paths, Answered path.text (Document.ofFile parse fs path)) :
    ∃ blocks, List.Forall₂ (fun path block ↦
      Block.ofContent? parse configuration path (fs.read path) = some block) paths blocks := by
  induction paths with
  | nil => exact ⟨[], .nil⟩
  | cons path paths ih =>
    obtain ⟨block, hblock⟩ := Block.exists_ofContent? (h path List.mem_cons_self)
    obtain ⟨blocks, hblocks⟩ := ih fun p hp ↦ h p (List.mem_cons_of_mem path hp)
    exact ⟨block :: blocks, .cons hblock hblocks⟩

theorem lines_ofFiles (hne : paths ≠ [])
    (h : List.Forall₂ (fun path block ↦
      Block.ofContent? parse configuration path (fs.read path) = some block) paths blocks) :
    (ofFiles parse configuration fs paths).lines =
        "Linting the following files:" :: paths.map (fun path ↦ "- " ++ path.text) ++
          blocks.flatMap Block.lines ++ [(closing (blocks.any (decide ·.Fails))).1] ∧
      (ofFiles parse configuration fs paths).ending =
        .exit (closing (blocks.any (decide ·.Fails))).2 := by
  obtain ⟨hlines, hending⟩ := lines_ofReports true h
  rw [ofFiles, if_neg (by simpa using hne)]
  refine ⟨?_, hending⟩
  rw [lines_after, hlines, List.filterMap_cons, Event.line?,
    Event.filterMap_line?_printed, List.append_assoc]
  rfl

def found (configuration : Configuration) (fs : FileSystem) (arguments : List Path) : List Path :=
  fs.filesFor (configuration.files.search ·.text) arguments

def ofArguments (parse : Parser) (configuration : Configuration) (fs : FileSystem)
    (arguments : List Path) : Run :=
  ofFiles parse configuration fs (found configuration fs arguments)

/-- A run over the files that are found prints their names, the block of each of them in the same
order, and the verdict, and it fails just when one of the blocks does. -/
theorem lint_report (parse : Parser) (configuration : Configuration) (fs : FileSystem)
    (arguments : List Path) (hne : found configuration fs arguments ≠ [])
    (hanswered : ∀ path ∈ found configuration fs arguments,
      Answered path.text (Document.ofFile parse fs path)) :
    ∃ blocks last code,
      List.Forall₂ (fun path block ↦
        Block.ofContent? parse configuration path (fs.read path) = some block)
          (found configuration fs arguments) blocks ∧
      (ofArguments parse configuration fs arguments).lines =
        "Linting the following files:" ::
          (found configuration fs arguments).map (fun path ↦ "- " ++ path.text) ++
            blocks.flatMap Block.lines ++ [last] ∧
      (ofArguments parse configuration fs arguments).printed = String.join
        ((ofArguments parse configuration fs arguments).lines.map fun line ↦ line ++ "\n") ∧
      (ofArguments parse configuration fs arguments).ending = .exit code ∧
      ((∃ block ∈ blocks, block.Fails) → last = "Linting failed." ∧ code = 1) ∧
      ((∀ block ∈ blocks, ¬block.Fails) → last = "Linting ran successfully" ∧ code = 0) := by
  obtain ⟨blocks, hblocks⟩ := exists_blocks configuration hanswered
  obtain ⟨hlines, hending⟩ := lines_ofFiles hne hblocks
  refine ⟨blocks, _, _, hblocks, hlines, printed_eq_lines _, hending, ?_, ?_⟩
  · intro hfails
    have hany : blocks.any (decide ·.Fails) = true := by simpa using hfails
    rw [hany]
    exact ⟨rfl, rfl⟩
  · intro hno
    have hany : blocks.any (decide ·.Fails) = false := by simpa using hno
    rw [hany]
    exact ⟨rfl, rfl⟩

/-- Two rules of different severities, one that is off, and a pattern that every path matches. -/
def titled : Configuration where
  name := ""
  rules :=
    [⟨"title", fun _ ↦ [⟨"no title", "title", 1, 0⟩], ⟨"", []⟩, "warn"⟩,
      ⟨"silent", fun _ ↦ [⟨"never", "silent", 1, 0⟩], ⟨"", []⟩, "off"⟩, UnusedVariables.rule]
  files := ⟨"", .empty⟩

def titledFiles : List Path := [.ofText "latin.feature", .ofText "plain.feature"]

theorem found_titled : found titled disk titledFiles = titledFiles := by decide +kernel

/-- A file that cannot be parsed fails the run, and a later one with a warning is still told. -/
theorem lint_report_titled :
    (∀ path ∈ found titled disk titledFiles,
      Answered path.text (Document.ofFile diskPlatform.parser disk path)) ∧
    ∃ blocks, (ofArguments diskPlatform.parser titled disk titledFiles).lines =
        ["Linting the following files:", "- latin.feature", "- plain.feature"] ++
          blocks.flatMap Block.lines ++ ["Linting failed."] ∧
      (ofArguments diskPlatform.parser titled disk titledFiles).ending = .exit 1 ∧
      blocks = [Block.unparsed (.ofText "latin.feature")
          "'utf-8' codec can't decode byte 0xff in position 0: invalid start byte",
        .linted (.ofText "plain.feature") [("warn", ⟨"no title", "title", 1, 0⟩)]] := by
  have hanswered : ∀ path ∈ found titled disk titledFiles,
      Answered path.text (Document.ofFile diskPlatform.parser disk path) := by
    intro path hpath
    refine (Document.ofFile_answered givesMessages_diskPlatform).2 ?_
    rw [found_titled] at hpath
    rw [overloaded_iff givesMessages_diskPlatform]
    revert path
    decide +kernel
  obtain ⟨blocks, last, code, hblocks, hlines, -, hending, hfails, -⟩ :=
    lint_report diskPlatform.parser titled disk titledFiles
      (by rw [found_titled]; exact List.cons_ne_nil _ _) hanswered
  rw [found_titled] at hblocks hlines
  have hlatin : Block.ofContent? diskPlatform.parser titled (.ofText "latin.feature")
      (disk.read (.ofText "latin.feature")) = some (.unparsed (.ofText "latin.feature")
        "'utf-8' codec can't decode byte 0xff in position 0: invalid start byte") := by
    decide +kernel
  have hplain : Block.ofContent? diskPlatform.parser titled (.ofText "plain.feature")
      (disk.read (.ofText "plain.feature")) = some (.linted (.ofText "plain.feature")
        [("warn", ⟨"no title", "title", 1, 0⟩)]) := by
    decide +kernel
  obtain _ | ⟨hfirst, _ | ⟨hsecond, _ | _⟩⟩ := hblocks
  obtain rfl := Option.some.inj (hlatin.symm.trans hfirst)
  obtain rfl := Option.some.inj (hplain.symm.trans hsecond)
  obtain ⟨rfl, rfl⟩ := hfails ⟨_, List.mem_cons_self, trivial⟩
  exact ⟨hanswered, _, hlines, hending, rfl⟩

end Run

end GherkinLint
