import GherkinLint.Proofs.Configuration.Rules
import GherkinLint.Proofs.LintRun.Block
import GherkinLint.Proofs.UnusedVariables.LineBreak

namespace GherkinLint

structure LogRecord where
  logger : String
  message : String
  deriving DecidableEq, Repr

namespace LogRecord

def text (r : LogRecord) : String := "DEBUG:" ++ r.logger ++ ":" ++ r.message ++ "\n"

def reading (file : ProjectFile) : LogRecord :=
  ⟨"featurelint.config", "Reading configuration from " ++ file.path.text⟩

def parsing (path : Path) : LogRecord := ⟨"featurelint.parser", "Parsing " ++ path.text⟩

def noFeature (path : Path) : LogRecord := ⟨"featurelint.parser", path.text ++ " has no feature"⟩

def reported (rule : String) (count : Nat) (path : Path) : LogRecord :=
  ⟨"featurelint.rule", rule ++ " reported " ++ toString count ++ " error(s) in " ++ path.text⟩

end LogRecord

def Event.record? : Event → Option LogRecord
  | logged logger message => some ⟨logger, message⟩
  | printed _ | warned _ => none

def Run.records (run : Run) : List LogRecord := run.events.filterMap Event.record?

theorem Run.records_after (events : List Event) (run : Run) :
    (run.after events).records = events.filterMap Event.record? ++ run.records :=
  List.filterMap_append

theorem Event.filterMap_record?_printed {α : Type} (f : α → String) (xs : List α) :
    (xs.map fun x ↦ printed (f x)).filterMap record? = [] := by
  rw [List.filterMap_map]
  exact List.filterMap_eq_nil_iff.2 fun _ _ ↦ rfl

/-- Rules with names of their own, which all of their diagnostics carry. -/
structure RuleTable.Signed (rules : RuleTable) : Prop where
  names : (rules.map (·.name)).Nodup
  signs : ∀ rule ∈ rules, ∀ document, ∀ d ∈ rule.check document, d.rule = rule.name

theorem RuleTable.Signed.filter {rules : RuleTable} (h : rules.Signed) (p : Rule → Bool) :
    RuleTable.Signed (rules.filter p) where
  names := h.names.sublist (List.filter_sublist.map _)
  signs rule hrule := h.signs rule (List.mem_of_mem_filter hrule)

theorem Rule.countP_check {rule : Rule} {document : Document}
    (h : ∀ d ∈ rule.check document, d.rule = rule.name) (name : String) :
    ((rule.check document).map fun d ↦ (rule.severity, d)).countP (fun (_, d) ↦ d.rule = name) =
      if rule.name = name then (rule.check document).length else 0 := by
  rw [List.countP_map]
  split
  · exact List.countP_eq_length.2 fun d hd ↦ by simpa [h d hd]
  · exact List.countP_eq_zero.2 fun d hd ↦ by simpa [h d hd]

/-- The diagnostics of a rule are those that carry its name. -/
theorem RuleTable.Signed.countP_eq {rules : RuleTable} (h : rules.Signed) (document : Document)
    {rule : Rule} (hrule : rule ∈ rules) :
    (rules.flatMap fun r ↦ (r.check document).map fun d ↦ (r.severity, d)).countP
      (fun (_, d) ↦ d.rule = rule.name) = (rule.check document).length := by
  induction rules with
  | nil => cases hrule
  | cons first rest ih =>
    obtain ⟨hfirst, hnames⟩ := List.nodup_cons.1 h.names
    have hrest : RuleTable.Signed rest := ⟨hnames, fun r hr ↦ h.signs r (List.mem_cons_of_mem _ hr)⟩
    rw [List.flatMap_cons, List.countP_append,
      Rule.countP_check (h.signs first List.mem_cons_self document)]
    rcases List.mem_cons.1 hrule with rfl | hrule
    · -- No rule behind the first has its name, and so none of their diagnostics carries it.
      have hnone : (rest.flatMap fun r ↦ (r.check document).map fun d ↦ (r.severity, d)).countP
          (fun (_, d) ↦ d.rule = rule.name) = 0 := by
        refine List.countP_eq_zero.2 fun entry hentry hname ↦ hfirst ?_
        obtain ⟨r, hr, hentry⟩ := List.mem_flatMap.1 hentry
        obtain ⟨d, hd, rfl⟩ := List.mem_map.1 hentry
        exact List.mem_map.2 ⟨r, hr, (hrest.signs r hr document d hd).symm.trans
          (of_decide_eq_true hname)⟩
      rw [if_pos rfl, hnone, Nat.add_zero]
    · have hne : first.name ≠ rule.name :=
        fun hname ↦ hfirst (List.mem_map.2 ⟨rule, hrule, hname.symm⟩)
      rw [if_neg hne, ih hrest hrule, Nat.zero_add]

theorem ProjectFile.signed_of_configuration {toml : TomlReader} {names : Pattern.CharacterNames}
    {file : ProjectFile} {configuration : Configuration}
    (h : file.configuration toml names = .ok configuration) : configuration.rules.Signed := by
  obtain ⟨s, -, hrules⟩ := exists_of_configuration h
  rw [hrules]
  refine ⟨List.nodup_singleton _, fun rule hrule document d hd ↦ ?_⟩
  obtain rfl := List.mem_singleton.1 hrule
  exact UnusedVariables.rule_of_mem_check hd

/-- What a run tells of a file: the lines that it prints, and the records of its log. -/
structure Account where
  lines : List String
  records : List LogRecord

/-- Only a file that holds a document is checked. The number in the record of a rule is that of its
diagnostics among the lines. -/
def Account.ofFile (parse : Parser) (configuration : Configuration) (fs : FileSystem)
    (path : Path) : Account :=
  match Document.ofFile parse fs path with
  | .ok document =>
    let entries := Block.entries configuration.rules document
    ⟨(Block.linted path entries).lines,
      .parsing path :: ((if document.feature.isNone then [.noFeature path] else []) ++
        (configuration.rules.filter fun rule ↦ rule.severity ≠ "off").map fun rule ↦
          .reported rule.name (entries.countP fun (_, d) ↦ d.rule = rule.name) path)⟩
  | .error (.unreadable e) => ⟨(Block.unparsed path e.reason).lines, [.parsing path]⟩
  | .error (.message _) => ⟨[], [.parsing path]⟩
  | .error (.raised _) => ⟨[], [.parsing path]⟩

def Account.linesOf (parse : Parser) (configuration : Configuration) (fs : FileSystem)
    (paths : List Path) : List String :=
  paths.flatMap fun path ↦ (ofFile parse configuration fs path).lines

def Account.recordsOf (parse : Parser) (configuration : Configuration) (fs : FileSystem)
    (paths : List Path) : List LogRecord :=
  paths.flatMap fun path ↦ (ofFile parse configuration fs path).records

theorem Path.text_ne_empty (path : Path) : path.text ≠ "" := by
  unfold text
  dsimp only
  split
  · decide
  · assumption

theorem Document.uri_of_ofMessage {uri : String} (huri : uri ≠ "") {d : Data}
    {document : Document} (h : ofMessage uri d = .ok document) : document.uri = uri := by
  cases d with
  | object members =>
    obtain ⟨feature, -, h⟩ := exists_of_bind h
    obtain ⟨comments, -, h⟩ := exists_of_bind h
    cases h
    exact if_neg huri
  | null | bool | int | fraction | moment | text | list => cases h

theorem Document.uri_of_ofFile_ok {parse : Parser} {fs : FileSystem} {path : Path}
    {document : Document} (h : ofFile parse fs path = .ok document) :
    document.uri = path.text := by
  unfold ofFile at h
  split at h
  · cases h
  · unfold ofText at h
    split at h
    · cases h
    · cases h
    · exact uri_of_ofMessage path.text_ne_empty (eq_ok_of_mapError h)

namespace FileReport

variable {configuration : Configuration} (hsigned : configuration.rules.Signed)
include hsigned

theorem records_counts {path : Path} {document : Document} (huri : document.uri = path.text) :
    (counts configuration document).filterMap Event.record? =
      (configuration.rules.filter fun rule ↦ rule.severity ≠ "off").map fun rule ↦
        .reported rule.name
          ((Block.entries configuration.rules document).countP fun (_, d) ↦ d.rule = rule.name)
          path := by
  have henabled : configuration.enabledRules =
      configuration.rules.filter fun rule ↦ rule.severity ≠ "off" := rfl
  rw [counts, List.filterMap_map, henabled, ← List.filterMap_eq_map]
  refine List.filterMap_congr fun rule hrule ↦ ?_
  have hcount : (rule.run document).length =
      (Block.entries configuration.rules document).countP fun (_, d) ↦ d.rule = rule.name := by
    have hon : rule.isEnabled = true := (List.mem_filter.1 hrule).2
    rw [Rule.run, if_pos hon, Block.entries]
    exact ((hsigned.filter _).countP_eq document hrule).symm
  rw [Function.comp_apply, hcount, huri]
  rfl

/-- The report of a file is its account. -/
theorem ofFile_eq_account (parse : Parser) (fs : FileSystem) (path : Path) :
    (ofFile parse configuration fs path).events.filterMap Event.line? =
        (Account.ofFile parse configuration fs path).lines ∧
      (ofFile parse configuration fs path).events.filterMap Event.record? =
        (Account.ofFile parse configuration fs path).records := by
  unfold ofFile Account.ofFile
  cases hread : Document.ofFile parse fs path with
  | ok document =>
    refine ⟨lines_ofDocument configuration path document, ?_⟩
    have habsent : (if document.feature.isNone then [parserLog (path.text ++ " has no feature")]
        else []).filterMap Event.record? =
          if document.feature.isNone then [.noFeature path] else [] := by
      split <;> rfl
    have hcounts := records_counts hsigned (Document.uri_of_ofFile_ok hread)
    have hprinted : ((diagnostics configuration document).map fun (severity, d) ↦
        Event.printed (severity ++ ": " ++ d.render path.text)).filterMap Event.record? = [] :=
      Event.filterMap_record?_printed
        (fun entry : String × Diagnostic ↦ entry.1 ++ ": " ++ entry.2.render path.text) _
    dsimp only [ofDocument]
    rw [List.filterMap_cons, List.filterMap_append, List.filterMap_append, habsent, hcounts,
      hprinted, List.append_nil]
    rfl
  | error fault => cases fault <;> exact ⟨rfl, rfl⟩

end FileReport

namespace Run

/-- A run over files, told by its lines, its log and its ending. It gives the account of each file
and a verdict; or a file ends it, and it gives no account of those behind. -/
inductive Course (parse : Parser) (configuration : Configuration) (fs : FileSystem)
    (found : List Path) : List String → List LogRecord → Ending → Prop
  | whole (failed : Bool) :
      (∀ path ∈ found, Answered path.text (Document.ofFile parse fs path)) →
      Course parse configuration fs found
        (Account.linesOf parse configuration fs found ++ [(closing failed).1])
        (Account.recordsOf parse configuration fs found) (.exit (closing failed).2)
  | cut {before rest : List Path} {path : Path} {fault : Escape} :
      found = before ++ path :: rest →
      (∀ other ∈ before, Answered other.text (Document.ofFile parse fs other)) →
      fs.Breaks parse path fault →
      Course parse configuration fs found
        (Account.linesOf parse configuration fs (before ++ [path]))
        (Account.recordsOf parse configuration fs (before ++ [path])) (.escaped fault)

variable {parse : Parser} {configuration : Configuration} {fs : FileSystem} {path : Path}
  {paths : List Path}

theorem Course.cons {lines : List String} {records : List LogRecord} {ending : Ending}
    (h : Course parse configuration fs paths lines records ending)
    (hpath : Answered path.text (Document.ofFile parse fs path)) :
    Course parse configuration fs (path :: paths)
      ((Account.ofFile parse configuration fs path).lines ++ lines)
      ((Account.ofFile parse configuration fs path).records ++ records) ending := by
  cases h with
  | whole failed hall =>
    rw [← List.append_assoc]
    exact .whole failed (List.forall_mem_cons.2 ⟨hpath, hall⟩)
  | @cut before rest last fault hsplit hbefore hlast =>
    have hsplit : path :: paths = (path :: before) ++ last :: rest := by rw [hsplit]; rfl
    exact .cut hsplit (List.forall_mem_cons.2 ⟨hpath, hbefore⟩) hlast

theorem course_ofReports (hsigned : configuration.rules.Signed) (passed : Bool) :
    Course parse configuration fs paths
      (ofReports passed (paths.map (FileReport.ofFile parse configuration fs))).lines
      (ofReports passed (paths.map (FileReport.ofFile parse configuration fs))).records
      (ofReports passed (paths.map (FileReport.ofFile parse configuration fs))).ending := by
  induction paths generalizing passed with
  | nil =>
    cases passed with
    | true => exact .whole false (List.forall_mem_nil _)
    | false => exact .whole true (List.forall_mem_nil _)
  | cons path paths ih =>
    obtain ⟨hlines, hrecords⟩ := FileReport.ofFile_eq_account hsigned parse fs path
    rw [List.map_cons, ofReports]
    -- A report that is a fault is the last one, and its file is the first that ends the run.
    cases hresult : (FileReport.ofFile parse configuration fs path).result with
    | error fault =>
      have hcut : Course parse configuration fs (path :: paths)
          (Account.linesOf parse configuration fs [path])
          (Account.recordsOf parse configuration fs [path]) (.escaped fault) :=
        .cut (List.nil_append _).symm (List.forall_mem_nil _)
          (FileReport.result_eq_error_iff.1 hresult)
      rw [Account.linesOf, Account.recordsOf, List.flatMap_singleton, List.flatMap_singleton,
        ← hlines, ← hrecords] at hcut
      exact hcut
    | ok passes =>
      have hpath : Answered path.text (Document.ofFile parse fs path) := by
        refine FileSystem.answered_iff.2 fun fault hbreaks ↦ ?_
        cases hresult.symm.trans (FileReport.result_eq_error_iff.2 hbreaks)
      dsimp only
      rw [lines_after, records_after, hlines, hrecords]
      exact (ih (passed && passes)).cons hpath

/-- A run over files lists them first, and then gives the account of each. -/
theorem course_ofFiles (hsigned : configuration.rules.Signed) (hne : paths ≠ []) :
    ∃ lines, (ofFiles parse configuration fs paths).lines =
        "Linting the following files:" :: paths.map (fun path ↦ "- " ++ path.text) ++ lines ∧
      Course parse configuration fs paths lines (ofFiles parse configuration fs paths).records
        (ofFiles parse configuration fs paths).ending := by
  rw [ofFiles, if_neg (by simpa using hne)]
  refine ⟨(ofReports true (paths.map (FileReport.ofFile parse configuration fs))).lines, ?_, ?_⟩
  · rw [lines_after, List.filterMap_cons, Event.line?, Event.filterMap_line?_printed]
  · rw [records_after, List.filterMap_cons, Event.record?, Event.filterMap_record?_printed]
    exact course_ofReports hsigned true

end Run

end GherkinLint
