import GherkinLint.CommandLine
import Mathlib.Tactic.ByContra

namespace GherkinLint

/-- A document, or a report under the uri of why there is none. -/
def Answered (uri : String) (result : Except SourceFault Document) : Prop :=
  (∃ document, result = .ok document) ∨ ∃ reason, result = .error (.unreadable ⟨uri, reason⟩)

def SourceFault.escape? : SourceFault → Option Escape
  | unreadable _ => none
  | message fault => some (.message fault)
  | raised e => some (.raised e)

def FileSystem.Breaks (parse : Parser) (fs : FileSystem) (path : Path) (fault : Escape) : Prop :=
  ∃ e, Document.ofFile parse fs path = .error e ∧ e.escape? = some fault

variable {parse : Parser} {configuration : Configuration} {fs : FileSystem} {path : Path}
  {fault : Escape}

theorem Document.uri_of_ofText {uri text : String} {e : Unreadable}
    (h : ofText parse uri text = .error (.unreadable e)) : e.uri = uri := by
  unfold ofText at h
  split at h
  · cases h
    rfl
  · cases h
  · cases hread : Document.ofMessage uri _ with
    | ok document =>
      rw [hread] at h
      cases h
    | error fault =>
      rw [hread] at h
      cases h

theorem Document.uri_of_ofFile {e : Unreadable}
    (h : ofFile parse fs path = .error (.unreadable e)) : e.uri = path.text := by
  unfold ofFile at h
  split at h
  · cases h
    rfl
  · exact uri_of_ofText h

/-- A file is answered just when it does not end the run. -/
theorem FileSystem.answered_iff :
    Answered path.text (Document.ofFile parse fs path) ↔ ∀ fault, ¬fs.Breaks parse path fault := by
  unfold Answered Breaks
  cases h : Document.ofFile parse fs path with
  | ok document => simp
  | error e =>
    cases e with
    | unreadable e =>
      have huri := Document.uri_of_ofFile h
      refine iff_of_true (.inr ⟨e.reason, by rw [← huri]⟩) ?_
      rintro fault ⟨found, hfound, hescape⟩
      cases hfound
      cases hescape
    | message | raised => simp [SourceFault.escape?]

theorem FileReport.result_eq_error_iff :
    (ofFile parse configuration fs path).result = .error fault ↔ fs.Breaks parse path fault := by
  unfold ofFile FileSystem.Breaks
  cases Document.ofFile parse fs path with
  | ok document => simp [ofDocument]
  | error e => cases e <;> simp [SourceFault.escape?]

namespace Run

def verdict (passes : Bool) : Run :=
  if passes then print "Linting ran successfully" 0 else print "Linting failed." 1

theorem after_after (first second : List Event) (run : Run) :
    (run.after second).after first = run.after (first ++ second) := by
  simp [after]

/-- Reports without a fault are told one after the other, and the verdict closes them. -/
theorem ofReports_of_ok {reports : List FileReport} (passed : Bool)
    (h : ∀ report ∈ reports, ∀ fault, report.result ≠ .error fault) :
    ofReports passed reports =
      (verdict (passed && reports.all (·.result matches .ok true))).after
        (reports.flatMap (·.events)) := by
  induction reports generalizing passed with
  | nil => simp [ofReports, verdict, after]
  | cons report rest ih =>
    have hrest := fun passed ↦ ih passed fun r hr ↦ h r (List.mem_cons_of_mem report hr)
    rw [ofReports]
    cases hresult : report.result with
    | error fault => exact absurd hresult (h report List.mem_cons_self fault)
    | ok passes =>
      dsimp only
      rw [hrest, after_after, List.flatMap_cons, List.all_cons, hresult, Bool.and_assoc]
      cases passes <;> rfl

/-- The first report that is a fault ends the run. -/
theorem ofReports_escapes {reports : List FileReport} (passed : Bool)
    (h : ∃ report ∈ reports, ∃ fault, report.result = .error fault) :
    ∃ report ∈ reports, ∃ fault, report.result = .error fault ∧
      (ofReports passed reports).ending = .escaped fault := by
  induction reports generalizing passed with
  | nil => simp at h
  | cons report rest ih =>
    rw [ofReports]
    cases hresult : report.result with
    | error fault => exact ⟨report, List.mem_cons_self, fault, hresult, rfl⟩
    | ok passes =>
      have hrest : ∃ other ∈ rest, ∃ fault, other.result = .error fault := by
        obtain ⟨other, hother, fault, hfault⟩ := h
        rcases List.mem_cons.1 hother with rfl | hother
        · cases hresult.symm.trans hfault
        · exact ⟨other, hother, fault, hfault⟩
      obtain ⟨other, hother, fault, hfault, hending⟩ := ih (passed && passes) hrest
      exact ⟨other, List.mem_cons_of_mem report hother, fault, hfault, hending⟩

/-- The run has come to its verdict. -/
def Concluded (run : Run) : Prop :=
  (run.ending = .exit 0 ∧ run.events.getLast? = some (.printed "Linting ran successfully")) ∨
    (run.ending = .exit 1 ∧ run.events.getLast? = some (.printed "Linting failed."))

theorem concluded_verdict (passes : Bool) : (verdict passes).Concluded := by
  cases passes
  · exact .inr ⟨rfl, rfl⟩
  · exact .inl ⟨rfl, rfl⟩

theorem Concluded.after {run : Run} (h : run.Concluded) (events : List Event) :
    (run.after events).Concluded := by
  have hlast {event : Event} (he : run.events.getLast? = some event) :
      (run.after events).events.getLast? = some event := by
    rw [Run.after, List.getLast?_append, he, Option.some_or]
  rcases h with ⟨hending, he⟩ | ⟨hending, he⟩
  · exact .inl ⟨hending, hlast he⟩
  · exact .inr ⟨hending, hlast he⟩

theorem Concluded.ending_ne {run : Run} (h : run.Concluded) (fault : Escape) :
    run.ending ≠ .escaped fault := by
  intro hescaped
  rcases h with ⟨hexit, -⟩ | ⟨hexit, -⟩ <;> cases hexit.symm.trans hescaped

section Files

variable {paths : List Path}

/-- A run over files that are all answered gives the reports of them and its verdict. -/
theorem ofFiles_of_answered (hne : paths ≠ [])
    (h : ∀ path ∈ paths, Answered path.text (Document.ofFile parse fs path)) :
    (ofFiles parse configuration fs paths).Concluded ∧
      ∀ path ∈ paths, ∀ event ∈ (FileReport.ofFile parse configuration fs path).events,
        event ∈ (ofFiles parse configuration fs paths).events := by
  have hok : ∀ report ∈ paths.map (FileReport.ofFile parse configuration fs), ∀ fault,
      report.result ≠ .error fault := by
    intro report hreport fault hfault
    obtain ⟨path, hpath, rfl⟩ := List.mem_map.1 hreport
    exact FileSystem.answered_iff.1 (h path hpath) fault (FileReport.result_eq_error_iff.1 hfault)
  rw [ofFiles, if_neg (by simpa using hne), ofReports_of_ok true hok, after_after]
  refine ⟨(concluded_verdict _).after _, fun path hpath event hevent ↦ ?_⟩
  refine List.mem_append_left _ (List.mem_append_right _ ?_)
  exact List.mem_flatMap.2 ⟨_, List.mem_map_of_mem hpath, hevent⟩

theorem ofFiles_of_breaks (h : ∃ path ∈ paths, ∃ fault, fs.Breaks parse path fault) :
    ∃ path ∈ paths, ∃ fault, fs.Breaks parse path fault ∧
      (ofFiles parse configuration fs paths).ending = .escaped fault := by
  obtain ⟨path, hpath, fault, hbreaks⟩ := h
  have hreport : ∃ report ∈ paths.map (FileReport.ofFile parse configuration fs), ∃ fault,
      report.result = .error fault :=
    ⟨_, List.mem_map_of_mem hpath, fault, FileReport.result_eq_error_iff.2 hbreaks⟩
  obtain ⟨report, hreport, fault, hfault, hending⟩ := ofReports_escapes true hreport
  obtain ⟨other, hother, rfl⟩ := List.mem_map.1 hreport
  refine ⟨other, hother, fault, FileReport.result_eq_error_iff.1 hfault, ?_⟩
  rw [ofFiles, if_neg (by simpa using List.ne_nil_of_mem hpath)]
  exact hending

/-- A run over files escapes just when one of them ends it. -/
theorem ofFiles_escapes_iff :
    (∃ fault, (ofFiles parse configuration fs paths).ending = .escaped fault) ↔
      ∃ path ∈ paths, ∃ fault, fs.Breaks parse path fault := by
  constructor
  · rintro ⟨fault, hescaped⟩
    by_contra hno
    cases paths with
    | nil => cases hescaped
    | cons path rest =>
      have hanswered : ∀ other ∈ path :: rest,
          Answered other.text (Document.ofFile parse fs other) :=
        fun other hother ↦ FileSystem.answered_iff.2 fun found hfound ↦
          hno ⟨other, hother, found, hfound⟩
      exact (ofFiles_of_answered (List.cons_ne_nil path rest) hanswered).1.ending_ne fault hescaped
  · intro h
    obtain ⟨path, -, fault, -, hending⟩ := ofFiles_of_breaks h
    exact ⟨fault, hending⟩

end Files

theorem main_of_configuration {platform : Platform} {options : CommandLine.Options}
    {file : ProjectFile} (hlist : options.listRules = false)
    (hfile : ProjectFile.findIn fs = .ok file)
    (hconfiguration : file.configuration platform.toml platform.names = .ok configuration) :
    main platform fs options =
      let run := ofFiles platform.parser configuration fs
        (fs.filesFor (configuration.files.search ·.text) options.files)
      ⟨CommandLine.shown options.verbose (configurationLog file :: run.events), run.ending⟩ := by
  simp only [main, ofProject, hfile, hconfiguration, ofConfiguration, hlist]
  rfl

end Run

end GherkinLint
