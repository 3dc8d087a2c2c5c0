import GherkinLint.Proofs.FileTree.Contents
import GherkinLint.Proofs.LintRun.Block
import GherkinLint.Proofs.Outcome
import GherkinLint.Proofs.Text.Written

namespace GherkinLint

namespace Text

def ofBytes (bytes : List UInt8) : Except Utf8.Fault (List Char) :=
  (Utf8.decode bytes).map uniformLineEnds

theorem ofBytes_written (ends : LineEnd) {s : List Char} (hs : '\r' ∉ s) :
    ofBytes (Utf8.encode (ends.written s)) = .ok s := by
  rw [ofBytes, Utf8.decode_encode]
  exact congrArg Except.ok (uniformLineEnds_written ends hs)

/-- The bytes of the same text with line feeds as its only line ends. -/
def plain (bytes : List UInt8) : List UInt8 :=
  match ofBytes bytes with
  | .ok s => Utf8.encode s
  | .error _ => bytes

theorem plain_written (ends : LineEnd) {s : List Char} (hs : '\r' ∉ s) :
    plain (Utf8.encode (ends.written s)) = Utf8.encode s := by
  rw [plain, ofBytes_written ends hs]

theorem not_mem_of_ofBytes {bytes : List UInt8} {s : List Char} (h : ofBytes bytes = .ok s) :
    '\r' ∉ s := by
  obtain ⟨written, -, rfl⟩ := exists_of_map h
  exact not_mem_uniformLineEnds written

theorem ofBytes_plain (bytes : List UInt8) : ofBytes (plain bytes) = ofBytes bytes := by
  unfold plain
  cases h : ofBytes bytes with
  | error fault => exact h
  | ok s =>
    have hwritten := ofBytes_written .lf (not_mem_of_ofBytes h)
    rwa [LineEnd.written_lf] at hwritten

end Text

theorem Document.ofContent_ok (parse : Parser) (path : Path) (bytes : List UInt8) :
    ofContent parse path (.ok bytes) =
      match Text.ofBytes bytes with
      | .error fault => .error (.unreadable ⟨path.text, fault.message⟩)
      | .ok s => ofText parse path.text (String.ofList s) := by
  unfold ofContent Text.ofBytes
  cases hdecode : Text.Utf8.decode bytes <;> simp only [hdecode] <;> rfl

section Contents

variable {f : List UInt8 → List UInt8} (hf : ∀ bytes, Text.ofBytes (f bytes) = Text.ofBytes bytes)
variable (parse : Parser) (fs : FileSystem)
include hf

theorem Document.ofFile_mapFiles (path : Path) :
    ofFile parse (fs.mapFiles f) path = ofFile parse fs path := by
  rw [ofFile_eq_ofContent, ofFile_eq_ofContent, FileSystem.read_mapFiles]
  cases fs.read path with
  | error => rfl
  | ok bytes =>
    change ofContent parse path (.ok (f bytes)) = _
    rw [ofContent_ok, ofContent_ok, hf]

theorem FileReport.ofFile_mapFiles (configuration : Configuration) (path : Path) :
    ofFile parse configuration (fs.mapFiles f) path = ofFile parse configuration fs path := by
  rw [ofFile, ofFile, Document.ofFile_mapFiles hf]

theorem Run.ofConfiguration_mapFiles (listRules : Bool) (arguments : List Path)
    (configuration : Configuration) :
    ofConfiguration parse (fs.mapFiles f) listRules arguments configuration =
      ofConfiguration parse fs listRules arguments configuration := by
  unfold ofConfiguration ofFiles
  rw [FileSystem.filesFor_mapFiles, funext (FileReport.ofFile_mapFiles hf parse fs configuration)]

end Contents

inductive Entry.Rewritten : Entry → Entry → Prop
  | here {s : List Char} (first second : Text.LineEnd) : '\r' ∉ s →
      Rewritten (file (Text.Utf8.encode (first.written s)))
        (file (Text.Utf8.encode (second.written s)))
  | inside {name : String} {inner other : Entry} (before after : Members Entry) :
      Rewritten inner other →
      Rewritten (directory (before ++ (name, inner) :: after))
        (directory (before ++ (name, other) :: after))

theorem Entry.Rewritten.mapFiles_plain {tree other : Entry} (h : tree.Rewritten other) :
    tree.mapFiles Text.plain = other.mapFiles Text.plain := by
  induction h with
  | here first second hs =>
    rw [mapFiles, mapFiles, Text.plain_written first hs, Text.plain_written second hs]
  | inside before after _ ih =>
    rw [mapFiles_directory, mapFiles_directory, List.map_append, List.map_append, List.map_cons,
      List.map_cons]
    dsimp only
    rw [ih]

theorem Run.ofConfiguration_of_rewritten {fs : FileSystem} {root : Entry}
    (h : Relation.ReflTransGen Entry.Rewritten fs.root root) (parse : Parser) (listRules : Bool)
    (arguments : List Path) (configuration : Configuration) :
    ofConfiguration parse { fs with root } listRules arguments configuration =
      ofConfiguration parse fs listRules arguments configuration := by
  -- The two trees are one, once all their files have plain line ends.
  have hplain : root.mapFiles Text.plain = fs.root.mapFiles Text.plain := by
    induction h with
    | refl => rfl
    | tail _ hstep ih => rw [← hstep.mapFiles_plain, ih]
  have hsame : { fs with root }.mapFiles Text.plain = fs.mapFiles Text.plain :=
    congrArg (fun tree ↦ { fs with root := tree }) hplain
  rw [← ofConfiguration_mapFiles Text.ofBytes_plain, hsame,
    ofConfiguration_mapFiles Text.ofBytes_plain]

theorem Run.main_of_rewritten {fs : FileSystem} {root : Entry}
    (h : Relation.ReflTransGen Entry.Rewritten fs.root root)
    (hproject : ProjectFile.findIn { fs with root } = ProjectFile.findIn fs) (platform : Platform)
    (options : CommandLine.Options) :
    main platform { fs with root } options = main platform fs options := by
  unfold main ofProject
  rw [hproject]
  simp only [ofConfiguration_of_rewritten h]

/-- A file is read as the text that was written to it, whatever its line ends: it holds the
document of that text, or is refused for the same reason. So a run of a project does not change when
other files than that of its settings are written with other line ends. -/
theorem Document.line_ends_not_seen (platform : Platform) (fs : FileSystem) :
    (∀ (path : Path) (ends : Text.LineEnd) (text : String), '\r' ∉ text.toList →
      fs.read path = .ok (Text.Utf8.encode (ends.written text.toList)) →
      ofFile platform.parser fs path = ofText platform.parser path.text text) ∧
    ∀ (root : Entry) (options : CommandLine.Options),
      Relation.ReflTransGen Entry.Rewritten fs.root root →
      ProjectFile.findIn { fs with root } = ProjectFile.findIn fs →
      Run.main platform { fs with root } options = Run.main platform fs options := by
  refine ⟨fun path ends text htext hread ↦ ?_,
    fun root options h hproject ↦ Run.main_of_rewritten h hproject platform options⟩
  rw [ofFile_eq_ofContent, hread, ofContent_ok, Text.ofBytes_written ends htext]
  exact congrArg (ofText platform.parser path.text) String.ofList_toList

namespace Run

def mealText : String :=
  "Feature: Café\n\n\nScenario: 🍰\nGiven a <dish>\nExamples:\n|dish|thé|\n"

def mealSettings : String × Members Data :=
  ("[tool.featurelint]\nrules.no-unused-variables = 'warn'\n",
    [("tool", .object [("featurelint", .object [("rules", .object
      [("no-unused-variables", .text "warn")])])])])

def mealPlatform : Platform :=
  .knowing [(mealText, featureMessage "Café" [dishOutline "🍰" 4 [("dish", 2), ("thé", 7)]])]
    [mealSettings]

/-- A project whose feature file and notes have their own line ends. -/
def mealDisk (meal notes : Text.LineEnd) : FileSystem where
  root := .directory [("project", .directory
    [(ProjectFile.fileName, .file (Text.Utf8.encode mealSettings.1.toList)),
      ("meal.feature", .file (Text.Utf8.encode (meal.written mealText.toList))),
      ("notes.txt", .file (Text.Utf8.encode (notes.written "one\ntwo\n".toList)))])]
  workingDirectory := ["project"]
  top := []

def mealRun (meal notes : Text.LineEnd) : Run :=
  main mealPlatform (mealDisk meal notes) ⟨false, false, [.ofText "meal.feature"]⟩

/-- The column is found in its line, whatever ends the lines before it. -/
theorem line_ends_not_seen_meal :
    '\r' ∉ mealText.toList ∧
    (mealDisk .crlf .lf).read (.ofText "meal.feature") =
      .ok (Text.Utf8.encode (Text.LineEnd.crlf.written mealText.toList)) ∧
    Document.ofFile mealPlatform.parser (mealDisk .crlf .lf) (.ofText "meal.feature") =
      Document.ofText mealPlatform.parser "meal.feature" mealText ∧
    Relation.ReflTransGen Entry.Rewritten (mealDisk .crlf .lf).root (mealDisk .cr .cr).root ∧
    ProjectFile.findIn (mealDisk .cr .cr) = ProjectFile.findIn (mealDisk .crlf .lf) ∧
    mealRun .cr .cr = mealRun .crlf .lf ∧
    (mealRun .crlf .lf).lines =
      ["Linting the following files:", "- meal.feature",
        "warn: meal.feature:7:7: Examples table variable \"thé\" is not used in any step " ++
          "[no-unused-variables]",
        "Linting ran successfully"] := by
  obtain ⟨hread, hrun⟩ := Document.line_ends_not_seen mealPlatform (mealDisk .crlf .lf)
  have htext : '\r' ∉ mealText.toList := by decide
  have hbytes : (mealDisk .crlf .lf).read (.ofText "meal.feature") =
      .ok (Text.Utf8.encode (Text.LineEnd.crlf.written mealText.toList)) := rfl
  have hnotes : '\r' ∉ "one\ntwo\n".toList := by decide
  have hrewritten : Relation.ReflTransGen Entry.Rewritten (mealDisk .crlf .lf).root
      (mealDisk .cr .cr).root :=
    .tail (.single (.inside [] [] (.inside [_] _ (.here .crlf .cr htext))))
      (.inside [] [] (.inside [_, _] [] (.here .lf .cr hnotes)))
  have hproject : ProjectFile.findIn (mealDisk .cr .cr) = ProjectFile.findIn (mealDisk .crlf .lf) :=
    rfl
  exact ⟨htext, hbytes, hread _ .crlf _ htext hbytes, hrewritten, hproject,
    hrun _ _ hrewritten hproject, by decide +kernel⟩

end Run

end GherkinLint
