import GherkinLint.Document
import GherkinLint.Text.Blank

namespace GherkinLint.Gherkin

open Text

structure Dialect where
  name : String
  feature : List String
  background : List String
  group : List String
  scenario : List String
  outline : List String
  examples : List String
  /-- With the space behind the word, where the language writes one. -/
  step : List String
  deriving DecidableEq, Repr

namespace Dialect

def english : Dialect where
  name := "en"
  feature := ["Feature", "Business Need", "Ability"]
  background := ["Background"]
  group := ["Rule"]
  scenario := ["Example", "Scenario"]
  outline := ["Scenario Outline", "Scenario Template"]
  examples := ["Examples", "Scenarios"]
  step :=
    ["* ", "Given ", "When ", "Then ", "And ", "But "]

def french : Dialect where
  name := "fr"
  feature := ["Fonctionnalité"]
  background := ["Contexte"]
  group := ["Règle"]
  scenario := ["Exemple", "Scénario"]
  outline := ["Plan du scénario", "Plan du Scénario"]
  examples := ["Exemples"]
  step :=
    ["* ", "Soit ", "Sachant que ", "Sachant qu'", "Sachant ", "Etant donné que ",
     "Etant donné qu'", "Etant donné ", "Etant donnée ", "Etant donnés ", "Etant données ",
     "Étant donné que ", "Étant donné qu'", "Étant donné ", "Étant donnée ", "Étant donnés ",
     "Étant données ", "Quand ", "Lorsque ", "Lorsqu'", "Alors ", "Donc ", "Et que ", "Et qu'",
     "Et ", "Mais que ", "Mais qu'", "Mais "]

def german : Dialect where
  name := "de"
  feature := ["Funktionalität", "Funktion"]
  background := ["Grundlage", "Hintergrund", "Voraussetzungen", "Vorbedingungen"]
  group := ["Rule", "Regel"]
  scenario := ["Beispiel", "Szenario"]
  outline := ["Szenariogrundriss", "Szenarien"]
  examples := ["Beispiele"]
  step :=
    ["* ", "Angenommen ", "Gegeben sei ", "Gegeben seien ", "Wenn ", "Dann ", "Und ", "Aber "]

def japanese : Dialect where
  name := "ja"
  feature := ["フィーチャ", "機能"]
  background := ["背景"]
  group := ["ルール"]
  scenario := ["シナリオ"]
  outline := ["シナリオアウトライン", "シナリオテンプレート", "テンプレ", "シナリオテンプレ"]
  examples := ["例", "サンプル"]
  step :=
    ["* ", "前提", "もし", "ならば", "且つ", "かつ", "然し", "しかし", "但し", "ただし"]

def emoji : Dialect where
  name := "em"
  feature := ["📚"]
  background := ["💤"]
  group := ["Rule"]
  scenario := ["🥒", "📕"]
  outline := ["📖"]
  examples := ["📓"]
  step :=
    ["* ", "😐", "🎬", "🙏", "😂", "😔"]

def all : List Dialect := [english, french, german, japanese, emoji]

def named? (name : String) : Option Dialect := all.find? (·.name == name)

end Dialect

inductive Kind where
  | eof
  | blank
  | comment
  | tags
  | feature
  | group
  | background
  | scenario
  | examples
  | step
  | row
  | fence
  | language
  | other
  deriving DecidableEq, Repr

def Kind.label : Kind → String
  | eof => "#EOF"
  | blank => "#Empty"
  | comment => "#Comment"
  | tags => "#TagLine"
  | feature => "#FeatureLine"
  | group => "#RuleLine"
  | background => "#BackgroundLine"
  | scenario => "#ScenarioLine"
  | examples => "#ExamplesLine"
  | step => "#StepLine"
  | row => "#TableRow"
  | fence => "#DocStringSeparator"
  | language => "#Language"
  | other => "#Other"

inductive Fault where
  | blankInTag
  | unknownLanguage (name : String)
  | unexpected (expected : List Kind) (found : String)
  | unexpectedEnd (expected : List Kind)
  | unevenRows
  deriving DecidableEq, Repr

structure Problem where
  line : Nat
  column : Nat
  fault : Fault
  deriving DecidableEq, Repr

def Fault.message : Fault → String
  | blankInTag => "A tag may not contain whitespace"
  | unknownLanguage name => "Language not supported: " ++ name
  | unexpected expected found =>
    "expected: " ++ ", ".intercalate (expected.map Kind.label) ++ ", got '" ++ found ++ "'"
  | unexpectedEnd expected =>
    "unexpected end of file, expected: " ++ ", ".intercalate (expected.map Kind.label)
  | unevenRows => "inconsistent cell count within the table"

def Problem.message (p : Problem) : String :=
  "(" ++ toString p.line ++ ":" ++ toString p.column ++ "): " ++ p.fault.message

/-- The messages of the problems, each once, in the order in which they are met. -/
def Problem.messages (problems : List Problem) : List String :=
  problems.foldl (fun seen p ↦ if p.message ∈ seen then seen else seen ++ [p.message]) []

def Problem.limit : Nat := 11

def Problem.reachesLimit (problems : List Problem) : Bool :=
  limit ≤ (messages problems).length

def Problem.report (problems : List Problem) : String :=
  "\n".intercalate ("Parser errors:" :: (Problem.messages problems).take Problem.limit)

/-- The text with every occurrence of `old`, from left to right, written as `new`. `skip` counts
the characters that a replaced occurrence still covers. -/
def replaceAux (old new : List Char) : Nat → List Char → List Char
  | _, [] => []
  | skip + 1, _ :: s => replaceAux old new skip s
  | 0, c :: s =>
    if old.isPrefixOf (c :: s) then new ++ replaceAux old new (old.length - 1) s
    else c :: replaceAux old new 0 s

def replace (old new s : List Char) : List Char :=
  if old.isEmpty then s else replaceAux old new 0 s

/-- The lines of a text, each with the line feed that ends it. A text that ends in a line feed has
no line after it. -/
def lines : List Char → List (List Char)
  | [] => []
  | c :: s =>
    if c = '\n' then [c] :: lines s
    else match lines s with
      | [] => [[c]]
      | line :: rest => (c :: line) :: rest

structure Line where
  number : Nat
  text : List Char
  deriving DecidableEq, Repr

namespace Line

def trimmed (line : Line) : List Char := stripStart line.text

def indent (line : Line) : Nat := line.text.length - line.trimmed.length

def location (line : Line) : Location := ⟨line.number, some (line.indent + 1 : Nat)⟩

def numberFrom (number : Nat) : List (List Char) → List Line
  | [] => []
  | text :: rest => ⟨number, text⟩ :: numberFrom (number + 1) rest

end Line

/-- A doc string that is open: the fence that closes it, and the indent of the one that opened
it. -/
structure OpenDocString where
  fence : List Char
  indent : Nat
  deriving DecidableEq, Repr

/-- What decides how a line is read: the dialect in force, and the doc string that is open. -/
structure Context where
  dialect : Dialect
  docString : Option OpenDocString
  deriving DecidableEq, Repr

structure Heading where
  location : Location
  keyword : String
  text : String
  deriving DecidableEq, Repr

inductive Mark where
  | eof
  | blank
  | comment (text : String)
  | tags
  | language (dialect : Dialect)
  | feature (heading : Heading) (language : String)
  | group (heading : Heading)
  | background (heading : Heading)
  | scenario (heading : Heading)
  | examples (heading : Heading)
  | step (heading : Heading)
  | row (row : TableRow)
  | docStringStart (location : Location) (fence : List Char) (indent : Nat)
  | docStringEnd
  | other (text : String)
  deriving DecidableEq, Repr

def heading? (keywords : List String) (line : Line) : Option Heading :=
  (keywords.find? fun keyword ↦ startsWith line.trimmed (keyword.toList ++ [':'])).map
    fun keyword ↦
      ⟨line.location, keyword, String.ofList (strip (line.trimmed.drop (keyword.length + 1)))⟩

def longer (a b : String) : String := if b.length ≤ a.length then a else b

def stepKeyword? (keywords : List String) (line : Line) : Option String :=
  (keywords.filter fun keyword ↦ startsWith line.trimmed keyword.toList).foldl
    (fun best keyword ↦ some (match best with
      | some best => longer best keyword
      | none => keyword)) none

def step? (keywords : List String) (line : Line) : Option Heading :=
  (stepKeyword? keywords line).map fun keyword ↦
    ⟨line.location, keyword, String.ofList (strip (line.trimmed.drop keyword.length))⟩

abbrev Between := Nat × List Char

/-- The texts that bars cut a row into, and the escapes in them resolved: a bar, a backslash and a
line feed are written as a backslash followed by a bar, a backslash and an `n`. `start` is where
the present text begins, `position` where the rest of the row does, and `acc` holds the present
text backwards. The text behind the last bar is left out. -/
def between (start position : Nat) (acc : List Char) : List Char → List Between
  | [] => []
  | '|' :: s => (start, acc.reverse) :: between (position + 1) (position + 1) [] s
  | '\\' :: 'n' :: s => between start (position + 2) ('\n' :: acc) s
  | '\\' :: '|' :: s => between start (position + 2) ('|' :: acc) s
  | '\\' :: '\\' :: s => between start (position + 2) ('\\' :: acc) s
  | c :: s => between start (position + 1) (c :: acc) s

def isCellEdge (c : Char) : Bool := isBlank c && c != '\n'

def cell (line : Line) : Between → TableCell
  | (start, text) =>
    let kept := text.dropWhile isCellEdge
    let column := line.indent + start + 1 + (text.length - kept.length)
    ⟨⟨line.number, some column⟩, some (String.ofList (kept.reverse.dropWhile isCellEdge).reverse)⟩

/-- The cells stand between the bars; what precedes the first bar is left out. -/
def cells (line : Line) : List TableCell :=
  ((between 0 0 [] (stripEnd line.trimmed)).drop 1).map (cell line)

def dropComment : List Char → List Char
  | [] => []
  | c :: s => if isBlank c && s.head? == some '#' then [] else c :: dropComment s

def splitAt (separator : Char) : List Char → List (List Char)
  | [] => [[]]
  | c :: s =>
    match splitAt separator s with
    | [] => []
    | first :: rest => if c = separator then [] :: first :: rest else (c :: first) :: rest

def blankTag? (column : Nat) : List (List Char) → Option Nat
  | [] => none
  | tag :: rest =>
    if (strip tag).any isBlank then some column else blankTag? (column + tag.length + 1) rest

def tagFault? (line : Line) : Option Nat :=
  blankTag? (line.indent + 1) ((splitAt '@' (strip (dropComment (strip line.trimmed)))).drop 1)

def isLanguageChar (c : Char) : Bool :=
  ('a' ≤ c && c ≤ 'z') || ('A' ≤ c && c ≤ 'Z') || c == '-' || c == '_'

def after? (start s : List Char) : Option (List Char) :=
  if startsWith (stripStart s) start then some (stripStart ((stripStart s).drop start.length))
  else none

def languageName? (line : Line) : Option String := do
  let s ← after? ['#'] line.trimmed
  let s ← after? "language".toList s
  let s ← after? [':'] s
  let name := s.takeWhile isLanguageChar
  if name ≠ [] ∧ (s.drop name.length).all isBlank then some (String.ofList name) else none

def fences : List (List Char) := ["\"\"\"".toList, "```".toList]

def escaped (fence : List Char) : List Char := fence.flatMap fun c ↦ ['\\', c]

/-- A line of running text. In a doc string the indent of its fence is taken off, or all of a
smaller one, and an escaped fence is resolved. -/
def otherText (docString : Option OpenDocString) (line : Line) : String :=
  let text := match docString with
    | some ds =>
      let rest := if ds.indent > line.indent then line.trimmed else line.text.drop ds.indent
      replace (escaped ds.fence) ds.fence rest
    | none => line.text
  String.ofList (dropLineEnd text)

/-- What the line says as a line of one kind, or what is wrong with it; nothing when it is of
another kind. -/
def readAs (context : Context) (kind : Kind) (line : Line) : Option (Except Fault Mark) :=
  let dialect := context.dialect
  match kind with
  | .eof => none
  | .blank => if line.trimmed = [] then some (.ok .blank) else none
  | .comment =>
    if startsWith line.trimmed ['#'] then
      some (.ok (.comment (String.ofList (dropLineEnd line.text))))
    else none
  | .tags =>
    if startsWith line.trimmed ['@'] then
      some (if (tagFault? line).isSome then .error .blankInTag else .ok .tags)
    else none
  | .language =>
    (languageName? line).map fun name ↦
      match Dialect.named? name with
      | some dialect => .ok (.language dialect)
      | none => .error (.unknownLanguage name)
  | .feature => (heading? dialect.feature line).map fun h ↦ .ok (.feature h dialect.name)
  | .group => (heading? dialect.group line).map fun h ↦ .ok (.group h)
  | .background => (heading? dialect.background line).map fun h ↦ .ok (.background h)
  | .scenario =>
    (heading? (dialect.scenario ++ dialect.outline) line).map fun h ↦ .ok (.scenario h)
  | .examples => (heading? dialect.examples line).map fun h ↦ .ok (.examples h)
  | .step => (step? dialect.step line).map fun h ↦ .ok (.step h)
  | .row =>
    if startsWith line.trimmed ['|'] then some (.ok (.row ⟨line.location, cells line⟩)) else none
  | .fence =>
    match context.docString with
    | some ds => if startsWith line.trimmed ds.fence then some (.ok .docStringEnd) else none
    | none =>
      (fences.find? (startsWith line.trimmed)).map fun fence ↦
        .ok (.docStringStart line.location fence line.indent)
  | .other => some (.ok (.other (otherText context.docString line)))

def faultColumn (line : Line) : Fault → Nat
  | .blankInTag => (tagFault? line).getD (line.indent + 1)
  | _ => line.indent + 1

def recognise (context : Context) (kind : Kind) (line : Line) : Option Mark × List Problem :=
  match readAs context kind line with
  | some (.ok mark) => (some mark, [])
  | some (.error fault) => (none, [⟨line.number, faultColumn line fault, fault⟩])
  | none => (none, [])

end GherkinLint.Gherkin
