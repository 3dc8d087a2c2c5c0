import GherkinLint.Packages.Gherkin.Grammar
import GherkinLint.Source

namespace GherkinLint.Gherkin

structure Reading where
  place : Place
  context : Context
  /-- The rows of the table that is being read, the last one first. -/
  rows : List TableRow
  /-- What the lines say, the last one first. -/
  marks : List Mark
  problems : List Problem
  deriving Repr

namespace Reading

def start : Reading := ⟨.start, ⟨.english, none⟩, [], [], []⟩

/-- Whether the first of the lines that is not blank, a comment or a line of tags is of a kind.
Faulty tags end the look ahead. -/
def looksAhead (context : Context) (kind : Kind) : List Line → Bool × List Problem
  | [] => (false, [])
  | line :: rest =>
    match recognise context kind line with
    | (some _, problems) => (true, problems)
    | (none, problems) =>
      if (recognise context .blank line).1.isSome || (recognise context .comment line).1.isSome then
        looksAhead context kind rest
      else
        match recognise context .tags line with
        | (some _, _) => looksAhead context kind rest
        | (none, faults) => (false, problems ++ faults)

/-- The first alternative that the line fits, with what the line says. Without a line, at the end
of the file, only that end fits. -/
def choose (context : Context) (line : Option Line) (ahead : List Line) :
    List Alternative → Option (Mark × Place) × List Problem
  | [] => (none, [])
  | a :: rest =>
    let (mark, problems) := match line with
      | some line => recognise context a.kind line
      | none => (if a.kind = .eof then some .eof else none, [])
    match mark with
    | none =>
      let (chosen, more) := choose context line ahead rest
      (chosen, problems ++ more)
    | some mark =>
      match a.ahead with
      | none => (some (mark, a.next), problems)
      | some kind =>
        let (fits, faults) := looksAhead context kind ahead
        if fits then (some (mark, a.next), problems ++ faults)
        else
          let (chosen, more) := choose context line ahead rest
          (chosen, problems ++ faults ++ more)

def unevenRow? : List TableRow → Option TableRow
  | [] => none
  | first :: rest => rest.find? fun row ↦ row.cells.length ≠ first.cells.length

def unevenRows (rows : List TableRow) : List Problem :=
  match unevenRow? rows with
  | some row => [⟨row.location.line.toNat, (row.location.column.getD 0).toNat, .unevenRows⟩]
  | none => []

def nextContext (context : Context) : Mark → Context
  | .language dialect => { context with dialect }
  | .docStringStart _ fence indent => { context with docString := some ⟨fence, indent⟩ }
  | .docStringEnd => { context with docString := none }
  | _ => context

def nextRows (rows : List TableRow) (place : Place) : Mark → List TableRow
  | .row row => row :: rows
  | _ => if place.inTable then rows else []

def misfit (place : Place) (count : Nat) : Option Line → Problem
  | some line =>
    ⟨line.number, line.indent + 1,
      .unexpected place.expected (String.ofList (Text.strip line.trimmed))⟩
  | none => ⟨count + 1, 0, .unexpectedEnd place.expected⟩

/-- The reading after one more line, or after the end of a file of `count` lines. A line that fits
nowhere is passed over. -/
def advance (r : Reading) (count : Nat) (line : Option Line) (ahead : List Line) : Reading :=
  match choose r.context line ahead r.place.alternatives with
  | (none, problems) => { r with problems := r.problems ++ problems ++ [misfit r.place count line] }
  | (some (mark, place), problems) =>
    let ended := if r.place.inTable && !place.inTable then unevenRows r.rows.reverse else []
    { place
      context := nextContext r.context mark
      rows := nextRows r.rows place mark
      marks := mark :: r.marks
      problems := r.problems ++ problems ++ ended }

/-- The reading of all lines and of the end behind them, or of those before there are too many
problems. -/
def run (r : Reading) (count : Nat) : List Line → Reading
  | [] => r.advance count none []
  | line :: rest =>
    let next := r.advance count (some line) rest
    if Problem.reachesLimit next.problems then next else run next count rest

end Reading

def marks (text : String) : Except (List Problem) (List Mark) :=
  let lines := Line.numberFrom 1 (Gherkin.lines text.toList)
  let r := Reading.start.run lines.length lines
  if r.problems.isEmpty then .ok r.marks.reverse else .error r.problems

namespace Raw

def location (l : Location) : String × Data :=
  ("location", .object (("line", .int l.line) ::
    match l.column with
    | some column => [("column", .int column)]
    | none => []))

def node (h : Heading) (members : Members Data) : Data :=
  .object (location h.location :: ("keyword", .text h.keyword) :: members)

def named (h : Heading) (members : Members Data) : Data :=
  node h (("name", .text h.text) :: members)

def cell (c : TableCell) : Data :=
  .object [location c.location, ("value", .text (c.value.getD ""))]

def row (r : TableRow) : Data :=
  .object [location r.location, ("cells", .list (r.cells.map cell))]

def table : List TableRow → Members Data
  | [] => []
  | first :: rest =>
    [("dataTable", .object [location first.location, ("rows", .list ((first :: rest).map row))])]

def examplesTable : List TableRow → Members Data
  | [] => [("tableBody", .list [])]
  | header :: body => [("tableHeader", row header), ("tableBody", .list (body.map row))]

end Raw

/-- What the lines below a line have said, as far as no heading has claimed it. -/
structure Assembly where
  text : List String
  docString : Members Data
  rows : List TableRow
  steps : List Data
  examples : List Data
  /-- Scenarios and backgrounds before the next group. -/
  children : List Data
  groups : List Data
  feature : Members Data
  comments : List Data

namespace Assembly

open Raw

def empty : Assembly := ⟨[], [], [], [], [], [], [], [], []⟩

def add (mark : Mark) (a : Assembly) : Assembly :=
  match mark with
  | .other text => { a with text := text :: a.text }
  | .docStringEnd => { a with text := [] }
  | .docStringStart place fence _ =>
    let docString := .object [location place, ("content", .text ("\n".intercalate a.text)),
      ("delimiter", .text (String.ofList fence))]
    { a with text := [], docString := [("docString", docString)] }
  | .row row => { a with rows := row :: a.rows }
  | .comment text => { a with comments := .object [("text", .text text)] :: a.comments }
  | .step h =>
    let step := node h (("text", .text h.text) :: table a.rows ++ a.docString)
    { a with text := [], docString := [], rows := [], steps := step :: a.steps }
  | .examples h =>
    { a with text := [], rows := [], examples := named h (examplesTable a.rows) :: a.examples }
  | .scenario h =>
    let scenario := named h [("steps", .list a.steps), ("examples", .list a.examples)]
    { a with
      text := [], steps := [], examples := []
      children := .object [("scenario", scenario)] :: a.children }
  | .background h =>
    let background := named h [("steps", .list a.steps)]
    { a with
      text := [], steps := [], children := .object [("background", background)] :: a.children }
  | .group h =>
    let group := named h [("children", .list a.children)]
    { a with text := [], children := [], groups := .object [("rule", group)] :: a.groups }
  | .feature h language =>
    let feature :=
      named h [("language", .text language), ("children", .list (a.children ++ a.groups))]
    { a with text := [], children := [], groups := [], feature := [("feature", feature)] }
  | .eof | .blank | .tags | .language _ => a

end Assembly

def parse : Parser := fun text ↦
  match marks text with
  | .error problems => .error (.parserError (Problem.report problems))
  | .ok marks =>
    let a := marks.foldr Assembly.add .empty
    .ok (.object (a.feature ++ [("comments", .list a.comments)]))

end GherkinLint.Gherkin
