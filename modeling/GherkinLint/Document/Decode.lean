import GherkinLint.Data
import GherkinLint.Document

namespace GherkinLint

inductive MessageFault where
  /-- A list was expected, and the value has no items at all. -/
  | notList
  | notObject
  /-- A step carries a table and a doc string. -/
  | twoArguments
  deriving DecidableEq, Repr

namespace Message

/-- What a list of parts must be, with the reader of its items. A text or an object is taken as the
list of its characters or keys, none of which is a part. -/
def listOf {α : Type} (read : Data → Except MessageFault α) : Data → Except MessageFault (List α)
  | .list items => items.mapM read
  | .text s => if s = "" then pure [] else throw .notObject
  | .object members => if members.isEmpty then pure [] else throw .notObject
  | _ => throw .notList

def list {α : Type} (read : Data → Except MessageFault α) (key : String) (members : Members Data) :
    Except MessageFault (List α) :=
  match members.lookup key with
  | some d => listOf read d
  | none => pure []

def part {α : Type} (read : Members Data → Except MessageFault α) (key : String)
    (members : Members Data) : Except MessageFault (Option α) :=
  match members.lookup key with
  | some (.object inner) => if inner.isEmpty then pure none else some <$> read inner
  | some d => if d.isEmpty then pure none else throw .notObject
  | none => pure none

def item {α : Type} (read : Members Data → Except MessageFault α) : Data → Except MessageFault α
  | .object members => read members
  | _ => throw .notObject

def text (key : String) (absent : String) (members : Members Data) : String :=
  ((members.lookup key).bind Data.text?).getD absent

def location (members : Members Data) : Except MessageFault Location := do
  let found ← part
    (fun m ↦ pure ⟨((m.lookup "line").bind Data.int?).getD 0, (m.lookup "column").bind Data.int?⟩)
    "location" members
  pure (found.getD .unknown)

def tableCell (members : Members Data) : Except MessageFault TableCell := do
  let location ← location members
  pure ⟨location, (members.lookup "value").bind Data.text?⟩

def tableRow (members : Members Data) : Except MessageFault TableRow := do
  let location ← location members
  let cells ← list (item tableCell) "cells" members
  pure ⟨location, cells⟩

def dataTable (members : Members Data) : Except MessageFault DataTable := do
  let location ← location members
  let rows ← list (item tableRow) "rows" members
  pure ⟨location, rows⟩

def docString (members : Members Data) : Except MessageFault DocString := do
  let location ← location members
  pure ⟨location, text "content" "" members, text "delimiter" "\"\"\"" members⟩

def argument : Option DataTable → Option DocString → Except MessageFault (Option Argument)
  | some _, some _ => throw .twoArguments
  | some table, none => pure (some (.table table))
  | none, some docString => pure (some (.docString docString))
  | none, none => pure none

def step (members : Members Data) : Except MessageFault Step := do
  let location ← location members
  let table ← part dataTable "dataTable" members
  let docString ← part docString "docString" members
  let argument ← argument table docString
  pure ⟨location, text "keyword" "" members, text "text" "" members, argument⟩

def examples (members : Members Data) : Except MessageFault Examples := do
  let location ← location members
  let header ← part tableRow "tableHeader" members
  let body ← list (item tableRow) "tableBody" members
  pure ⟨location, text "keyword" "Examples" members, text "name" "" members, header, body⟩

def scenario (members : Members Data) : Except MessageFault Scenario := do
  let location ← location members
  let steps ← list (item step) "steps" members
  let examples ← list (item examples) "examples" members
  pure ⟨location, text "keyword" "" members, text "name" "" members, steps, examples⟩

def background (members : Members Data) : Except MessageFault Background := do
  let location ← location members
  let steps ← list (item step) "steps" members
  pure ⟨location, text "keyword" "" members, text "name" "" members, steps⟩

mutual

def child : Data → Except MessageFault Child
  | .object members => do
    let scenario ← part scenario "scenario" members
    let background ← part background "background" members
    let group ← groupIn members
    pure (.mk scenario background group)
  | _ => throw .notObject

def groupIn : Members Data → Except MessageFault (Option (Group Child))
  | [] => pure none
  | (key, d) :: members => if key = "rule" then groupOf d else groupIn members

def groupOf : Data → Except MessageFault (Option (Group Child))
  | .object members =>
    if members.isEmpty then pure none
    else do
      let location ← location members
      let children ← childrenIn members
      pure (some ⟨location, text "keyword" "" members, text "name" "" members, children⟩)
  | d => if d.isEmpty then pure none else throw .notObject

def childrenIn : Members Data → Except MessageFault (List Child)
  | [] => pure []
  | (key, d) :: members => if key = "children" then childrenOf d else childrenIn members

def childrenOf : Data → Except MessageFault (List Child)
  | .list items => childList items
  | d => listOf (fun _ ↦ throw .notObject) d

def childList : List Data → Except MessageFault (List Child)
  | [] => pure []
  | d :: items => do
    let first ← child d
    let rest ← childList items
    pure (first :: rest)

end

def feature (members : Members Data) : Except MessageFault Feature := do
  let location ← location members
  let children ← childrenIn members
  pure ⟨location, text "keyword" "" members, text "name" "" members, text "language" "en" members,
    children⟩

def comment (members : Members Data) : Except MessageFault String := pure (text "text" "" members)

end Message

/-- The document that a message describes. A given uri takes the place of the message's own. -/
def Document.ofMessage (uri : String) : Data → Except MessageFault Document
  | .object members => do
    let feature ← Message.part Message.feature "feature" members
    let comments ← Message.list (Message.item Message.comment) "comments" members
    pure ⟨if uri = "" then Message.text "uri" "" members else uri, feature, comments⟩
  | _ => throw .notObject

end GherkinLint
