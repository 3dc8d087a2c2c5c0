import GherkinLint.Proofs.Document.Reader

namespace GherkinLint.Message

section Values

variable {α : Type}

def orNull (write : α → Data) : Option α → Data
  | some a => write a
  | none => .null

def optional (key : String) (write : α → Members Data) : Option α → Members Data
  | some a => [(key, .object (write a))]
  | none => []

def objects (write : α → Members Data) (items : List α) : Data :=
  .list (items.map fun a ↦ .object (write a))

end Values

def ofLocation (location : Location) : Members Data :=
  [("line", .int location.line), ("column", orNull .int location.column)]

def ofCell (cell : TableCell) : Members Data :=
  [("location", .object (ofLocation cell.location)), ("value", orNull .text cell.value)]

def ofRow (row : TableRow) : Members Data :=
  [("location", .object (ofLocation row.location)), ("cells", objects ofCell row.cells)]

def ofTable (table : DataTable) : Members Data :=
  [("location", .object (ofLocation table.location)), ("rows", objects ofRow table.rows)]

def ofDocString (docString : DocString) : Members Data :=
  [("location", .object (ofLocation docString.location)), ("content", .text docString.content),
    ("delimiter", .text docString.delimiter)]

def ofStep (step : Step) : Members Data :=
  [("location", .object (ofLocation step.location)), ("keyword", .text step.keyword),
      ("text", .text step.text)] ++
    optional "dataTable" ofTable step.dataTable ++ optional "docString" ofDocString step.docString

def ofExamples (examples : Examples) : Members Data :=
  [("location", .object (ofLocation examples.location)), ("keyword", .text examples.keyword),
      ("name", .text examples.name)] ++
    optional "tableHeader" ofRow examples.header ++ [("tableBody", objects ofRow examples.body)]

def ofScenario (scenario : Scenario) : Members Data :=
  [("location", .object (ofLocation scenario.location)), ("keyword", .text scenario.keyword),
    ("name", .text scenario.name), ("steps", objects ofStep scenario.steps),
    ("examples", objects ofExamples scenario.examples)]

def ofBackground (background : Background) : Members Data :=
  [("location", .object (ofLocation background.location)), ("keyword", .text background.keyword),
    ("name", .text background.name), ("steps", objects ofStep background.steps)]

mutual

def ofChild : Child → Members Data
  | .mk scenario background group =>
    optional "scenario" ofScenario scenario ++ optional "background" ofBackground background ++
      ofGroup? group

def ofGroup? : Option (Group Child) → Members Data
  | some ⟨location, keyword, name, children⟩ =>
    [("rule", .object
      [("location", .object (ofLocation location)), ("keyword", .text keyword),
        ("name", .text name), ("children", .list (ofChildren children))])]
  | none => []

def ofChildren : List Child → List Data
  | [] => []
  | child :: children => .object (ofChild child) :: ofChildren children

end

def ofFeature (feature : Feature) : Members Data :=
  [("location", .object (ofLocation feature.location)), ("keyword", .text feature.keyword),
    ("name", .text feature.name), ("language", .text feature.language),
    ("children", .list (ofChildren feature.children))]

def ofComment (comment : String) : Members Data := [("text", .text comment)]

def ofDocument (document : Document) : Members Data :=
  [("uri", .text document.uri)] ++ optional "feature" ofFeature document.feature ++
    [("comments", objects ofComment document.comments)]

section Values

variable {α : Type} {members : Members Data} {key : String}

theorem lookup_optional (key : String) (write : α → Members Data) (value : Option α) :
    (optional key write value).lookup key = value.map fun a ↦ .object (write a) := by
  cases value <;> simp [optional]

theorem lookup_optional_of_ne {other : String} (h : key ≠ other) (write : α → Members Data)
    (value : Option α) : (optional other write value).lookup key = none := by
  cases value <;> simp [optional, h]

theorem part_of_lookup {read : Members Data → Except MessageFault α} {write : α → Members Data}
    {value : Option α} (h : members.lookup key = value.map fun a ↦ .object (write a))
    (hwrite : ∀ a, write a ≠ []) (hread : ∀ a, value = some a → read (write a) = .ok a) :
    part read key members = .ok value := by
  cases value with
  | none =>
    rw [part_eq, h]
    rfl
  | some a =>
    rw [part_of_object h (hwrite a), hread a rfl]
    rfl

theorem list_of_lookup {read : Members Data → Except MessageFault α} {write : α → Members Data}
    {items : List α} (h : members.lookup key = some (objects write items))
    (hread : ∀ a ∈ items, read (write a) = .ok a) :
    list (item read) key members = .ok items := by
  rw [list, h]
  change (items.map fun a ↦ Data.object (write a)).mapM (item read) = .ok items
  clear h
  induction items with
  | nil => rfl
  | cons a items ih =>
    have hfirst : item read (.object (write a)) = .ok a := hread a List.mem_cons_self
    have hrest := ih fun b hb ↦ hread b (List.mem_cons_of_mem a hb)
    rw [List.map_cons, List.mapM_cons, hfirst, hrest]
    rfl

theorem location_of_lookup {place : Location}
    (h : members.lookup "location" = some (.object (ofLocation place))) :
    location members = .ok place := by
  have hread (a : Location) : (pure ⟨(((ofLocation a).lookup "line").bind Data.int?).getD 0,
      ((ofLocation a).lookup "column").bind Data.int?⟩ : Except MessageFault Location) = .ok a := by
    obtain ⟨line, column⟩ := a
    cases column <;> rfl
  have hlookup : members.lookup "location" =
      (some place).map fun a ↦ .object (ofLocation a) := h
  rw [location, part_of_lookup hlookup (fun _ ↦ List.cons_ne_nil _ _) fun a _ ↦ hread a]
  rfl

end Values

theorem tableCell_ofCell (cell : TableCell) : tableCell (ofCell cell) = .ok cell := by
  have hlocation : location (ofCell cell) = .ok cell.location := location_of_lookup rfl
  rw [tableCell, hlocation]
  obtain ⟨place, value⟩ := cell
  cases value <;> rfl

theorem tableRow_ofRow (row : TableRow) : tableRow (ofRow row) = .ok row := by
  have hlocation : location (ofRow row) = .ok row.location := location_of_lookup rfl
  have hcells : list (item tableCell) "cells" (ofRow row) = .ok row.cells :=
    list_of_lookup rfl fun cell _ ↦ tableCell_ofCell cell
  simp only [tableRow, hlocation, hcells]
  rfl

theorem dataTable_ofTable (table : DataTable) : dataTable (ofTable table) = .ok table := by
  have hlocation : location (ofTable table) = .ok table.location := location_of_lookup rfl
  have hrows : list (item tableRow) "rows" (ofTable table) = .ok table.rows :=
    list_of_lookup rfl fun row _ ↦ tableRow_ofRow row
  simp only [dataTable, hlocation, hrows]
  rfl

theorem docString_ofDocString (doc : DocString) : docString (ofDocString doc) = .ok doc := by
  have hlocation : location (ofDocString doc) = .ok doc.location := location_of_lookup rfl
  simp only [docString, hlocation]
  rfl

theorem step_ofStep (s : Step) : step (ofStep s) = .ok s := by
  have hlocation : location (ofStep s) = .ok s.location := location_of_lookup rfl
  have htable : part dataTable "dataTable" (ofStep s) = .ok s.dataTable := by
    have hlookup : (ofStep s).lookup "dataTable" = s.dataTable.map fun a ↦ .object (ofTable a) := by
      change (optional "dataTable" ofTable s.dataTable ++ _).lookup "dataTable" = _
      rw [List.lookup_append, lookup_optional, lookup_optional_of_ne (by decide), Option.or_none]
    exact part_of_lookup hlookup (fun _ ↦ List.cons_ne_nil _ _) fun t _ ↦ dataTable_ofTable t
  have hdoc : part docString "docString" (ofStep s) = .ok s.docString := by
    have hlookup : (ofStep s).lookup "docString" =
        s.docString.map fun a ↦ .object (ofDocString a) := by
      change (optional "dataTable" ofTable s.dataTable ++ _).lookup "docString" = _
      rw [List.lookup_append, lookup_optional_of_ne (by decide), lookup_optional, Option.none_or]
    exact part_of_lookup hlookup (fun _ ↦ List.cons_ne_nil _ _) fun d _ ↦ docString_ofDocString d
  have hargument : argument s.dataTable s.docString = .ok s.argument := by
    unfold Step.dataTable Step.docString
    rcases s.argument with _ | _ | _ <;> rfl
  simp only [step, hlocation, htable, hdoc, bind, Except.bind, hargument]
  rfl

theorem examples_ofExamples (e : Examples) : examples (ofExamples e) = .ok e := by
  have hlocation : location (ofExamples e) = .ok e.location := location_of_lookup rfl
  have hheader : part tableRow "tableHeader" (ofExamples e) = .ok e.header := by
    have hlookup : (ofExamples e).lookup "tableHeader" =
        e.header.map fun a ↦ .object (ofRow a) := by
      change (optional "tableHeader" ofRow e.header ++ _).lookup "tableHeader" = _
      rw [List.lookup_append, lookup_optional]
      exact Option.or_none
    exact part_of_lookup hlookup (fun _ ↦ List.cons_ne_nil _ _) fun row _ ↦ tableRow_ofRow row
  have hbody : list (item tableRow) "tableBody" (ofExamples e) = .ok e.body := by
    have hlookup : (ofExamples e).lookup "tableBody" = some (objects ofRow e.body) := by
      change (optional "tableHeader" ofRow e.header ++ _).lookup "tableBody" = _
      rw [List.lookup_append, lookup_optional_of_ne (by decide)]
      rfl
    exact list_of_lookup hlookup fun row _ ↦ tableRow_ofRow row
  simp only [examples, hlocation, hheader, hbody]
  rfl

theorem scenario_ofScenario (s : Scenario) : scenario (ofScenario s) = .ok s := by
  have hlocation : location (ofScenario s) = .ok s.location := location_of_lookup rfl
  have hsteps : list (item step) "steps" (ofScenario s) = .ok s.steps :=
    list_of_lookup rfl fun step _ ↦ step_ofStep step
  have hexamples : list (item examples) "examples" (ofScenario s) = .ok s.examples :=
    list_of_lookup rfl fun e _ ↦ examples_ofExamples e
  simp only [scenario, hlocation, hsteps, hexamples]
  rfl

theorem background_ofBackground (b : Background) : background (ofBackground b) = .ok b := by
  have hlocation : location (ofBackground b) = .ok b.location := location_of_lookup rfl
  have hsteps : list (item step) "steps" (ofBackground b) = .ok b.steps :=
    list_of_lookup rfl fun step _ ↦ step_ofStep step
  simp only [background, hlocation, hsteps]
  rfl

def ofGroup (g : Group Child) : Members Data :=
  [("location", .object (ofLocation g.location)), ("keyword", .text g.keyword),
    ("name", .text g.name), ("children", objects ofChild g.children)]

theorem ofChildren_eq (children : List Child) :
    ofChildren children = children.map fun c ↦ .object (ofChild c) := by
  induction children with
  | nil => rfl
  | cons c children ih => rw [ofChildren, ih, List.map_cons]

theorem ofGroup?_eq (g : Option (Group Child)) : ofGroup? g = optional "rule" ofGroup g := by
  cases g with
  | none => rfl
  | some g =>
    obtain ⟨place, keyword, name, children⟩ := g
    rw [ofGroup?, ofChildren_eq]
    rfl

theorem group_ofGroup {g : Group Child} (h : ∀ c ∈ g.children, childNode (ofChild c) = .ok c) :
    group (ofGroup g) = .ok g := by
  have hlocation : location (ofGroup g) = .ok g.location := location_of_lookup rfl
  have hchildren : list child "children" (ofGroup g) = .ok g.children := by
    rw [child_eq]
    exact list_of_lookup rfl h
  simp only [group, hlocation, hchildren]
  rfl

/-- One child, when its group is read. -/
theorem childNode_ofChild_of_group {s : Option Scenario} {b : Option Background}
    {g : Option (Group Child)} (h : ∀ a, g = some a → group (ofGroup a) = .ok a) :
    childNode (ofChild (.mk s b g)) = .ok (.mk s b g) := by
  have hlookup (key : String) : (ofChild (.mk s b g)).lookup key =
      (((optional "scenario" ofScenario s).lookup key).or
        ((optional "background" ofBackground b).lookup key)).or
          ((optional "rule" ofGroup g).lookup key) := by
    rw [ofChild, ofGroup?_eq, List.lookup_append, List.lookup_append]
  have hscenario : part scenario "scenario" (ofChild (.mk s b g)) = .ok s := by
    have hkey := hlookup "scenario"
    rw [lookup_optional, lookup_optional_of_ne (by decide), lookup_optional_of_ne (by decide),
      Option.or_none, Option.or_none] at hkey
    exact part_of_lookup hkey (fun _ ↦ List.cons_ne_nil _ _) fun a _ ↦ scenario_ofScenario a
  have hbackground : part background "background" (ofChild (.mk s b g)) = .ok b := by
    have hkey := hlookup "background"
    rw [lookup_optional_of_ne (by decide), lookup_optional, lookup_optional_of_ne (by decide),
      Option.none_or, Option.or_none] at hkey
    exact part_of_lookup hkey (fun _ ↦ List.cons_ne_nil _ _) fun a _ ↦ background_ofBackground a
  have hgroup : part group "rule" (ofChild (.mk s b g)) = .ok g := by
    have hkey := hlookup "rule"
    rw [lookup_optional_of_ne (by decide), lookup_optional_of_ne (by decide), lookup_optional,
      Option.none_or, Option.none_or] at hkey
    exact part_of_lookup hkey (fun _ ↦ List.cons_ne_nil _ _) h
  simp only [childNode, hscenario, hbackground, hgroup]
  rfl

theorem childNode_ofChild : ∀ c : Child, childNode (ofChild c) = .ok c
  | .mk _ _ none => childNode_ofChild_of_group fun _ hg ↦ by cases hg
  | .mk _ _ (some ⟨_, _, _, _⟩) => childNode_ofChild_of_group fun _ hg ↦ by
    cases hg
    exact group_ofGroup fun c _ ↦ childNode_ofChild c

theorem feature_ofFeature (f : Feature) : feature (ofFeature f) = .ok f := by
  have hlocation : location (ofFeature f) = .ok f.location := location_of_lookup rfl
  have hchildren : list (item childNode) "children" (ofFeature f) = .ok f.children := by
    refine list_of_lookup ?_ fun c _ ↦ childNode_ofChild c
    rw [ofFeature, ofChildren_eq]
    rfl
  simp only [feature_eq, hlocation, hchildren]
  rfl

/-- What is written of a document is read as that document, under the given uri if there is one. -/
theorem ofMessage_ofDocument (uri : String) (document : Document) :
    Document.ofMessage uri (.object (ofDocument document)) =
      .ok { document with uri := if uri = "" then document.uri else uri } := by
  have hfeature : part feature "feature" (ofDocument document) = .ok document.feature := by
    have hlookup : (ofDocument document).lookup "feature" =
        document.feature.map fun a ↦ .object (ofFeature a) := by
      change (optional "feature" ofFeature document.feature ++ _).lookup "feature" = _
      rw [List.lookup_append, lookup_optional]
      exact Option.or_none
    exact part_of_lookup hlookup (fun _ ↦ List.cons_ne_nil _ _) fun a _ ↦ feature_ofFeature a
  have hcomments : list (item comment) "comments" (ofDocument document) =
      .ok document.comments := by
    have hlookup : (ofDocument document).lookup "comments" =
        some (objects ofComment document.comments) := by
      change (optional "feature" ofFeature document.feature ++ _).lookup "comments" = _
      rw [List.lookup_append, lookup_optional_of_ne (by decide)]
      rfl
    exact list_of_lookup hlookup fun _ _ ↦ rfl
  simp only [Document.ofMessage, hfeature, hcomments]
  rfl

end GherkinLint.Message
